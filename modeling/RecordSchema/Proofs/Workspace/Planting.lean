import Mathlib.Data.List.Forall2
import Mathlib.Data.Option.Defs
import RecordSchema.Proofs.Property.Tree
import RecordSchema.Proofs.Workspace.Action
import RecordSchema.Proofs.Workspace.Trees

/-!
# Bringing trees into a workspace

A tree is brought into a workspace as new nodes behind the others, each of which refers to new nodes
in front of it only.  So nothing that was there before is nested in what is new, and the tree below
the new property is the one that was brought in, whatever nodes come later.
-/

namespace RecordSchema.Workspace

variable {α β : Type}

/-! ## Actions that only add nodes -/

/-- Every node of a block refers to nodes that stand in front of it in the block. -/
def Inward (nodes block : Array (Node Nat)) : Prop :=
  ∀ (position : Nat) node, block[position]? = some node →
    ∀ inner, node.Refers inner → nodes.size ≤ inner ∧ inner < nodes.size + position

/-- An action that adds a block of nodes and changes nothing else; the nodes before, the block and
the value that it gives are related. -/
def Grows (action : Action α) (result : Array (Node Nat) → Array (Node Nat) → α → Prop) : Prop :=
  ∀ workspace : Workspace, ∃ block value,
    outcome action workspace =
        (.ok value, { workspace with nodes := workspace.nodes ++ block }) ∧
      Inward workspace.nodes block ∧ result workspace.nodes block value

variable {nodes first second later block : Array (Node Nat)}
  {result : Array (Node Nat) → Array (Node Nat) → α → Prop}

theorem Inward.append (firstInward : Inward nodes first)
    (secondInward : Inward (nodes ++ first) second) : Inward nodes (first ++ second) := by
  intro position node present inner refers
  rcases Nat.lt_or_ge position first.size with early | late
  · rw [Array.getElem?_append_left early] at present
    exact firstInward position node present inner refers
  · rw [Array.getElem?_append_right late] at present
    have range := secondInward _ node present inner refers
    rw [Array.size_append] at range
    omega

theorem Inward.push (inward : Inward nodes block) {node : Node Nat}
    (within : ∀ inner, node.Refers inner →
      nodes.size ≤ inner ∧ inner < nodes.size + block.size) :
    Inward nodes (block.push node) := by
  intro position held present inner refers
  rw [Array.getElem?_push] at present
  split at present
  · next atEnd =>
      cases present
      have range := within inner refers
      omega
  · exact inward position held present inner refers

private theorem inward_empty (nodes : Array (Node Nat)) : Inward nodes #[] := by
  intro position node present
  simp at present

/-- What is nested in a node of the block stands in the block, in front of the node. -/
theorem Inward.below {outer inner : Nat} (inward : Inward nodes block)
    (within : nodes.size ≤ outer ∧ outer < nodes.size + block.size)
    (below : Below (nodes ++ block ++ later) outer inner) :
    nodes.size ≤ inner ∧ inner < outer := by
  have step : ∀ {upper lower : Nat}, nodes.size ≤ upper ∧ upper < nodes.size + block.size →
      Contains (nodes ++ block ++ later) upper lower → nodes.size ≤ lower ∧ lower < upper := by
    rintro upper lower range ⟨node, present, refers⟩
    rw [Array.append_assoc, Array.getElem?_append_right range.1,
      Array.getElem?_append_left (by omega)] at present
    have inside := inward _ node present lower refers
    omega
  induction below using Relation.TransGen.head_induction_on with
  | single contains =>
      exact step within contains
  | head contains _ inductionHypothesis =>
      have nearer := step within contains
      have deeper := inductionHypothesis (by omega)
      omega

theorem Grows.bind {action : Action α} {next : α → Action β}
    {following : α → Array (Node Nat) → Array (Node Nat) → β → Prop}
    (grows : Grows action result) (growsOn : ∀ value, Grows (next value) (following value)) :
    Grows (action >>= next) fun nodes block value =>
      ∃ first second between, block = first ++ second ∧ Inward nodes first ∧
        result nodes first between ∧ Inward (nodes ++ first) second ∧
          following between (nodes ++ first) second value := by
  intro workspace
  obtain ⟨first, between, ran, firstInward, isResult⟩ := grows workspace
  obtain ⟨second, value, ranOn, secondInward, isFollowing⟩ :=
    growsOn between { workspace with nodes := workspace.nodes ++ first }
  refine ⟨first ++ second, value, ?_, firstInward.append secondInward,
    first, second, between, rfl, firstInward, isResult, secondInward, isFollowing⟩
  rw [outcome_bind, ran]
  simp only [ranOn, Array.append_assoc]

private theorem grows_pure (value : α) :
    Grows (pure value) fun _ block given => block = #[] ∧ given = value := by
  intro workspace
  refine ⟨#[], value, ?_, inward_empty _, rfl, rfl⟩
  simp only [Array.append_empty]
  rfl

theorem Grows.imp {action : Action α}
    {other : Array (Node Nat) → Array (Node Nat) → α → Prop} (grows : Grows action result)
    (weaker : ∀ nodes block value, Inward nodes block → result nodes block value →
      other nodes block value) : Grows action other := by
  intro workspace
  obtain ⟨block, value, ran, inward, isResult⟩ := grows workspace
  exact ⟨block, value, ran, inward, weaker _ _ _ inward isResult⟩

private theorem Grows.bind_pure {action : Action α} (grows : Grows action result) (change : α → β) :
    Grows (action >>= fun value => pure (change value)) fun nodes block value =>
      ∃ given, result nodes block given ∧ value = change given := by
  intro workspace
  obtain ⟨block, value, ran, inward, isResult⟩ := grows workspace
  refine ⟨block, change value, ?_, inward, value, isResult, rfl⟩
  rw [outcome_bind, ran]
  rfl

/-! ## Trees in a block -/

/-- A number in the block stands for a property, whatever nodes come later. -/
structure Planted (property : Property) (nodes block : Array (Node Nat)) (number : Nat) : Prop where
  within : nodes.size ≤ number ∧ number < nodes.size + block.size
  shows : ∀ later depth, block.size ≤ depth →
    treeWithin (nodes ++ block ++ later) depth number = .ok property

/-- A reference into the block stands for a nested schema, whatever nodes come later. -/
structure StandsFor (nodes block : Array (Node Nat)) (ref : Child Nat) (child : Child Property) :
    Prop where
  within : ∀ inner, ref = .property inner →
    nodes.size ≤ inner ∧ inner < nodes.size + block.size
  shows : ∀ later depth, block.size ≤ depth →
    childOf (treeWithin (nodes ++ block ++ later) depth) ref = .ok child

variable {ref : Child Nat} {child : Child Property}

theorem StandsFor.append (stands : StandsFor nodes first ref child) (second : Array (Node Nat)) :
    StandsFor nodes (first ++ second) ref child where
  within := by
    intro inner isRef
    have range := stands.within inner isRef
    rw [Array.size_append]
    omega
  shows := by
    intro later depth deep
    rw [Array.size_append] at deep
    have shown := stands.shows (second ++ later) depth (by omega)
    simpa only [Array.append_assoc] using shown

private theorem StandsFor.of_later (stands : StandsFor (nodes ++ first) second ref child) :
    StandsFor nodes (first ++ second) ref child where
  within := by
    intro inner isRef
    have range := stands.within inner isRef
    rw [Array.size_append] at range ⊢
    omega
  shows := by
    intro later depth deep
    rw [Array.size_append] at deep
    have shown := stands.shows later depth (by omega)
    simpa only [Array.append_assoc] using shown

def ChildrenStandFor (nodes block : Array (Node Nat)) :
    Fields (Child Nat) Name → List (Name × Child Property) → Prop :=
  List.Forall₂ fun ref child => ref.1 = child.1 ∧ StandsFor nodes block ref.2 child.2

variable {refs : Fields (Child Nat) Name} {children : List (Name × Child Property)}

theorem ChildrenStandFor.append (stand : ChildrenStandFor nodes first refs children)
    (second : Array (Node Nat)) : ChildrenStandFor nodes (first ++ second) refs children :=
  List.Forall₂.imp (fun _ _ both => ⟨both.1, both.2.append second⟩) stand

private theorem ChildrenStandFor.of_later
    (stand : ChildrenStandFor (nodes ++ first) second refs children) :
    ChildrenStandFor nodes (first ++ second) refs children :=
  List.Forall₂.imp (fun _ _ both => ⟨both.1, both.2.of_later⟩) stand

theorem ChildrenStandFor.shows (stand : ChildrenStandFor nodes block refs children)
    {depth : Nat} (deep : block.size ≤ depth) (later : Array (Node Nat)) :
    childrenOf (treeWithin (nodes ++ block ++ later) depth) refs = .ok children := by
  unfold ChildrenStandFor at stand
  induction stand with
  | nil =>
      rfl
  | @cons ref child refs children first _ inductionHypothesis =>
      obtain ⟨name, ref⟩ := ref
      obtain ⟨_, child⟩ := child
      obtain ⟨rfl, stands⟩ := first
      rw [childrenOf, stands.shows later depth deep, Outcome.ok_bind, inductionHypothesis]
      rfl

/-! ## Planting -/

private theorem grows_plantChild
    (nested : ∀ property, child = .property property →
      Grows (plant property) (Planted property)) :
    Grows (plantChild child) fun nodes block ref => StandsFor nodes block ref child := by
  cases child with
  | document fields =>
      rw [plantChild]
      refine (grows_pure _).imp ?_
      rintro nodes _ _ _ ⟨rfl, rfl⟩
      exact ⟨nofun, fun _ _ _ => rfl⟩
  | property property =>
      rw [plantChild]
      refine ((nested property rfl).bind_pure Child.property).imp ?_
      rintro nodes block _ _ ⟨number, planted, rfl⟩
      constructor
      · rintro inner ⟨⟩
        exact planted.within
      · intro later depth deep
        rw [childOf, planted.shows later depth deep]
        rfl

private theorem grows_plantChildren
    (nested : ∀ name property, (name, .property property) ∈ children →
      Grows (plant property) (Planted property)) :
    Grows (plantChildren children) fun nodes block refs =>
      ChildrenStandFor nodes block refs children := by
  induction children with
  | nil =>
      rw [plantChildren]
      refine (grows_pure _).imp ?_
      rintro nodes _ _ _ ⟨rfl, rfl⟩
      exact List.Forall₂.nil
  | cons entry rest inductionHypothesis =>
      obtain ⟨name, child⟩ := entry
      have ofChild : Grows (plantChild child) fun nodes block ref =>
          StandsFor nodes block ref child :=
        grows_plantChild fun property isChild =>
          nested name property (isChild ▸ List.mem_cons_self)
      have ofRest := inductionHypothesis fun other property member =>
        nested other property (List.mem_cons_of_mem _ member)
      rw [plantChildren]
      refine (ofChild.bind fun ref => ofRest.bind_pure fun refs => (name, ref) :: refs).imp ?_
      rintro nodes _ _ _ ⟨first, second, ref, rfl, _, stands, _, refs, stand, rfl⟩
      exact List.Forall₂.cons ⟨rfl, stands.append second⟩ stand.of_later

private theorem grows_plantItems {items : Option (Child Property)}
    (nested : ∀ property, items = some (.property property) →
      Grows (plant property) (Planted property)) :
    Grows (plantItems items) fun nodes block ref =>
      Option.Rel (StandsFor nodes block) ref items := by
  cases items with
  | none =>
      rw [plantItems]
      refine (grows_pure _).imp ?_
      rintro nodes _ _ _ ⟨rfl, rfl⟩
      exact .none
  | some child =>
      have ofChild : Grows (plantChild child) fun nodes block ref =>
          StandsFor nodes block ref child :=
        grows_plantChild fun property isChild => nested property (congrArg some isChild)
      rw [plantItems]
      refine (ofChild.bind_pure some).imp ?_
      rintro nodes block _ _ ⟨ref, stands, rfl⟩
      exact .some stands

theorem ChildrenStandFor.within (stand : ChildrenStandFor nodes block refs children)
    {name : Name} {inner : Nat} (member : (name, .property inner) ∈ refs) :
    nodes.size ≤ inner ∧ inner < nodes.size + block.size := by
  unfold ChildrenStandFor at stand
  induction stand with
  | nil =>
      cases member
  | cons first _ inductionHypothesis =>
      rcases List.mem_cons.mp member with rfl | later
      · exact first.2.within inner rfl
      · exact inductionHypothesis later

/-- A new node behind a block in which everything that it refers to stands. -/
theorem planted_push {facets : Facets} {ref : Option (Child Nat)}
    {items : Option (Child Property)}
    (stand : ChildrenStandFor nodes block refs children)
    (stands : Option.Rel (StandsFor nodes block) ref items) :
    Planted (.mk facets children items) nodes (block.push ⟨facets, refs, ref⟩)
      (nodes ++ block).size where
  within := by
    rw [Array.size_append, Array.size_push]
    omega
  shows := by
    intro later depth deep
    rw [Array.size_push] at deep
    obtain ⟨less, rfl⟩ : ∃ less, depth = less + 1 := ⟨depth - 1, by omega⟩
    have regrouped : nodes ++ block.push ⟨facets, refs, ref⟩ ++ later =
        nodes ++ block ++ (#[⟨facets, refs, ref⟩] ++ later) := by
      rw [Array.push_eq_append]
      simp only [Array.append_assoc]
    have present : (nodes ++ block.push ⟨facets, refs, ref⟩ ++ later)[(nodes ++ block).size]? =
        some ⟨facets, refs, ref⟩ := by
      rw [Array.append_push, Array.getElem?_append_left (by simp), Array.getElem?_push_size]
    rw [treeWithin_succ present, regrouped, assemble, stand.shows (by omega), Outcome.ok_bind]
    cases stands with
    | none =>
        rfl
    | some isShown =>
        simp only [isShown.shows _ less (by omega), Outcome.ok_bind]
        rfl

/-- A tree is brought in as nodes that refer to each other only, and the tree below the new number
is that tree from then on. -/
theorem grows_plant (property : Property) : Grows (plant property) (Planted property) := by
  induction property using Property.induction with
  | step facets children items ofChildren ofItems =>
      intro workspace
      obtain ⟨first, refs, ranChildren, firstInward, stand⟩ :=
        grows_plantChildren ofChildren workspace
      obtain ⟨second, ref, ranItems, secondInward, stands⟩ := grows_plantItems ofItems
        { workspace with nodes := workspace.nodes ++ first }
      have childrenStand := stand.append second
      have itemsStand : Option.Rel (StandsFor workspace.nodes (first ++ second)) ref items := by
        cases stands with
        | none =>
            exact .none
        | some isShown =>
            exact .some isShown.of_later
      have within : ∀ inner, (⟨facets, refs, ref⟩ : Node Nat).Refers inner →
          workspace.nodes.size ≤ inner ∧
            inner < workspace.nodes.size + (first ++ second).size := by
        rintro inner (⟨name, member⟩ | isItems)
        · exact childrenStand.within member
        · cases itemsStand with
          | none =>
              cases isItems
          | some isShown =>
              exact isShown.within inner (Option.some.inj isItems)
      refine ⟨(first ++ second).push ⟨facets, refs, ref⟩,
        (workspace.nodes ++ (first ++ second)).size, ?_,
        (firstInward.append secondInward).push within, planted_push childrenStand itemsStand⟩
      rw [plant, outcome_bind, ranChildren]
      simp only [outcome_bind, ranItems, Array.append_assoc, Array.append_push]
      rfl

end RecordSchema.Workspace
