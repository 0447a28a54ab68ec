import RecordSchema.Proofs.Collection.Composition
import RecordSchema.Proofs.Workspace.Mutation
import RecordSchema.Proofs.Workspace.Trees

/-!
# Written forms of collections, and renaming their members

A collection is written from the trees below its members.  Renaming members changes no tree but for
the name at its root, as long as no member is nested in another, and the name of a member is no part
of its written form.
-/

namespace RecordSchema.Workspace

variable {workspace after : Workspace} {collection number : Nat}
  {members : Fields Nat} {documents : Fields Value} {renamed roots : List Nat}

/-- None of some properties is nested in one of others. -/
def Apart (nodes : Array (Node Nat)) (outers inners : List Nat) : Prop :=
  ∀ outer ∈ outers, ∀ inner ∈ inners, ¬ Below nodes outer inner

theorem Apart.mono {nodes : Array (Node Nat)} {outers inners fewer less : List Nat}
    (apart : Apart nodes outers inners) (fewerOuters : fewer ⊆ outers)
    (fewerInners : less ⊆ inners) : Apart nodes fewer less :=
  fun outer isOuter inner isInner =>
    apart outer (fewerOuters isOuter) inner (fewerInners isInner)

/-! ## Written forms -/

/-- The written form of a shared property in a collection. -/
def entryAt (workspace : Workspace) (number : Nat) : Except Error Value :=
  (workspace.tree number).map Collection.entryDocument

/-- Members with these written forms. -/
def Renders (workspace : Workspace) (members : Fields Nat) (documents : Fields Value) : Prop :=
  members.map (fun member => (member.1, workspace.entryAt member.2)) =
    documents.map fun entry => (entry.1, .ok entry.2)

def numbers (members : Fields Nat) : List Nat :=
  members.map (·.2)

theorem numbers_rekey (change : String → String) (members : Fields Nat) :
    numbers (Fields.rekey change members) = numbers members := by
  simp [numbers, Fields.rekey]

theorem renders_cons {name : String} :
    Renders workspace ((name, number) :: members) documents ↔
      ∃ document rest, documents = (name, document) :: rest ∧
        workspace.entryAt number = .ok document ∧ Renders workspace members rest := by
  cases documents with
  | nil =>
      simp [Renders]
  | cons entry rest =>
      obtain ⟨key, document⟩ := entry
      simp only [Renders, List.map_cons, List.cons.injEq, Prod.mk.injEq]
      constructor
      · rintro ⟨⟨rfl, written⟩, remaining⟩
        exact ⟨document, rest, ⟨⟨rfl, rfl⟩, rfl⟩, written, remaining⟩
      · rintro ⟨_, _, ⟨⟨rfl, rfl⟩, rfl⟩, written, remaining⟩
        exact ⟨⟨rfl, written⟩, remaining⟩

/-- Members whose trees can be read have written forms. -/
theorem exists_renders
    (trees : ∀ number ∈ numbers members, ∃ property, workspace.tree number = .ok property) :
    ∃ documents, Renders workspace members documents := by
  induction members with
  | nil =>
      exact ⟨[], rfl⟩
  | cons member rest inductionHypothesis =>
      obtain ⟨property, isTree⟩ := trees member.2 List.mem_cons_self
      obtain ⟨documents, renders⟩ := inductionHypothesis fun number isMember =>
        trees number (List.mem_cons_of_mem _ isMember)
      refine ⟨(member.1, Collection.entryDocument property) :: documents, renders_cons.mpr ?_⟩
      refine ⟨_, _, rfl, ?_, renders⟩
      rw [entryAt, isTree]
      rfl

theorem Renders.tree (renders : Renders workspace members documents)
    (isMember : number ∈ numbers members) : ∃ property, workspace.tree number = .ok property := by
  induction members generalizing documents with
  | nil =>
      cases isMember
  | cons member rest inductionHypothesis =>
      obtain ⟨document, later, rfl, written, remaining⟩ := renders_cons.mp renders
      rcases List.mem_cons.mp isMember with rfl | isLater
      · obtain ⟨property, isTree, _⟩ := Outcome.map_eq_ok_iff.mp written
        exact ⟨property, isTree⟩
      · exact inductionHypothesis remaining isLater

theorem Renders.names_eq (renders : Renders workspace members documents) :
    members.names = documents.names := by
  have sameNames := congrArg (List.map Prod.fst) renders
  simpa [Fields.names, Function.comp_def] using sameNames

theorem Renders.distinct (renders : Renders workspace members documents)
    (distinct : members.Distinct) : documents.Distinct := by
  rw [Fields.Distinct, ← renders.names_eq]
  exact distinct

theorem Renders.of_same (renders : Renders workspace members documents)
    (same : ∀ number ∈ numbers members, after.entryAt number = workspace.entryAt number) :
    Renders after members documents := by
  rw [Renders, ← renders]
  refine List.map_congr_left fun member isMember => ?_
  rw [same member.2 (List.mem_map.mpr ⟨member, isMember, rfl⟩)]

theorem Renders.rekey (renders : Renders workspace members documents) (change : String → String) :
    Renders workspace (Fields.rekey change members) (Fields.rekey change documents) := by
  have changed := congrArg (Fields.rekey change) renders
  simpa [Renders, Fields.rekey, Function.comp_def] using changed

theorem Renders.putAll {others : Fields Nat} {later : Fields Value}
    (renders : Renders workspace members documents)
    (laterRenders : Renders workspace others later) :
    Renders workspace (members.putAll others) (documents.putAll later) := by
  rw [Renders, Fields.map_putAll, renders, laterRenders, Fields.map_putAll]

/-! ## What a collection is written from -/

theorem outcome_members {held : Fields Nat Name}
    (present : workspace.collections[collection]? = some held) :
    outcome (Workspace.members collection) workspace = (.ok held, workspace) := by
  have ran : outcome (Workspace.members collection) workspace =
      outcome (found workspace.collections[collection]?) workspace := rfl
  rw [ran, outcome_found, present]

private theorem outcome_property (number : Nat) (workspace : Workspace) :
    outcome (property number) workspace = (workspace.tree number, workspace) := by
  have ran : outcome (property number) workspace =
      outcome (checked (workspace.tree number)) workspace := rfl
  rw [ran, outcome_checked]

private theorem outcome_memberTrees (renders : Renders workspace members documents) :
    ∃ trees : Fields Property,
      outcome (memberTrees members.named) workspace = (.ok trees.named, workspace) ∧
        trees.map (fun entry => (entry.1, Collection.entryDocument entry.2)) = documents := by
  induction members generalizing documents with
  | nil =>
      cases documents with
      | nil =>
          exact ⟨[], rfl, rfl⟩
      | cons entry rest =>
          cases renders
  | cons member rest inductionHypothesis =>
      obtain ⟨document, later, rfl, written, remaining⟩ := renders_cons.mp renders
      obtain ⟨tree, isTree, rfl⟩ := Outcome.map_eq_ok_iff.mp written
      obtain ⟨trees, ran, rfl⟩ := inductionHypothesis remaining
      refine ⟨(member.1, tree) :: trees, ?_, rfl⟩
      have read : outcome (property member.2) workspace = (.ok tree, workspace) := by
        rw [outcome_property, isTree]
      rw [Fields.named_cons, memberTrees, outcome_bind_of_ok read, outcome_bind_of_ok ran]
      rfl

/-- A collection that is there under text names, each once, with its written form; none of its
members is nested in another. -/
structure Holding (workspace : Workspace) (collection : Nat) (members : Fields Nat)
    (documents : Fields Value) : Prop where
  present : workspace.collections[collection]? = some members.named
  distinct : members.Distinct
  renders : Renders workspace members documents
  apart : Apart workspace.nodes (numbers members) (numbers members)

theorem Holding.outcome_collectionDocument
    (holding : Holding workspace collection members documents) :
    outcome (collectionDocument collection) workspace = (.ok (.map documents), workspace) := by
  obtain ⟨trees, ran, rfl⟩ := outcome_memberTrees holding.renders
  rw [collectionDocument, outcome_bind_of_ok (outcome_members holding.present),
    outcome_bind_of_ok ran, ← Collection.toDocument_named]
  rfl

/-! ## Renaming -/

/-- Some properties may have got other names, and nothing else has changed about properties. -/
structure Relabels (renamed : List Nat) (workspace after : Workspace) : Prop where
  size : after.nodes.size = workspace.nodes.size
  nodes : ∀ number : Nat, after.nodes[number]? = workspace.nodes[number]? ∨
    number ∈ renamed ∧ ∃ node name, workspace.nodes[number]? = some node ∧
      after.nodes[number]? = some (node.withFacets { node.facets with name := .text name })

namespace Relabels

theorem refl (renamed : List Nat) (workspace : Workspace) :
    Relabels renamed workspace workspace where
  size := rfl
  nodes _ := .inl rfl

theorem trans {between : Workspace} (first : Relabels renamed workspace between)
    (second : Relabels renamed between after) : Relabels renamed workspace after where
  size := second.size.trans first.size
  nodes := by
    intro number
    rcases second.nodes number with same | ⟨isRenamed, held, name, isHeld, isNew⟩
    · rw [same]
      exact first.nodes number
    · rcases first.nodes number with same | ⟨_, node, _, present, isBetween⟩
      · rw [same] at isHeld
        exact .inr ⟨isRenamed, held, name, isHeld, isNew⟩
      · cases isHeld.symm.trans isBetween
        exact .inr ⟨isRenamed, node, name, present, isNew⟩

/-- Renaming leaves it as it is what is nested in what. -/
theorem below_eq (relabels : Relabels renamed workspace after) :
    Below after.nodes = Below workspace.nodes := by
  unfold Below
  rw [contains_of_same_nesting fun number => ?_]
  rcases relabels.nodes number with same | ⟨_, node, name, present, isNew⟩
  · rw [same]
  · rw [present, isNew]
    rfl

theorem apart_iff {outers inners : List Nat} (relabels : Relabels renamed workspace after) :
    Apart after.nodes outers inners ↔ Apart workspace.nodes outers inners := by
  rw [Apart, relabels.below_eq, Apart]

/-- A property in which none of the renamed ones is nested is written as before, renamed or not. -/
theorem entryAt_eq (relabels : Relabels renamed workspace after) {property : Property}
    (read : workspace.tree number = .ok property)
    (clear : ∀ inner ∈ renamed, ¬ Below workspace.nodes number inner) :
    after.entryAt number = workspace.entryAt number := by
  have unchanged : ∀ inner, Below workspace.nodes number inner →
      after.nodes[inner]? = workspace.nodes[inner]? := by
    intro inner below
    rcases relabels.nodes inner with same | ⟨isRenamed, _⟩
    · exact same
    · exact absurd below (clear inner isRenamed)
  rw [Workspace.entryAt, Workspace.entryAt, Workspace.tree, relabels.size, read]
  rcases relabels.nodes number with same | ⟨_, node, name, present, isNew⟩
  · have still : treeWithin after.nodes (workspace.nodes.size + 1) number = .ok property := by
      refine treeWithin_of_agree (Nat.le_refl _) read fun inner held reaches isHeld => ?_
      rcases Relation.reflTransGen_iff_eq_or_transGen.mp reaches with rfl | below
      · rw [same, isHeld]
      · rw [unchanged inner below, isHeld]
    rw [still]
  · have changed := treeWithin_withFacets read present isNew fun inner held below isHeld => by
      rw [unchanged inner below, isHeld]
    have sameFacets := facets_of_treeWithin read present
    rw [changed, Outcome.map_ok, Outcome.map_ok, ← sameFacets]
    exact congrArg Except.ok (Collection.entryDocument_renamed name property)

end Relabels

/-! ## Renaming all members -/

def withMembers (workspace : Workspace) (collection : Nat) (members : Fields Nat Name) :
    Workspace :=
  { workspace with collections := workspace.collections.setIfInBounds collection members }

theorem members_withMembers {held : Fields Nat Name}
    (present : workspace.collections[collection]? = some held) (members : Fields Nat Name) :
    (workspace.withMembers collection members).collections[collection]? = some members := by
  obtain ⟨inside, _⟩ := Array.getElem?_eq_some_iff.mp present
  simp [withMembers, inside]

private theorem relabels_withFacets {node : Node Nat} (isRenamed : number ∈ renamed)
    (present : workspace.nodes[number]? = some node) (name : String) :
    Relabels renamed workspace
      (workspace.withFacets number node { node.facets with name := .text name }) where
  size := Array.size_setIfInBounds
  nodes := by
    intro other
    obtain ⟨inside, _⟩ := Array.getElem?_eq_some_iff.mp present
    by_cases same : other = number
    · cases same
      refine .inr ⟨isRenamed, node, name, present, ?_⟩
      simp [withFacets, inside]
    · refine .inl ?_
      simp [withFacets, Array.getElem?_setIfInBounds_ne (Ne.symm same)]

private theorem outcome_renameMembers (start : String)
    (there : ∀ number ∈ numbers members, number ∈ renamed ∧ number < workspace.nodes.size) :
    ∃ after, outcome (renameMembers start members.named) workspace =
        (.ok (Fields.rekey (start ++ ·) members).named, after) ∧
      after.collections = workspace.collections ∧ Relabels renamed workspace after := by
  induction members generalizing workspace with
  | nil =>
      exact ⟨workspace, rfl, rfl, .refl renamed workspace⟩
  | cons member rest inductionHypothesis =>
      obtain ⟨name, number⟩ := member
      obtain ⟨isRenamed, inside⟩ := there number List.mem_cons_self
      obtain ⟨node, present⟩ : ∃ node, workspace.nodes[number]? = some node :=
        ⟨_, Array.getElem?_eq_getElem inside⟩
      have step := relabels_withFacets isRenamed present (start ++ name)
      have thereAfter : ∀ other ∈ numbers rest, other ∈ renamed ∧
          other < (workspace.withFacets number node
            { node.facets with name := .text (start ++ name) }).nodes.size := by
        intro other isMember
        rw [step.size]
        exact there other (List.mem_cons_of_mem _ isMember)
      obtain ⟨after, ran, sameCollections, relabels⟩ := inductionHypothesis thereAfter
      refine ⟨after, ?_, sameCollections, step.trans relabels⟩
      have prefixed : (Name.text name).withPrefix start = .ok (start ++ name) := rfl
      have edited : outcome (editFacets number fun facets =>
            .done { facets with name := .text (start ++ name) }) workspace =
          (.ok (), workspace.withFacets number node
            { node.facets with name := .text (start ++ name) }) :=
        outcome_editFacets present _
      rw [Fields.named_cons, renameMembers, prefixed, outcome_bind_of_ok (outcome_checked _ _),
        outcome_bind_of_ok edited, outcome_bind_of_ok ran]
      rfl

namespace Holding

theorem inside (holding : Holding workspace collection members documents)
    (isMember : number ∈ numbers members) : number < workspace.nodes.size := by
  obtain ⟨property, isTree⟩ := holding.renders.tree isMember
  obtain ⟨_, node, _, present, _⟩ := treeWithin_eq_ok isTree
  exact (Array.getElem?_eq_some_iff.mp present).1

/-- A collection is written as before if nothing that is nested in its members is renamed. -/
theorem of_relabels (holding : Holding workspace collection members documents)
    (relabels : Relabels renamed workspace after)
    (clear : Apart workspace.nodes (numbers members) renamed)
    (present : after.collections[collection]? = some members.named) :
    Holding after collection members documents where
  present := present
  distinct := holding.distinct
  renders := by
    refine holding.renders.of_same fun number isMember => ?_
    obtain ⟨property, isTree⟩ := holding.renders.tree isMember
    exact relabels.entryAt_eq isTree (clear number isMember)
  apart := relabels.apart_iff.mpr holding.apart

/-- Members that are renamed keep their order and their written forms.  Nothing else changes but the
names of these properties. -/
theorem prefixMembers (holding : Holding workspace collection members documents) (start : String) :
    ∃ after, outcome (prefixMembers collection (.text start)) workspace = (.ok (), after) ∧
      Holding after collection (Fields.rekey (start ++ ·) members)
        (Fields.rekey (start ++ ·) documents) ∧
      Relabels (numbers members) workspace after ∧
      ∀ other, other ≠ collection →
        after.collections[other]? = workspace.collections[other]? := by
  have there : ∀ number ∈ numbers members,
      number ∈ numbers members ∧ number < workspace.nodes.size :=
    fun number isMember => ⟨isMember, holding.inside isMember⟩
  obtain ⟨between, ran, sameCollections, relabels⟩ := outcome_renameMembers start there
  have distinct := holding.distinct.rekey (Fields.append_keeps start)
  have pairs : Fields.ofPairs (Fields.rekey (start ++ ·) members).named =
      (Fields.rekey (start ++ ·) members).named :=
    Fields.ofPairs_of_distinct (distinct.rekey Fields.named_keeps)
  have still : Holding between collection members documents :=
    holding.of_relabels relabels holding.apart (by rw [sameCollections, holding.present])
  have sameNumbers := numbers_rekey (start ++ ·) members
  refine ⟨between.withMembers collection (Fields.rekey (start ++ ·) members).named, ?_,
    ⟨members_withMembers still.present _, distinct, still.renders.rekey _, ?_⟩,
    ⟨relabels.size, relabels.nodes⟩, ?_⟩
  · rw [Workspace.prefixMembers, outcome_bind_of_ok (outcome_members holding.present)]
    dsimp only
    rw [outcome_bind_of_ok ran, pairs]
    rfl
  · rw [sameNumbers]
    exact still.apart
  · intro other differs
    simp [withMembers, sameCollections, Array.getElem?_setIfInBounds_ne (Ne.symm differs)]

end Holding

end RecordSchema.Workspace
