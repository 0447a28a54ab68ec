import Mathlib.Data.List.Perm.Basic
import Mathlib.Logic.Relation
import RecordSchema.Proofs.Outcome
import RecordSchema.Workspace.Basic

/-!
# Trees of shared properties

The tree below a shared property is read from the nodes that are nested in it.  It stays the same as
long as these nodes do, however many others there are and however deep it may go.
-/

namespace RecordSchema

/-- A property is a child of a node, or the schema of its items. -/
def Node.Refers (node : Node Nat) (inner : Nat) : Prop :=
  (∃ name, (name, .property inner) ∈ node.children) ∨ node.items = some (.property inner)

namespace Workspace

/-- A property is nested directly in another. -/
def Contains (nodes : Array (Node Nat)) (outer inner : Nat) : Prop :=
  ∃ node, nodes[outer]? = some node ∧ node.Refers inner

/-- A property is nested in another, at any depth. -/
def Below (nodes : Array (Node Nat)) (outer inner : Nat) : Prop :=
  Relation.TransGen (Contains nodes) outer inner

def assemble (tree : Nat → Except Error Property) (node : Node Nat) : Except Error Property := do
  let children ← childrenOf tree node.children
  match node.items with
  | none => return .mk node.facets children none
  | some items =>
    let items ← childOf tree items
    return .mk node.facets children (some items)

variable {nodes others : Array (Node Nat)} {node : Node Nat} {number outer inner depth : Nat}
  {property : Property} {tree other : Nat → Except Error Property}

theorem treeWithin_succ (present : nodes[number]? = some node) :
    treeWithin nodes (depth + 1) number = assemble (treeWithin nodes depth) node := by
  rw [treeWithin, present]
  rfl

theorem treeWithin_eq_ok (read : treeWithin nodes depth number = .ok property) :
    ∃ less node, depth = less + 1 ∧ nodes[number]? = some node ∧
      assemble (treeWithin nodes less) node = .ok property := by
  cases depth with
  | zero =>
      cases read
  | succ less =>
      cases present : nodes[number]? with
      | none =>
          rw [treeWithin, present] at read
          cases read
      | some node =>
          rw [treeWithin_succ present] at read
          exact ⟨less, node, rfl, rfl, read⟩

/-! ## What a tree is assembled from -/

private theorem childOf_of_agree {ref : Child Nat} {child : Child Property}
    (agree : ∀ inner property, ref = .property inner → tree inner = .ok property →
      other inner = .ok property)
    (read : childOf tree ref = .ok child) : childOf other ref = .ok child := by
  cases ref with
  | document fields =>
      exact read
  | property inner =>
      obtain ⟨property, isTree, rfl⟩ := Outcome.map_eq_ok_iff.mp read
      rw [childOf, agree inner property rfl isTree]
      rfl

private theorem childrenOf_of_agree {refs : Fields (Child Nat) Name}
    {children : Fields (Child Property) Name}
    (agree : ∀ name inner property, (name, .property inner) ∈ refs → tree inner = .ok property →
      other inner = .ok property)
    (read : childrenOf tree refs = .ok children) : childrenOf other refs = .ok children := by
  induction refs generalizing children with
  | nil =>
      exact read
  | cons entry rest inductionHypothesis =>
      obtain ⟨name, ref⟩ := entry
      obtain ⟨child, isChild, afterChild⟩ := Outcome.bind_eq_ok_iff.mp read
      obtain ⟨later, areLater, isWhole⟩ := Outcome.bind_eq_ok_iff.mp afterChild
      have first : childOf other ref = .ok child := by
        refine childOf_of_agree (fun inner property isRef => ?_) isChild
        exact agree name inner property (isRef ▸ List.mem_cons_self)
      have remaining := inductionHypothesis
        (fun name inner property member =>
          agree name inner property (List.mem_cons_of_mem _ member)) areLater
      rw [childrenOf, first, Outcome.ok_bind, remaining, Outcome.ok_bind]
      exact isWhole

/-- Trees of nested properties that stay the same leave the whole the same. -/
theorem assemble_of_agree
    (agree : ∀ inner property, node.Refers inner → tree inner = .ok property →
      other inner = .ok property)
    (read : assemble tree node = .ok property) : assemble other node = .ok property := by
  obtain ⟨children, areChildren, afterChildren⟩ := Outcome.bind_eq_ok_iff.mp read
  have sameChildren : childrenOf other node.children = .ok children :=
    childrenOf_of_agree (fun name inner property member =>
      agree inner property (.inl ⟨name, member⟩)) areChildren
  rw [assemble, sameChildren, Outcome.ok_bind]
  cases hasItems : node.items with
  | none =>
      rw [hasItems] at afterChildren
      exact afterChildren
  | some ref =>
      rw [hasItems] at afterChildren
      obtain ⟨items, areItems, isWhole⟩ := Outcome.bind_eq_ok_iff.mp afterChildren
      have sameItems : childOf other ref = .ok items := by
        refine childOf_of_agree (fun inner property isRef => ?_) areItems
        exact agree inner property (.inr (isRef ▸ hasItems))
      simp only [sameItems, Outcome.ok_bind]
      exact isWhole

private theorem tree_of_mem {refs : Fields (Child Nat) Name}
    {children : Fields (Child Property) Name}
    (read : childrenOf tree refs = .ok children) {name : Name}
    (member : (name, .property inner) ∈ refs) : ∃ nested, tree inner = .ok nested := by
  induction refs generalizing children with
  | nil =>
      cases member
  | cons entry rest inductionHypothesis =>
      obtain ⟨child, isChild, afterChild⟩ := Outcome.bind_eq_ok_iff.mp read
      obtain ⟨later, areLater, _⟩ := Outcome.bind_eq_ok_iff.mp afterChild
      rcases List.mem_cons.mp member with rfl | isLater
      · obtain ⟨nested, isTree, _⟩ := Outcome.map_eq_ok_iff.mp isChild
        exact ⟨nested, isTree⟩
      · exact inductionHypothesis areLater isLater

private theorem tree_of_refers (read : assemble tree node = .ok property)
    (refers : node.Refers inner) :
    ∃ nested, tree inner = .ok nested := by
  obtain ⟨children, areChildren, afterChildren⟩ := Outcome.bind_eq_ok_iff.mp read
  rcases refers with ⟨name, member⟩ | isItems
  · exact tree_of_mem areChildren member
  · rw [isItems] at afterChildren
    obtain ⟨items, areItems, _⟩ := Outcome.bind_eq_ok_iff.mp afterChildren
    obtain ⟨nested, isTree, _⟩ := Outcome.map_eq_ok_iff.mp areItems
    exact ⟨nested, isTree⟩

private theorem exists_childOf {ref : Child Nat}
    (trees : ∀ inner, ref = .property inner → ∃ property, tree inner = .ok property) :
    ∃ child, childOf tree ref = .ok child := by
  cases ref with
  | document fields =>
      exact ⟨_, rfl⟩
  | property inner =>
      obtain ⟨property, isTree⟩ := trees inner rfl
      exact ⟨.property property, by rw [childOf, isTree, Outcome.map_ok]⟩

private theorem exists_childrenOf {refs : Fields (Child Nat) Name}
    (trees : ∀ name inner, (name, .property inner) ∈ refs →
      ∃ property, tree inner = .ok property) :
    ∃ children, childrenOf tree refs = .ok children := by
  induction refs with
  | nil =>
      exact ⟨[], rfl⟩
  | cons entry rest inductionHypothesis =>
      obtain ⟨name, ref⟩ := entry
      obtain ⟨child, isChild⟩ : ∃ child, childOf tree ref = .ok child :=
        exists_childOf fun inner isRef => trees name inner (isRef ▸ List.mem_cons_self)
      obtain ⟨children, areChildren⟩ := inductionHypothesis fun other inner member =>
        trees other inner (List.mem_cons_of_mem _ member)
      refine ⟨(name, child) :: children, ?_⟩
      rw [childrenOf, isChild, Outcome.ok_bind, areChildren]
      rfl

private theorem exists_assemble
    (trees : ∀ inner, node.Refers inner → ∃ nested, tree inner = .ok nested) :
    ∃ property, assemble tree node = .ok property := by
  obtain ⟨children, areChildren⟩ := exists_childrenOf fun name inner member =>
    trees inner (.inl ⟨name, member⟩)
  rw [assemble, areChildren, Outcome.ok_bind]
  cases hasItems : node.items with
  | none =>
      exact ⟨_, rfl⟩
  | some ref =>
      obtain ⟨items, areItems⟩ := exists_childOf fun inner isRef =>
        trees inner (.inr (isRef ▸ hasItems))
      simp only [areItems, Outcome.ok_bind]
      exact ⟨_, rfl⟩

private theorem assemble_withFacets (facets : Facets) (read : assemble tree node = .ok property) :
    assemble tree (node.withFacets facets) =
      .ok (.mk facets property.children property.items) := by
  obtain ⟨children, areChildren, afterChildren⟩ := Outcome.bind_eq_ok_iff.mp read
  have sameChildren : childrenOf tree (node.withFacets facets).children = .ok children :=
    areChildren
  have sameItems : (node.withFacets facets).items = node.items := rfl
  rw [assemble, sameChildren, Outcome.ok_bind, sameItems]
  cases hasItems : node.items with
  | none =>
      rw [hasItems] at afterChildren
      cases afterChildren
      rfl
  | some ref =>
      rw [hasItems] at afterChildren
      obtain ⟨items, areItems, isWhole⟩ := Outcome.bind_eq_ok_iff.mp afterChildren
      cases isWhole
      simp only [areItems, Outcome.ok_bind]
      rfl

theorem facets_of_treeWithin (read : treeWithin nodes depth number = .ok property)
    (present : nodes[number]? = some node) : property.facets = node.facets := by
  obtain ⟨less, held, rfl, isHeld, whole⟩ := treeWithin_eq_ok read
  cases present.symm.trans isHeld
  have same := assemble_withFacets node.facets whole
  have itself : node.withFacets node.facets = node := rfl
  rw [itself, whole, Except.ok.injEq] at same
  exact congrArg Property.facets same

/-! ## Properties that have trees -/

/-- Everything that a property reaches is there, and none of it contains itself. -/
def Grounded (nodes : Array (Node Nat)) (number : Nat) : Prop :=
  ∀ inner, Relation.ReflTransGen (Contains nodes) number inner →
    inner < nodes.size ∧ ¬ Below nodes inner inner

private theorem Grounded.of_contains (grounded : Grounded nodes outer)
    (contains : Contains nodes outer inner) : Grounded nodes inner :=
  fun lower reaches => grounded lower (.head contains reaches)

/-- On a way down no property is met twice, so that it is no longer than there are nodes. -/
theorem Grounded.exists_treeWithin (grounded : Grounded nodes number) {visited : List Nat}
    (once : visited.Nodup)
    (above : ∀ upper ∈ visited, upper < nodes.size ∧ Below nodes upper number)
    (deep : nodes.size < depth + visited.length) :
    ∃ property, treeWithin nodes depth number = .ok property := by
  induction depth generalizing number visited with
  | zero =>
      have known : visited ⊆ List.range nodes.size := fun upper isVisited =>
        List.mem_range.mpr (above upper isVisited).1
      have few := (List.subperm_of_subset once known).length_le
      rw [List.length_range] at few
      omega
  | succ depth inductionHypothesis =>
      obtain ⟨inside, acyclic⟩ := grounded number .refl
      have present : nodes[number]? = some nodes[number] := Array.getElem?_eq_getElem inside
      rw [treeWithin_succ present]
      refine exists_assemble fun inner refers => ?_
      have contains : Contains nodes number inner := ⟨_, present, refers⟩
      have unmet : number ∉ visited := fun isVisited => acyclic (above number isVisited).2
      refine inductionHypothesis (grounded.of_contains contains)
        (List.nodup_cons.mpr ⟨unmet, once⟩) ?_ ?_
      · intro upper isVisited
        rcases List.mem_cons.mp isVisited with rfl | earlier
        · exact ⟨inside, .single contains⟩
        · obtain ⟨upperInside, isAbove⟩ := above upper earlier
          exact ⟨upperInside, .tail isAbove contains⟩
      · rw [List.length_cons]
        omega

/-- A property has a tree if nothing in it contains itself. -/
theorem Grounded.exists_tree {workspace : Workspace} (grounded : Grounded workspace.nodes number) :
    ∃ property, workspace.tree number = .ok property :=
  grounded.exists_treeWithin List.nodup_nil nofun (by simp)

/-! ## Nodes that a tree depends on -/

/-- A tree is the same among nodes that agree on all that is nested in it. -/
theorem treeWithin_of_agree {more : Nat} (deeper : depth ≤ more)
    (read : treeWithin nodes depth number = .ok property)
    (agree : ∀ below node, Relation.ReflTransGen (Contains nodes) number below →
      nodes[below]? = some node → others[below]? = some node) :
    treeWithin others more number = .ok property := by
  induction depth generalizing number property more with
  | zero =>
      cases read
  | succ depth inductionHypothesis =>
      obtain ⟨less, node, isLess, present, whole⟩ := treeWithin_eq_ok read
      cases isLess
      obtain ⟨further, rfl⟩ : ∃ further, more = further + 1 := ⟨more - 1, by omega⟩
      have stillThere : others[number]? = some node := agree number node .refl present
      rw [treeWithin_succ stillThere]
      refine assemble_of_agree (fun inner nested refers isTree => ?_) whole
      have contains : Contains nodes number inner := ⟨node, present, refers⟩
      refine inductionHypothesis (by omega) isTree fun below held reaches => ?_
      exact agree below held (.head contains reaches)

/-- A node with other facets gives its tree other facets, if all that is nested in it stays. -/
theorem treeWithin_withFacets (read : treeWithin nodes depth number = .ok property)
    (present : nodes[number]? = some node) {facets : Facets}
    (changed : others[number]? = some (node.withFacets facets))
    (agree : ∀ below node, Below nodes number below → nodes[below]? = some node →
      others[below]? = some node) :
    treeWithin others depth number = .ok (.mk facets property.children property.items) := by
  obtain ⟨less, held, rfl, isHeld, whole⟩ := treeWithin_eq_ok read
  cases present.symm.trans isHeld
  rw [treeWithin_succ changed]
  refine assemble_withFacets facets (assemble_of_agree (fun inner nested refers isTree => ?_) whole)
  have contains : Contains nodes number inner := ⟨node, present, refers⟩
  refine treeWithin_of_agree (Nat.le_refl _) isTree fun below held reaches => ?_
  exact agree below held (.head' contains reaches)

/-- What is nested in what is a matter of children and items alone. -/
theorem contains_of_same_nesting
    (same : ∀ number : Nat, others[number]?.map (fun node => (node.children, node.items)) =
      nodes[number]?.map fun node => (node.children, node.items)) :
    Contains others = Contains nodes := by
  have oneWay : ∀ {first second : Array (Node Nat)} {outer inner : Nat},
      second[outer]?.map (fun node => (node.children, node.items)) =
        first[outer]?.map (fun node => (node.children, node.items)) →
      Contains first outer inner → Contains second outer inner := by
    rintro first second outer inner alike ⟨node, present, refers⟩
    rw [present, Option.map_some, Option.map_eq_some_iff] at alike
    obtain ⟨held, isHeld, sameParts⟩ := alike
    obtain ⟨sameChildren, sameItems⟩ := Prod.mk.inj sameParts
    exact ⟨held, isHeld, by rwa [Node.Refers, sameChildren, sameItems]⟩
  funext outer inner
  exact propext ⟨oneWay (same outer).symm, oneWay (same outer)⟩

/-- Nodes that have been there all along. -/
def Extends (nodes others : Array (Node Nat)) : Prop :=
  ∀ (number : Nat) node, nodes[number]? = some node → others[number]? = some node

theorem extends_append (nodes later : Array (Node Nat)) : Extends nodes (nodes ++ later) := by
  intro number node present
  obtain ⟨inside, _⟩ := Array.getElem?_eq_some_iff.mp present
  rw [Array.getElem?_append_left inside, present]

/-- What is nested in a tree was there before any further nodes were, and was nested in it then. -/
theorem reaches_of_extends (extended : Extends nodes others)
    (read : treeWithin nodes depth number = .ok property)
    (reaches : Relation.ReflTransGen (Contains others) number inner) :
    inner < nodes.size ∧ Relation.ReflTransGen (Contains nodes) number inner := by
  induction depth generalizing number property with
  | zero =>
      cases read
  | succ depth inductionHypothesis =>
      obtain ⟨less, node, isLess, present, whole⟩ := treeWithin_eq_ok read
      cases isLess
      cases Relation.ReflTransGen.cases_head reaches with
      | inl same =>
          cases same
          exact ⟨(Array.getElem?_eq_some_iff.mp present).1, .refl⟩
      | inr step =>
          obtain ⟨middle, ⟨held, isHeld, refers⟩, onwards⟩ := step
          cases (extended number node present).symm.trans isHeld
          obtain ⟨nested, isTree⟩ := tree_of_refers whole refers
          obtain ⟨inside, reached⟩ := inductionHypothesis isTree onwards
          exact ⟨inside, .head ⟨node, present, refers⟩ reached⟩

theorem below_of_extends (extended : Extends nodes others)
    (read : treeWithin nodes depth number = .ok property) (below : Below others number inner) :
    inner < nodes.size ∧ Below nodes number inner := by
  obtain ⟨less, node, rfl, present, whole⟩ := treeWithin_eq_ok read
  obtain ⟨middle, ⟨held, isHeld, refers⟩, onwards⟩ := Relation.TransGen.head'_iff.mp below
  cases (extended number node present).symm.trans isHeld
  obtain ⟨nested, isTree⟩ := tree_of_refers whole refers
  obtain ⟨inside, reached⟩ := reaches_of_extends extended isTree onwards
  exact ⟨inside, .head' ⟨node, present, refers⟩ reached⟩

end Workspace
end RecordSchema
