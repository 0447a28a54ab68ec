import RecordSchema.Proofs.Property.Origin
import RecordSchema.Proofs.Workspace.Action

/-!
# Consistent workspaces

Shared properties refer to each other by numbers, so a change of one shows in all that it is nested
in.  What holds of each of them at its root does not look behind these references.
-/

namespace RecordSchema

namespace Node

variable {Ref : Type} {node changed : Node Ref}

/-- A node is in order at its root, whatever its references are. -/
structure Consistent (node : Node Ref) : Prop where
  facets : node.facets.Sound node.facets.declared.primary
  children : node.children ≠ [] → node.facets.declared.primary = "object"
  items : node.items ≠ none → node.facets.declared.primary = "array"

theorem Consistent.nests (consistent : node.Consistent) (nests : node.Nests changed) :
    changed.Consistent := by
  cases nests with
  | children isObject children =>
      exact ⟨consistent.facets, fun _ => isObject, consistent.items⟩
  | items isArray items =>
      exact ⟨consistent.facets, consistent.children, fun _ => isArray⟩

/-- Facets of the same primary type leave a node consistent. -/
theorem Consistent.withFacets (consistent : node.Consistent) {facets : Facets}
    (sound : facets.Sound node.facets.declared.primary) : (node.withFacets facets).Consistent := by
  have samePrimary := sound.samePrimary
  refine ⟨samePrimary.symm ▸ sound, fun nonempty => ?_, fun some => ?_⟩
  · exact samePrimary.trans (consistent.children nonempty)
  · exact samePrimary.trans (consistent.items some)

end Node

namespace Workspace

variable {α β : Type} {before between after workspace : Workspace} {number : Nat}
  {node : Node Nat}

/-- Every property in a workspace is consistent. -/
def Consistent (workspace : Workspace) : Prop :=
  ∀ (number : Nat) node, workspace.nodes[number]? = some node → node.Consistent

/-- The properties that are there stay there, and their primary types stay. -/
def KeepsTypes (before after : Workspace) : Prop :=
  ∀ (number : Nat) node, before.nodes[number]? = some node →
    ∃ now, after.nodes[number]? = some now ∧
      now.facets.declared.primary = node.facets.declared.primary

/-- What has become of a consistent workspace. -/
structure Preserved (before after : Workspace) : Prop where
  consistent : after.Consistent
  keepsTypes : before.KeepsTypes after

theorem KeepsTypes.trans (first : before.KeepsTypes between) (second : between.KeepsTypes after) :
    before.KeepsTypes after := by
  intro number node present
  obtain ⟨now, isNow, same⟩ := first number node present
  obtain ⟨later, isLater, sameLater⟩ := second number now isNow
  exact ⟨later, isLater, sameLater.trans same⟩

private theorem Preserved.of_nodes_eq (consistent : before.Consistent)
    (sameNodes : after.nodes = before.nodes) : Preserved before after where
  consistent := by
    intro number node present
    rw [sameNodes] at present
    exact consistent number node present
  keepsTypes := by
    intro number node present
    rw [← sameNodes] at present
    exact ⟨node, present, rfl⟩

theorem Preserved.trans (first : Preserved before between) (second : Preserved between after) :
    Preserved before after :=
  ⟨second.consistent, first.keepsTypes.trans second.keepsTypes⟩

/-- A consistent node of the same primary type may take the place of another. -/
theorem preserved_set (consistent : workspace.Consistent)
    (present : workspace.nodes[number]? = some node) {changed : Node Nat}
    (isConsistent : changed.Consistent)
    (samePrimary : changed.facets.declared.primary = node.facets.declared.primary) :
    Preserved workspace
      { workspace with nodes := workspace.nodes.setIfInBounds number changed } where
  consistent := by
    intro other found isFound
    rw [Array.getElem?_setIfInBounds] at isFound
    split at isFound
    · split at isFound
      · cases isFound
        exact isConsistent
      · cases isFound
    · exact consistent other found isFound
  keepsTypes := by
    intro other found isFound
    simp only [Array.getElem?_setIfInBounds]
    by_cases here : number = other
    · subst here
      obtain ⟨inside, _⟩ := Array.getElem?_eq_some_iff.mp present
      rw [present] at isFound
      cases isFound
      exact ⟨changed, by simp [inside], samePrimary⟩
    · exact ⟨found, by simp [here, isFound], rfl⟩

/-- Consistent nodes may come behind those that are there. -/
theorem preserved_append (consistent : workspace.Consistent) {added : Array (Node Nat)}
    (isConsistent : ∀ node ∈ added, node.Consistent) :
    Preserved workspace { workspace with nodes := workspace.nodes ++ added } where
  consistent := by
    intro number node present
    rcases Array.mem_append.mp (Array.mem_of_getElem? present) with old | new
    · obtain ⟨place, isOld⟩ := Array.getElem?_of_mem old
      exact consistent place node isOld
    · exact isConsistent node new
  keepsTypes := by
    intro number node present
    obtain ⟨inside, _⟩ := Array.getElem?_eq_some_iff.mp present
    refine ⟨node, ?_, rfl⟩
    rw [Array.getElem?_append_left inside]
    exact present

/-! ## Actions -/

/-- An action that leaves a consistent workspace consistent, whatever comes of it. -/
def Preserves (action : Action α) : Prop :=
  ∀ workspace, workspace.Consistent → Preserved workspace (outcome action workspace).2

def MayGive (action : Action α) (value : α) : Prop :=
  ∃ before after, outcome action before = (.ok value, after)

theorem Preserves.bind {action : Action α} {next : α → Action β} (preserves : Preserves action)
    (preservesOn : ∀ value, MayGive action value → Preserves (next value)) :
    Preserves (action >>= next) := by
  intro workspace consistent
  have first := preserves workspace consistent
  rw [outcome_bind]
  cases ran : outcome action workspace with
  | mk result between =>
      rw [ran] at first
      cases result with
      | ok value =>
          exact first.trans (preservesOn value ⟨_, _, ran⟩ between first.consistent)
      | error error =>
          exact first

private theorem outcome_tryCatch (action : Action α) (handler : Error → Action α)
    (workspace : Workspace) :
    outcome (tryCatch action handler) workspace =
      match outcome action workspace with
      | (.ok value, after) => (.ok value, after)
      | (.error error, after) => outcome (handler error) after := by
  simp only [outcome, tryCatch, tryCatchThe, MonadExceptOf.tryCatch, ExceptT.tryCatch,
    ExceptT.run_mk, StateT.run_bind, Id.run_bind]
  have same : (StateT.run action workspace).run = (action.run.run workspace).run := rfl
  rw [same]
  cases (action.run.run workspace).run with
  | mk result after =>
      cases result with
      | ok value =>
          rfl
      | error error =>
          rfl

theorem Preserves.tryCatch {action : Action α} {handler : Error → Action α}
    (preserves : Preserves action) (preservesOn : ∀ error, Preserves (handler error)) :
    Preserves (tryCatch action handler) := by
  intro workspace consistent
  have first := preserves workspace consistent
  rw [outcome_tryCatch]
  cases ran : outcome action workspace with
  | mk result between =>
      rw [ran] at first
      cases result with
      | ok value =>
          exact first
      | error error =>
          exact first.trans (preservesOn error between first.consistent)

/-- An action that leaves all properties alone. -/
def LeavesNodes (action : Action α) : Prop :=
  ∀ workspace, (outcome action workspace).2.nodes = workspace.nodes

theorem OnlyReads.leavesNodes {action : Action α} (reads : OnlyReads action) :
    LeavesNodes action := by
  intro workspace
  rw [reads workspace]

theorem LeavesNodes.preserves {action : Action α} (leaves : LeavesNodes action) :
    Preserves action :=
  fun workspace consistent => .of_nodes_eq consistent (leaves workspace)

theorem OnlyReads.preserves {action : Action α} (reads : OnlyReads action) : Preserves action :=
  reads.leavesNodes.preserves

/-! ## Changes of one property -/

/-- An action on the node of a property may rely on what the node is. -/
theorem preserves_node_bind {next : Node Nat → Action β}
    (preservesOn : ∀ node workspace, workspace.Consistent → workspace.nodes[number]? = some node →
      Preserved workspace (outcome (next node) workspace).2) :
    Preserves (Workspace.node number >>= next) := by
  intro workspace consistent
  rw [outcome_bind]
  cases present : workspace.nodes[number]? with
  | none =>
      have missing : outcome (Workspace.node number) workspace =
          outcome (found workspace.nodes[number]?) workspace := rfl
      rw [missing, outcome_found, present]
      exact .of_nodes_eq consistent rfl
  | some node =>
      rw [outcome_node present]
      exact preservesOn node workspace consistent present

/-- Facets that stay sound may be changed, even if the change fails. -/
theorem preserves_editFacets (number : Nat) {edit : Facets → Change Facets}
    (sound : ∀ primary facets, facets.Sound primary → (edit facets).state.Sound primary) :
    Preserves (editFacets number edit) := by
  apply preserves_node_bind
  intro node workspace consistent present
  have changed := sound _ _ (consistent number node present).facets
  have left : (outcome (settle (fun facets => setNode number (node.withFacets facets))
      (edit node.facets)) workspace).2 =
        { workspace with
          nodes := workspace.nodes.setIfInBounds number
            (node.withFacets (edit node.facets).state) } := by
    rw [settle, outcome_bind, outcome_setNode]
    cases (edit node.facets).failure with
    | none =>
        rfl
    | some error =>
        rfl
  rw [left]
  exact preserved_set consistent present
    ((consistent number node present).withFacets changed) changed.samePrimary

/-- What is nested in a property may be changed where it has a place for that. -/
theorem preserves_editNode (number : Nat) {edit : Node Nat → Except Error (Node Nat)}
    (nests : ∀ node changed, edit node = .ok changed → node.Nests changed) :
    Preserves (editNode number edit) := by
  apply preserves_node_bind
  intro node workspace consistent present
  rw [outcome_bind, outcome_checked]
  cases edited : edit node with
  | error error =>
      exact .of_nodes_eq consistent rfl
  | ok changed =>
      have isNested := nests node changed edited
      dsimp only
      rw [outcome_setNode]
      refine preserved_set consistent present ?_ (by rw [isNested.facets_eq])
      exact (consistent number node present).nests isNested

private theorem preserves_addNode {node : Node Nat} (consistent : node.Consistent) :
    Preserves (addNode node) := by
  intro workspace others
  have left : (outcome (addNode node) workspace).2 =
      { workspace with nodes := workspace.nodes ++ #[node] } := rfl
  rw [left]
  exact preserved_append others (by simpa using consistent)

/-! ## Trees -/

private theorem mayGive_pure_iff {given value : α} :
    MayGive (pure given : Action α) value ↔ value = given := by
  constructor
  · rintro ⟨before, after, ran⟩
    cases ran
    rfl
  · rintro rfl
    exact ⟨{}, {}, rfl⟩

private theorem preserves_plantChildren {children : List (Name × Child Property)}
    (nested : ∀ name child, (name, .property child) ∈ children → Preserves (plant child)) :
    Preserves (plantChildren children) := by
  induction children with
  | nil =>
      rw [plantChildren]
      exact (onlyReads_pure _).preserves
  | cons entry rest inductionHypothesis =>
      obtain ⟨name, child⟩ := entry
      have ofRest := inductionHypothesis fun key other member =>
        nested key other (List.mem_cons_of_mem _ member)
      have ofChild : Preserves (plantChild child) := by
        cases child with
        | property property =>
            rw [plantChild]
            exact (nested name property List.mem_cons_self).bind fun _ _ =>
              (onlyReads_pure _).preserves
        | document fields =>
            rw [plantChild]
            exact (onlyReads_pure _).preserves
      rw [plantChildren]
      exact ofChild.bind fun _ _ => ofRest.bind fun _ _ => (onlyReads_pure _).preserves

private theorem preserves_plantItems {items : Option (Child Property)}
    (nested : ∀ child, items = some (.property child) → Preserves (plant child)) :
    Preserves (plantItems items) := by
  cases items with
  | none =>
      rw [plantItems]
      exact (onlyReads_pure _).preserves
  | some child =>
      rw [plantItems]
      refine Preserves.bind ?_ fun _ _ => (onlyReads_pure _).preserves
      cases child with
      | property property =>
          rw [plantChild]
          exact (nested property rfl).bind fun _ _ => (onlyReads_pure _).preserves
      | document fields =>
          rw [plantChild]
          exact (onlyReads_pure _).preserves

/-- A sound property may be brought into a workspace with all that is nested in it. -/
theorem preserves_plant {property : Property} (sound : property.Sound) :
    Preserves (plant property) := by
  induction property using Property.induction with
  | step facets children items ofChildren ofItems =>
      have plantedChildren := preserves_plantChildren fun name nested member =>
        ofChildren name nested member (sound.child member)
      have plantedItems := preserves_plantItems fun nested isItems =>
        ofItems nested isItems (sound.items isItems)
      rw [plant]
      refine plantedChildren.bind fun refs givesRefs => plantedItems.bind fun ref givesRef => ?_
      refine preserves_addNode ⟨sound.here.facets, fun nonempty => ?_, fun some => ?_⟩
      · apply sound.here.children
        rintro rfl
        rw [plantChildren] at givesRefs
        exact nonempty (mayGive_pure_iff.mp givesRefs)
      · apply sound.here.items
        rintro rfl
        rw [plantItems] at givesRef
        exact some (mayGive_pure_iff.mp givesRef)

private theorem property_of_childOf {tree : Nat → Except Error Property} {ref : Child Nat}
    {nested : Property} (read : childOf tree ref = .ok (.property nested)) :
    ∃ number, tree number = .ok nested := by
  cases ref with
  | property number =>
      obtain ⟨property, isTree, same⟩ := Outcome.map_eq_ok_iff.mp read
      cases same
      exact ⟨number, isTree⟩
  | document fields =>
      cases read

private theorem childrenOf_eq_ok {tree : Nat → Except Error Property}
    {refs : Fields (Child Nat) Name}
    {children : Fields (Child Property) Name} (read : childrenOf tree refs = .ok children) :
    (children ≠ [] → refs ≠ []) ∧
      ∀ name nested, (name, .property nested) ∈ children → ∃ number, tree number = .ok nested := by
  induction refs generalizing children with
  | nil =>
      cases read
      exact ⟨fun nonempty => absurd rfl nonempty, fun _ _ member => by cases member⟩
  | cons entry rest inductionHypothesis =>
      obtain ⟨key, ref⟩ := entry
      obtain ⟨child, isChild, afterChild⟩ := Outcome.bind_eq_ok_iff.mp read
      obtain ⟨others, areOthers, isWhole⟩ := Outcome.bind_eq_ok_iff.mp afterChild
      cases isWhole
      refine ⟨fun _ => by simp, fun name nested member => ?_⟩
      rcases List.mem_cons.mp member with here | later
      · cases here
        exact property_of_childOf isChild
      · exact (inductionHypothesis areOthers).2 name nested later

private theorem sound_treeWithin {nodes : Array (Node Nat)}
    (consistent : ∀ (number : Nat) node, nodes[number]? = some node → node.Consistent) {depth : Nat}
    {property : Property} (read : treeWithin nodes depth number = .ok property) :
    property.Sound := by
  induction depth generalizing number property with
  | zero =>
      cases read
  | succ depth inductionHypothesis =>
      rw [treeWithin] at read
      cases present : nodes[number]? with
      | none =>
          rw [present] at read
          cases read
      | some node =>
          have here := consistent number node present
          simp only [present] at read
          obtain ⟨children, areChildren, afterChildren⟩ := Outcome.bind_eq_ok_iff.mp read
          obtain ⟨nonempty, fromTree⟩ := childrenOf_eq_ok areChildren
          have nestedSound : ∀ name nested, (name, .property nested) ∈ children →
              nested.Sound := by
            intro name nested member
            obtain ⟨ref, isTree⟩ := fromTree name nested member
            exact inductionHypothesis isTree
          cases hasItems : node.items with
          | none =>
              simp only [hasItems] at afterChildren
              cases afterChildren
              exact Property.every_mk ⟨here.facets, fun some => here.children (nonempty some),
                fun some => absurd rfl some⟩ nestedSound (fun _ isItems => by cases isItems)
          | some ref =>
              simp only [hasItems] at afterChildren
              obtain ⟨items, areItems, isWhole⟩ := Outcome.bind_eq_ok_iff.mp afterChildren
              cases isWhole
              refine Property.every_mk ⟨here.facets, fun some => here.children (nonempty some),
                fun _ => here.items (by simp [hasItems])⟩ nestedSound ?_
              rintro nested ⟨⟩
              obtain ⟨number, isTree⟩ := property_of_childOf areItems
              exact inductionHypothesis isTree

private theorem consistent_shiftNode {distance : Nat} (consistent : node.Consistent) :
    (shiftNode distance node).Consistent := by
  refine ⟨consistent.facets, fun nonempty => consistent.children ?_, fun some =>
    consistent.items ?_⟩
  · rintro isEmpty
    exact nonempty (by simp [shiftNode, isEmpty])
  · rintro isNone
    exact some (by simp [shiftNode, isNone])

/-- A copy of a property is as sound as the property, even if that contains itself. -/
theorem preserves_copy (number : Nat) : Preserves (copy number) := by
  intro workspace consistent
  have looked : outcome (get : Action Workspace) workspace = (.ok workspace, workspace) := rfl
  rw [copy, outcome_bind, looked]
  dsimp only
  cases isTree : workspace.tree number with
  | ok tree =>
      exact preserves_plant (sound_treeWithin consistent isTree) workspace consistent
  | error error =>
      refine preserved_append consistent ?_
      intro node member
      obtain ⟨original, isOriginal, rfl⟩ := Array.mem_map.mp member
      obtain ⟨place, isPlace⟩ := Array.getElem?_of_mem isOriginal
      exact consistent_shiftNode (consistent place original isPlace)

end Workspace
end RecordSchema
