import RecordSchema.Proofs.Collection.Reading
import RecordSchema.Proofs.Workspace.Consistency
import RecordSchema.Proofs.Workspace.Mutation

/-!
# Calls on shared properties

Whoever uses properties makes them, copies them and changes them, goes on after a change has failed,
and does whatever else leaves properties alone.  None of this breaks what holds of every property.
-/

namespace RecordSchema.Workspace

/-- An action that makes, copies and changes properties through calls only.  Calls may come one
after the other, depend on each other's results, and fail. -/
inductive OnlyCalls : {α : Type} → Action α → Prop
  /-- Something else is done. -/
  | elsewhere {α : Type} {action : Action α} : LeavesNodes action → OnlyCalls action
  | bind {α β : Type} {action : Action α} {next : α → Action β} :
      OnlyCalls action → (∀ value, MayGive action value → OnlyCalls (next value)) →
      OnlyCalls (action >>= next)
  /-- A failure is dealt with. -/
  | attempt {α : Type} {action : Action α} {handler : Error → Action α} :
      OnlyCalls action → (∀ error, OnlyCalls (handler error)) →
      OnlyCalls (tryCatch action handler)
  /-- A property that is declared, made by a preset or read from a document is brought in. -/
  | make {property : Property} :
      Property.Reachable Property.Fresh property → OnlyCalls (plant property)
  | copy (number : Nat) : OnlyCalls (copy number)
  /-- A property is changed.  Where its children come from a collection, that is filled by calls. -/
  | change {mutation : Mutation} (number : Nat) :
      (∀ fill, mutation = .fillChildren fill → ∀ collection, OnlyCalls (fill collection)) →
      OnlyCalls (mutation.perform number)

variable {α β : Type} {number : Nat}

private theorem leavesNodes_addCollection : LeavesNodes addCollection :=
  fun _ => rfl

private theorem leavesNodes_setMembers (collection : Nat) (members : Fields Nat Name) :
    LeavesNodes (setMembers collection members) :=
  fun _ => rfl

private theorem leavesNodes_report (records : List LogRecord) : LeavesNodes (report records) :=
  fun _ => rfl

/-! ## Changes -/

private theorem preserves_addChild (number : Nat) (child : Value) :
    Preserves (addChild number child) := by
  refine (onlyReads_node number).preserves.bind fun _ _ =>
    (onlyReads_checked _).preserves.bind fun _ _ => ?_
  split
  · exact (onlyReads_node _).preserves.bind fun _ _ =>
      preserves_editNode number fun _ _ => Node.nests_addChild
  · exact (onlyReads_throw _).preserves

private theorem preserves_setChildren (number : Nat) (children : Value) :
    Preserves (setChildren number children) :=
  (onlyReads_node number).preserves.bind fun _ _ =>
    (onlyReads_checked _).preserves.bind fun _ _ =>
      (onlyReads_offeredChildren children).preserves.bind fun _ _ =>
        preserves_editNode number fun _ _ => Node.nests_setChildren

private theorem preserves_fillChildren (number : Nat) {fill : Nat → Action Unit}
    (preserves : ∀ collection, Preserves (fill collection)) :
    Preserves (fillChildren number fill) :=
  (onlyReads_node number).preserves.bind fun _ _ =>
    (onlyReads_checked _).preserves.bind fun _ _ =>
      leavesNodes_addCollection.preserves.bind fun collection _ =>
        (preserves collection).bind fun _ _ => (onlyReads_members collection).preserves.bind
          fun _ _ => preserves_editNode number fun _ _ => Node.nests_adoptChildren

/-- No change of a property breaks anything, not even one that fails. -/
theorem preserves_perform (number : Nat) {mutation : Mutation}
    (preserves : ∀ fill, mutation = .fillChildren fill → ∀ collection,
      Preserves (fill collection)) :
    Preserves (mutation.perform number) := by
  cases mutation with
  | facets edit =>
      rw [Mutation.perform]
      exact preserves_editFacets number fun primary facets sound => sound.edit edit
  | addChild child =>
      exact preserves_addChild number child
  | setChildren children =>
      exact preserves_setChildren number children
  | setItems items =>
      exact preserves_editNode number fun _ _ => Node.nests_setItems
  | fillChildren fill =>
      exact preserves_fillChildren number (preserves fill rfl)

/-! ## Collections -/

private theorem OnlyReads.onlyCalls {action : Action α} (reads : OnlyReads action) :
    OnlyCalls action :=
  .elsewhere reads.leavesNodes

private theorem mayGive_checked_iff {result : Except Error α} {value : α} :
    MayGive (checked result) value ↔ result = .ok value := by
  constructor
  · rintro ⟨before, after, ran⟩
    rw [outcome_checked, Prod.mk.injEq] at ran
    exact ran.1
  · rintro rfl
    exact ⟨{}, {}, rfl⟩

private theorem onlyCalls_collect (collection property : Nat) :
    OnlyCalls (collect collection property) := by
  refine (onlyReads_node property).onlyCalls.bind fun _ _ =>
    (onlyReads_checked _).onlyCalls.bind fun _ _ =>
      (onlyReads_members collection).onlyCalls.bind fun _ _ => ?_
  dsimp only
  split
  · exact (OnlyCalls.elsewhere (leavesNodes_report _)).bind fun _ _ =>
      .elsewhere (leavesNodes_setMembers _ _)
  · exact .elsewhere (leavesNodes_setMembers _ _)

theorem onlyCalls_collectNew (collection : Nat) {property : Except Error Property}
    (reachable : ∀ made, property = .ok made → Property.Reachable Property.Fresh made) :
    OnlyCalls (collectNew collection property) :=
  (onlyReads_checked property).onlyCalls.bind fun made given =>
    (OnlyCalls.make (reachable made (mayGive_checked_iff.mp given))).bind fun number _ =>
      (onlyCalls_collect collection number).bind fun _ _ => (onlyReads_pure number).onlyCalls

theorem onlyCalls_copyMembers (collection : Nat) (members : Fields Nat Name) :
    OnlyCalls (copyMembers collection members) := by
  induction members with
  | nil =>
      exact (onlyReads_pure ()).onlyCalls
  | cons entry rest inductionHypothesis =>
      exact (OnlyCalls.copy entry.2).bind fun _ _ => (onlyReads_members collection).onlyCalls.bind
        fun _ _ => (OnlyCalls.elsewhere (leavesNodes_setMembers collection _)).bind
          fun _ _ => inductionHypothesis

theorem onlyCalls_renameMembers (start : String) (members : Fields Nat Name) :
    OnlyCalls (renameMembers start members) := by
  induction members with
  | nil =>
      exact (onlyReads_pure _).onlyCalls
  | cons entry rest inductionHypothesis =>
      obtain ⟨name, number⟩ := entry
      refine (onlyReads_checked _).onlyCalls.bind fun key _ => OnlyCalls.bind ?_ fun _ _ =>
        inductionHypothesis.bind fun _ _ => (onlyReads_pure _).onlyCalls
      exact @OnlyCalls.change (.facets (.setName (.text key))) number
        fun _ impossible => by cases impossible

private theorem fresh_typed {tag : String} (isNested : tag = "object" ∨ tag = "array")
    (name description : Value) : (Property.typed tag name description).Fresh := by
  have isPreset : Property.preset? tag =
      some fun name description _ => .ok (Property.typed tag name description) := by
    rcases isNested with rfl | rfl
    · rfl
    · rfl
  exact @Property.Fresh.preset tag name description .null _ _ isPreset rfl

private theorem onlyCalls_fillChildren (number : Nat) {fill : Nat → Action Unit}
    (calls : ∀ collection, OnlyCalls (fill collection)) : OnlyCalls (fillChildren number fill) := by
  refine @OnlyCalls.change (.fillChildren fill) number fun other same => ?_
  cases same
  exact calls

theorem onlyCalls_collectGroup (collection : Nat) (name description : Value)
    {fill : Nat → Action Unit} (calls : ∀ inner, OnlyCalls (fill inner)) :
    OnlyCalls (collectGroup collection name description fill) :=
  (OnlyCalls.make (.origin (fresh_typed (.inl rfl) name description))).bind fun number _ =>
    (onlyCalls_fillChildren number calls).bind fun _ _ =>
      (onlyCalls_collect collection number).bind fun _ _ => (onlyReads_pure number).onlyCalls

theorem onlyCalls_collectArray (collection : Nat) (name description items : Value) :
    OnlyCalls (collectArray collection name description items) :=
  (OnlyCalls.make (.origin (fresh_typed (.inr rfl) name description))).bind fun number _ =>
    (@OnlyCalls.change (.setItems items) number fun _ impossible => by cases impossible).bind
      fun _ _ => (onlyCalls_collect collection number).bind
        fun _ _ => (onlyReads_pure number).onlyCalls

/-- A property may be declared and given its rules before it is brought in. -/
theorem onlyCalls_addRuled (name declared rules : Value) :
    OnlyCalls (addRuled name declared rules) := by
  refine (onlyReads_checked _).onlyCalls.bind fun property given =>
    (onlyReads_checked _).onlyCalls.bind fun facets ruled => .make ?_
  have isDeclared := mayGive_checked_iff.mp given
  have added := mayGive_checked_iff.mp ruled
  obtain ⟨type, _, isLeaf⟩ := Outcome.bind_eq_ok_iff.mp isDeclared
  cases isLeaf
  have changed := @Property.Reachable.edit Property.Fresh _ (.facets (.addRules rules))
    (.origin (.declared isDeclared)) (List.forall_mem_nil _)
  have isChanged : ((Property.Edit.facets (.addRules rules)).apply
      (.leaf { name := name, declared := type, description := .null })).state = .leaf facets := by
    rw [Property.Edit.apply, Facets.Edit.apply]
    rw [added]
    rfl
  rw [isChanged] at changed
  exact changed

private theorem reachable_requiredBy {property : Property} (fresh : property.Fresh)
    (names : List Value)
    (key : String) :
    Property.Reachable Property.Fresh (Collection.requiredBy names key property) := by
  unfold Collection.requiredBy
  split
  · cases property
    exact .edit (.facets (.setRequired true)) (.origin fresh) (List.forall_mem_nil _)
  · exact .origin fresh

private theorem reachable_ofDocument {document : Value} {properties : Fields Property Name}
    (read : Collection.ofDocument document = .ok properties) :
    ∀ entry ∈ properties, Property.Reachable Property.Fresh entry.2 := by
  unfold Collection.ofDocument at read
  dsimp only at read
  split at read
  · cases read
  · cases read
    rintro ⟨name, property⟩ member
    rcases Fields.mem_putAll member with ⟨key, isRow⟩ | impossible
    · unfold Collection.propertiesOf at isRow
      split at isRow
      · cases isRow
      · obtain ⟨_, _, nested, _, nestedRead, filed⟩ := Collection.mem_readAll isRow
        cases filed
        exact reachable_requiredBy (.read nestedRead) _ _
    · cases impossible

private theorem onlyCalls_plantAll {properties : Fields Property Name}
    (reachable : ∀ entry ∈ properties, Property.Reachable Property.Fresh entry.2) :
    OnlyCalls (properties.mapM fun entry => do return (entry.1, ← plant entry.2)) := by
  induction properties with
  | nil =>
      exact (onlyReads_pure _).onlyCalls
  | cons entry rest inductionHypothesis =>
      obtain ⟨first, others⟩ := List.forall_mem_cons.mp reachable
      rw [List.mapM_cons]
      refine OnlyCalls.bind ?_ fun _ _ =>
        (inductionHypothesis others).bind fun _ _ => (onlyReads_pure _).onlyCalls
      exact (OnlyCalls.make first).bind fun _ _ => (onlyReads_pure _).onlyCalls

theorem onlyCalls_readCollection (document : Value) : OnlyCalls (readCollection document) :=
  (OnlyCalls.elsewhere (leavesNodes_report _)).bind fun _ _ =>
    (onlyReads_checked _).onlyCalls.bind fun _ given =>
      (OnlyCalls.elsewhere leavesNodes_addCollection).bind fun collection _ =>
        (onlyCalls_plantAll (reachable_ofDocument (mayGive_checked_iff.mp given))).bind fun _ _ =>
          (OnlyCalls.elsewhere (leavesNodes_setMembers _ _)).bind fun _ _ =>
            (onlyReads_pure collection).onlyCalls

/-! ## Runs -/

/-- Calls leave a consistent workspace consistent. -/
theorem OnlyCalls.preserves {action : Action α} (calls : OnlyCalls action) : Preserves action := by
  induction calls with
  | elsewhere leaves =>
      exact leaves.preserves
  | bind _ _ first later =>
      exact first.bind later
  | attempt _ _ first handled =>
      exact first.tryCatch handled
  | make reachable =>
      exact preserves_plant (reachable.sound fun _ fresh => fresh.sound)
  | copy number =>
      exact preserves_copy number
  | change number _ filled =>
      exact preserves_perform number filled

/-- Whatever calls have been made, and whether they have failed or not: no rule of a property is
there twice, the property is required exactly if one of its rules says so, it has children only if
it is an object and a schema for items only if it is an array, and its primary type is the one that
it had at any earlier time. -/
theorem OnlyCalls.invariant {start : Workspace} (bare : start.nodes = #[]) {first : Action α}
    {later : Action β} (firstCalls : OnlyCalls first) (laterCalls : OnlyCalls later) :
    let before := (outcome first start).2
    let after := (outcome later before).2
    (∀ (number : Nat) (node : Node Nat), after.nodes[number]? = some node →
      node.facets.rules.Nodup ∧
      (node.facets.isRequired = true ↔ "required" ∈ node.facets.rules) ∧
      (node.children ≠ [] → node.facets.declared.primary = "object") ∧
      (node.items ≠ none → node.facets.declared.primary = "array")) ∧
    ∀ (number : Nat) (node : Node Nat), before.nodes[number]? = some node →
      ∃ now, after.nodes[number]? = some now ∧
        now.facets.declared.primary = node.facets.declared.primary := by
  intro before after
  have consistent : start.Consistent := by
    intro number node present
    rw [bare] at present
    cases present
  have ofFirst := firstCalls.preserves start consistent
  have ofLater := laterCalls.preserves before ofFirst.consistent
  refine ⟨fun number node present => ?_, ofLater.keepsTypes⟩
  have here := ofLater.consistent number node present
  exact ⟨here.facets.distinctRules, here.facets.requiredToken, here.children, here.items⟩

/-- A form that is no array does not take a schema for items, may be missing from then on, and stays
an object. -/
theorem invariant_form :
    let first : Action Nat := plant (Property.typed "object" (.text "form") .null)
    let items : Mutation := .setItems (.map [])
    let later : Action Unit := do
      tryCatch (items.perform 0) fun _ => pure ()
      Mutation.perform 0 (.facets (.setNullable true))
    let before := (outcome first {}).2
    let after := (outcome later before).2
    OnlyCalls first ∧ OnlyCalls later ∧
      (outcome (items.perform 0) before).1 = .error .itemsOnNonArray ∧
      ∃ now, after.nodes[0]? = some now ∧ now.facets.rules.Nodup ∧
        now.facets.declared.primary = "object" := by
  intro first items later before after
  have firstCalls : OnlyCalls first := .make (.origin (fresh_typed (.inl rfl) _ _))
  have laterCalls : OnlyCalls later := by
    refine OnlyCalls.bind (.attempt (.change 0 ?_) fun _ => (onlyReads_pure ()).onlyCalls)
      fun _ _ => .change 0 ?_
    · intro fill impossible
      simp [items] at impossible
    · intro fill impossible
      cases impossible
  obtain ⟨inOrder, keepsTypes⟩ := @OnlyCalls.invariant _ _ {} rfl first later firstCalls laterCalls
  obtain ⟨now, isNow, isObject⟩ := keepsTypes 0 _ rfl
  exact ⟨firstCalls, laterCalls, rfl, now, isNow, (inOrder 0 now isNow).1, isObject⟩

end RecordSchema.Workspace
