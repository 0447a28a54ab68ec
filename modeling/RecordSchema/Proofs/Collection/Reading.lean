import Mathlib.Data.List.Forall2
import RecordSchema.Collection.Basic
import RecordSchema.Proofs.Name
import RecordSchema.Proofs.Property.Origin
import RecordSchema.Proofs.Property.RoundTrip

/-!
# Collections and objects read from one document

The document of an object can be read as a property with children, and as a collection.  Both read
the same properties from the same entries.  The object keeps each of them under the key of its
entry; the collection files it under its own name, the last of those of one name in the place of
the first, and requires it if the document lists its key.
-/

namespace RecordSchema.Collection

/-- How a child of an object is filed in a collection, given the names that are listed as
required. -/
inductive Files (required : List Value) : Name × Child Property → Name × Property → Prop
  | filed {key : String} {nested : Property} {name : Name} :
      Name.ofValue nested.facets.name = .ok name →
      Files required (.text key, .property nested) (name, requiredBy required key nested)

/-- Requiring a property that is required already changes nothing. -/
theorem requiredBy_of_required {names : List Value} {key : String} {property : Property}
    (sound : property.Sound)
    (required : names.any (Value.equals (.text key)) = true → property.facets.isRequired = true) :
    requiredBy names key property = property := by
  unfold requiredBy
  split
  · next listed =>
      have isRequired := required listed
      have hasToken := sound.here.facets.requiredToken.mp isRequired
      rw [Facets.setRequired_of_mem isRequired hasToken]
      cases property
      rfl
  · rfl

theorem mem_readAll {required : List Value} {entries : Fields Value} {row : Name × Property}
    (member : row ∈ (readAll required entries).state) :
    ∃ key document nested, (key, document) ∈ entries ∧
      Property.ofDocument (.text key) document = .ok nested ∧
      Files required (.text key, .property nested) row := by
  induction entries with
  | nil =>
      cases member
  | cons entry rest inductionHypothesis =>
      obtain ⟨key, document⟩ := entry
      rw [readAll] at member
      split at member
      · cases member
      · next first read =>
          obtain ⟨nested, nestedRead, afterNested⟩ := Outcome.bind_eq_ok_iff.mp read
          obtain ⟨name, named, isRow⟩ := Outcome.bind_eq_ok_iff.mp afterNested
          cases isRow
          rcases List.mem_cons.mp member with rfl | later
          · exact ⟨key, document, nested, List.mem_cons_self, nestedRead, .filed named⟩
          · obtain ⟨otherKey, other, otherNested, isEntry, found⟩ := inductionHypothesis later
            exact ⟨otherKey, other, otherNested, List.mem_cons_of_mem _ isEntry, found⟩

/-- Whatever can be read as the children of an object can be filed, if all the names can be keys. -/
theorem readAll_of_childrenOf (required : List Value) {entries : Fields Value}
    {children : Fields (Child Property) Name} (read : Property.childrenOf entries = .ok children)
    (named : ∀ key nested, (key, .property nested) ∈ children →
      nested.facets.name.isHashable = true) :
    ∃ rows, readAll required entries = .done rows ∧
      List.Forall₂ (Files required) children rows := by
  induction entries generalizing children with
  | nil =>
      rw [Property.childrenOf] at read
      cases read
      exact ⟨[], rfl, .nil⟩
  | cons entry rest inductionHypothesis =>
      obtain ⟨key, document⟩ := entry
      rw [Property.childrenOf] at read
      obtain ⟨nested, nestedRead, afterNested⟩ := Outcome.bind_eq_ok_iff.mp read
      obtain ⟨others, othersRead, isRead⟩ := Outcome.bind_eq_ok_iff.mp afterNested
      cases isRead
      have ownName : Name.ofValue nested.facets.name =
          .ok ⟨nested.facets.name, named _ nested List.mem_cons_self⟩ :=
        dif_pos _
      obtain ⟨rows, rowsRead, areFiled⟩ := inductionHypothesis othersRead
        fun otherKey other member => named otherKey other (List.mem_cons_of_mem _ member)
      refine ⟨_, ?_, .cons (.filed ownName) areFiled⟩
      simp only [readAll, nestedRead, ownName, rowsRead, Outcome.ok_bind, Outcome.pure_eq_ok,
        Change.lift, Change.done]

private theorem sections_of_object {fields entries : Fields Value} {required : List Value}
    (isObject : fields.get? "type" = some (.text "object"))
    (properties : fields.get? "properties" = some (.map entries))
    (listed : requiredIn (.map fields) = .ok required) :
    sections (.map fields) = .ok (entries, required) := by
  simp [sections, isObject, properties, listed]

/-- Children that a collection has nothing to change about: each is under its own name, no key
occurs twice, and those that are listed are required already. -/
structure Settled (required : List Value) (children : Fields (Child Property) Name) : Prop where
  ownNames : ∀ key nested, (key, .property nested) ∈ children → nested.facets.name = key.value
  distinct : children.Distinct
  required : ∀ key nested, (key, .property nested) ∈ children →
    required.any (Value.equals key.value) = true → nested.facets.isRequired = true

private theorem rows_of_ownNames {required : List Value} {children : Fields (Child Property) Name}
    {rows : Fields Property Name} (areFiled : List.Forall₂ (Files required) children rows)
    (sound : ∀ key nested, (key, .property nested) ∈ children → nested.Sound)
    (ownNames : ∀ key nested, (key, .property nested) ∈ children → nested.facets.name = key.value)
    (isRequired : ∀ key nested, (key, .property nested) ∈ children →
      required.any (Value.equals key.value) = true → nested.facets.isRequired = true) :
    (rows.map fun row => (row.1, Child.property row.2)) = children := by
  induction areFiled with
  | nil =>
      rfl
  | @cons child row rest others filed _ inductionHypothesis =>
      have later := inductionHypothesis
        (fun key nested member => sound key nested (List.mem_cons_of_mem _ member))
        (fun key nested member => ownNames key nested (List.mem_cons_of_mem _ member))
        (fun key nested member => isRequired key nested (List.mem_cons_of_mem _ member))
      cases filed with
      | @filed key nested name named =>
          rw [ownNames _ nested List.mem_cons_self] at named
          cases named
          rw [List.map_cons, later, requiredBy_of_required (sound _ nested List.mem_cons_self)
            (isRequired _ nested List.mem_cons_self)]

/-- From the document of an object that can be read as a property, a collection can be read as
well, if all the names can be keys.  It files the children of the property: as they are if there
is nothing to change about them. -/
theorem ofDocument_of_object {name : Value} {fields entries : Fields Value}
    {required : List Value} {property : Property}
    (isObject : fields.get? "type" = some (.text "object"))
    (properties : fields.get? "properties" = some (.map entries))
    (listed : requiredIn (.map fields) = .ok required)
    (read : Property.ofDocument name (.map fields) = .ok property)
    (named : ∀ key nested, (key, .property nested) ∈ property.children →
      nested.facets.name.isHashable = true) :
    ∃ rows, List.Forall₂ (Files required) property.children rows ∧
      ofDocument (.map fields) = .ok (Fields.ofPairs rows) ∧
      (Settled required property.children →
        ((Fields.ofPairs rows).map fun row => (row.1, Child.property row.2)) =
          property.children) := by
  obtain ⟨_, _, nested, _, converted, parts⟩ := Property.ofDocument_eq_ok read
  cases converted
  have childrenRead := parts.childrenOf properties
  obtain ⟨rows, rowsRead, areFiled⟩ := readAll_of_childrenOf required childrenRead named
  refine ⟨rows, areFiled, ?_, fun settled => ?_⟩
  · simp only [ofDocument, propertiesOf, sections_of_object isObject properties listed, rowsRead,
      Change.done]
  · have sound := Property.sound_ofDocument name _ read
    have same := rows_of_ownNames areFiled (fun key nested member => sound.child member)
      settled.ownNames settled.required
    have distinct : Fields.Distinct rows := by
      have noneTwice := settled.distinct
      rw [← same, Fields.Distinct, Fields.names_map_values] at noneTwice
      exact noneTwice
    rw [Fields.ofPairs_of_distinct distinct, same]

/-- A drawer with a letter in it, under another key than its name. -/
def drawer : Property :=
  .object (.text "drawer") .null [("top", .plain "string" "letter")]

private theorem ofDocument_drawer (given : Value) :
    Property.ofDocument given drawer.toDocument = .ok drawer := by
  apply Property.ofDocument_toDocument
  · exact Property.sound_object _ _ (by simp [Property.plain, Property.sound_typed])
  · refine Property.every_mk {
      declaresType := by simp [SchemaType.members]
      writableConditionals := by simp
      ownKeys := by simp [Facets.OwnKeys]
      properChildren := ?_
      properItems := by simp } ?_ nofun
    · intro name child member
      cases List.mem_singleton.mp member
      exact ⟨"top", _, rfl, rfl⟩
    · intro name nested member
      cases List.mem_singleton.mp member
      exact Property.restorable_leaf {
        declaresType := by simp [SchemaType.members]
        writableConditionals := by simp
        ownKeys := by simp [Facets.OwnKeys]
        properChildren := by simp
        properItems := by simp }

private theorem named_drawer (key : Name) (nested : Property)
    (member : (key, .property nested) ∈ drawer.children) :
    nested.facets.name.isHashable = true := by
  cases List.mem_singleton.mp member
  rfl

/-- The letter is filed under its name. -/
theorem ofDocument_of_object_drawer :
    Property.ofDocument .null drawer.toDocument = .ok drawer ∧
      (∀ key nested, (key, .property nested) ∈ drawer.children →
        nested.facets.name.isHashable = true) ∧
      ofDocument drawer.toDocument = .ok [(.text "letter", .plain "string" "letter")] := by
  refine ⟨ofDocument_drawer .null, named_drawer, ?_⟩
  obtain ⟨rows, areFiled, isRead, _⟩ := @ofDocument_of_object .null drawer.entries _ _ _ rfl rfl rfl
    (ofDocument_drawer .null) named_drawer
  cases areFiled with
  | cons filed others =>
      cases filed with
      | filed named =>
          cases named
          cases others
          exact isRead

/-- The object has the letter under its key, and the collection does not. -/
theorem drawer_keys_differ :
    ∃ object collected, Property.ofDocument .null drawer.toDocument = .ok object ∧
      ofDocument drawer.toDocument = .ok collected ∧ object.children.names ≠ collected.names := by
  have letterRead : Property.ofDocument (.text "top")
      (Property.plain "string" "letter").toDocument = .ok (.plain "string" "letter") :=
    (Property.ofDocument_eq _ _).trans rfl
  have sectionsRead : sections drawer.toDocument =
      .ok ([("top", (Property.plain "string" "letter").toDocument)], []) :=
    sections_of_object rfl rfl rfl
  have named : Name.ofValue (Property.plain "string" "letter").facets.name =
      .ok (.text "letter") := rfl
  refine ⟨drawer, [(.text "letter", .plain "string" "letter")], ofDocument_drawer .null, ?_, ?_⟩
  · simp only [ofDocument, propertiesOf, sectionsRead, readAll, letterRead, named, Outcome.ok_bind,
      Outcome.pure_eq_ok]
    rfl
  · intro same
    have sameTexts := congrArg (List.map Name.toText) same
    exact absurd sameTexts (by decide)

end RecordSchema.Collection
