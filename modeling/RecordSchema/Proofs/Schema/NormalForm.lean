import RecordSchema.Proofs.Schema.Loading

/-!
# The normal form of schema documents

The document of a schema may be written by hand: without the entries that may be missing, with
rules in one text, with tokens twice, with names that differ from keys.  A schema that has been
read from it is one of properties under their names, whatever it was read from.  So it is read back
from its own document: reading brings a document into the form in which schemas are written, and in
that form it changes nothing any more.
-/

namespace RecordSchema

theorem Facets.members_ne_nil {fields : Fields Value} {declared : SchemaType}
    (read : declaredIn fields = .ok declared) : declared.members ≠ [] := by
  unfold declaredIn at read
  split at read
  · cases read
    exact List.cons_ne_nil "string" []
  · exact SchemaType.members_ne_nil read

namespace Property

/-- A property that has been read can be written in full. -/
theorem restorable_ofDocument (name document : Value) {property : Property}
    (read : ofDocument name document = .ok property) : property.Restorable := by
  refine every_ofDocument (fun {name document property} read => ?_) name document read
  obtain ⟨fields, facets, children, items, _, parts⟩ := ofDocument_eq_ok read
  obtain ⟨_, _, _, _, complete⟩ := Facets.addRest_eq_ok parts.restAdded
  obtain ⟨_, _, conditionalsRead⟩ := parts.conditionals
  have declaredRead := (Facets.ofFields_frame parts.facetsRead).1
  refine ⟨?_, ?_, ownKeys_ofDocument read, fun key child member => ?_, fun child isItems => ?_⟩
  · have sameType : property.facets.declared = facets.declared := by
      rw [complete]
    exact sameType ▸ Facets.members_ne_nil declaredRead
  · intro rule member
    obtain ⟨source, _, ruleRead⟩ := (Facets.mem_conditionalsOf_iff conditionalsRead).mp member
    exact ConditionalRule.isClosure_of_ofDocument ruleRead
  · obtain ⟨_, text, _, nested, _, _, isText, isNested, _⟩ := parts.child member
    exact ⟨text, nested, isText, isNested⟩
  · obtain ⟨_, nested, _, isNested, _⟩ := parts.item isItems
    exact ⟨nested, isNested⟩

private theorem name_ofDocument {name : Value} {fields : Fields Value} {property : Property}
    (read : ofDocument name (.map fields) = .ok property) :
    property.facets.name = (fields.get? "name").getD name := by
  obtain ⟨_, facets, _, _, converted, parts⟩ := ofDocument_eq_ok read
  cases converted
  obtain ⟨_, _, _, _, complete⟩ := Facets.addRest_eq_ok parts.restAdded
  have sameName : property.facets.name = facets.name := by
    rw [complete]
  rw [sameName, (Facets.ofFields_frame parts.facetsRead).2]

end Property

namespace Collection

private theorem name_requiredBy (names : List Value) (key : String) (property : Property) :
    (requiredBy names key property).facets.name = property.facets.name := by
  unfold requiredBy
  split <;> rfl

private theorem sound_requiredBy {property : Property} (sound : property.Sound) (names : List Value)
    (key : String) : (requiredBy names key property).Sound := by
  unfold requiredBy
  split
  · exact sound.withFacets (sound.here.facets.setRequired true)
  · exact sound

private theorem restorable_requiredBy {property : Property} (restorable : property.Restorable)
    (names : List Value) (key : String) : (requiredBy names key property).Restorable := by
  unfold requiredBy
  split
  · exact Property.every_mk { restorable.here with }
      (fun _ _ member => restorable.child member) fun _ isItems => restorable.items isItems
  · exact restorable

end Collection

namespace Schema

/-- The names inside the properties of a schema document are texts, where there are any. -/
def NamedByTexts (document : Value) : Prop :=
  ∀ entries : Fields Value, document.field "properties" = .ok (.map entries) →
    ∀ key property name, (key, Value.map property) ∈ entries →
      Fields.get? property "name" = some name → ∃ text, name = .text text

variable {parse : SchemaDocument.Parser}

private theorem row_of_propertiesOf (lawful : parse.Lawful) {document : Value}
    (named : NamedByTexts document) :
    ∀ row ∈ (propertiesOf parse document).state, Row row.1 row.2 := by
  unfold propertiesOf
  split
  · exact List.forall_mem_nil _
  · next shape isShape =>
      intro row member
      simp only [Collection.propertiesOf, Collection.sections_toValue] at member
      obtain ⟨key, value, nested, isEntry, nestedRead, filed⟩ := Collection.mem_readAll member
      obtain ⟨entry, isProperty, same⟩ := List.mem_map.mp isEntry
      cases same
      obtain ⟨entries, found, stands⟩ := lawful.properties _ _ isShape entry isProperty
      have ownName : ∃ text, nested.facets.name = .text text := by
        rw [Property.name_ofDocument nestedRead]
        cases given : entry.2.get? "name" with
        | none =>
            exact ⟨entry.1, rfl⟩
        | some name =>
            exact named entries found entry.1 entry.2 name stands given
      obtain ⟨text, isText⟩ := ownName
      cases filed with
      | filed isName =>
          rw [isText] at isName
          cases isName
          exact {
            named := ⟨text, rfl, by rw [Collection.name_requiredBy, isText]⟩
            sound := Collection.sound_requiredBy (Property.sound_ofDocument _ _ nestedRead) _ _
            restorable := Collection.restorable_requiredBy
              (Property.restorable_ofDocument _ _ nestedRead) _ _ }

/-- A schema that has been read from a document is that of some properties under their names. -/
theorem eq_ofRows_of_ofDocument (lawful : parse.Lawful) {document : Value} {schema : Schema}
    (named : NamedByTexts document) (read : ofDocument parse document = .ok schema) :
    ∃ rows, Rows rows ∧ schema = ofRows rows := by
  have areRows := row_of_propertiesOf lawful named
  unfold ofDocument readDocument at read
  generalize propertiesOf parse document = properties at areRows read
  obtain ⟨rows, failure⟩ := properties
  cases failure with
  | some error =>
      cases read
  | none =>
      have filed : Rows (Fields.ofPairs rows) :=
        Rows.putAll ⟨Fields.distinct_nil, fun _ _ member => nomatch member⟩
          fun name property member => areRows (name, property) member
      refine ⟨Fields.ofPairs rows, filed, ?_⟩
      simp only [addAll_rows filed, Change.done] at read
      cases read
      rfl

/-- A schema that has been read from a document, however that was written, can be written, and what
is read from its own document is the same schema: with the same document, the same rules and the
same verdict about every record. -/
theorem ofDocument_normal (lawful : parse.Lawful) {document : Value} {schema : Schema}
    (named : NamedByTexts document) (read : ofDocument parse document = .ok schema) :
    ∃ written, schema.toDocument = .ok written ∧ ofDocument parse written = .ok schema := by
  obtain ⟨rows, areRows, rfl⟩ := eq_ofRows_of_ofDocument lawful named read
  exact ⟨_, toDocument_ofRows areRows.row, ofDocument_documentOf lawful areRows⟩

/-- A document written by hand: rules in one text, tokens twice, a name that is not the key, a
required name in the list, a schema of items without a type, and an entry of no meaning. -/
def handWritten : Value :=
  .map [("title", .text "Subscription"), ("required", .list [.text "mail"]),
    ("properties", .map [
      ("mail", .map [("name", .text "email"), ("rules", .text "email | min:3 | email")]),
      ("tags", .map [("type", .text "array"), ("items", .map [("rules", .text "required")]),
        ("conditionalRules", .null), ("order", .int 2)])])]

private theorem namedByTexts_handWritten : NamedByTexts handWritten := by
  intro entries found key property name member given
  cases found
  simp only [List.mem_cons, List.not_mem_nil, or_false] at member
  rcases member with isMail | isTags
  · cases isMail
    cases given
    exact ⟨"email", rfl⟩
  · cases isTags
    cases given

theorem ofDocument_normal_handWritten :
    let parse := SchemaDocument.ofValue
    SchemaDocument.Parser.Lawful parse ∧ NamedByTexts handWritten ∧
      ∃ schema, ofDocument parse handWritten = .ok schema ∧
        ∃ written, schema.toDocument = .ok written ∧ ofDocument parse written = .ok schema := by
  intro parse
  have succeeds : (ofDocument parse handWritten).isOk = true := by
    decide +kernel
  cases read : ofDocument parse handWritten with
  | error error =>
      rw [read] at succeeds
      cases succeeds
  | ok schema =>
      exact ⟨SchemaDocument.lawful_ofValue, namedByTexts_handWritten, schema, rfl,
        ofDocument_normal SchemaDocument.lawful_ofValue namedByTexts_handWritten read⟩

end Schema
end RecordSchema
