import RecordSchema.Proofs.Property.Plain
import RecordSchema.Proofs.Schema.Required

/-!
# Loading schemas

A schema is loaded from a plain document as soon as the properties in it can be read: registering
them fails for none that has been read.  What has been loaded has a plain document and plain rules,
so it can be written.
-/

namespace RecordSchema

/-- A property as it is read from a plain document. -/
structure Property.Loaded (property : Property) : Prop where
  named : ∃ name, Name.ofValue property.facets.name = .ok name
  distinct : property.facets.attributes.Distinct
  ownKeys : property.facets.OwnKeys
  plain : property.Plain

/-! ## Reading properties -/

namespace Collection

private theorem loaded_requiredBy {property : Property} (loaded : property.Loaded)
    (names : List Value)
    (key : String) : (requiredBy names key property).Loaded := by
  unfold requiredBy
  split
  · exact {
      named := loaded.named
      distinct := loaded.distinct
      ownKeys := loaded.ownKeys
      plain := ⟨loaded.plain.facets.addToken "required", loaded.plain.children,
        loaded.plain.items⟩ }
  · exact loaded

private theorem loaded_of_readAll {required : List Value} {entries : Fields Value}
    (plain : entries.ArePlain) :
    ∀ row ∈ (readAll required entries).state, row.2.Loaded := by
  intro row member
  obtain ⟨key, document, nested, isEntry, nestedRead, filed⟩ := mem_readAll member
  cases filed with
  | filed named =>
      have sound := Property.sound_ofDocument _ document nestedRead
      exact loaded_requiredBy {
        named := ⟨_, named⟩
        distinct := sound.here.facets.distinctAttributes
        ownKeys := Property.ownKeys_ofDocument nestedRead
        plain := Property.plain_ofDocument _ document (.text key) (plain key document isEntry)
          nestedRead } required key

end Collection

private theorem SchemaDocument.Parser.Lawful.plain_properties {parse : Parser}
    (lawful : parse.Lawful)
    {document : Value} (plain : document.Plain) {read : SchemaDocument}
    (isRead : parse document = .ok read) : ∀ row ∈ read.properties, row.2.ArePlain := by
  intro row member
  obtain ⟨entries, found, isEntry⟩ := lawful.properties document read isRead row member
  exact ((plain.field found).entries row.1 _ isEntry).entries

/-- The properties that are read from a plain document of a schema are as they should be. -/
theorem Schema.loaded_of_propertiesOf {parse : SchemaDocument.Parser} (lawful : parse.Lawful)
    {document : Value} (plain : document.Plain) :
    ∀ row ∈ (propertiesOf parse document).state, row.2.Loaded := by
  unfold propertiesOf
  split
  · exact List.forall_mem_nil _
  · next read isRead =>
      have properties := lawful.plain_properties plain isRead
      simp only [Collection.propertiesOf, Collection.sections_toValue]
      apply Collection.loaded_of_readAll
      intro name value member
      obtain ⟨row, isRow, same⟩ := List.mem_map.mp member
      cases same
      exact .map (properties row isRow)

/-! ## Registering properties -/

namespace Schema

/-- A schema whose document and rules are made of plain values. -/
structure Plain (schema : Schema) : Prop where
  names : ∀ name ∈ schema.properties.names, name.value.Plain
  properties : ∀ name document, (name, document) ∈ schema.properties →
    document.Plain ∧ ∃ flag, document.field "required" = .ok (.bool flag)
  rules : ∀ name entries, (name, entries) ∈ schema.rules →
    ∀ entry ∈ entries, (describeEntry entry).Plain

private theorem plain_empty : Plain {} where
  names := List.forall_mem_nil _
  properties := fun _ _ member => nomatch member
  rules := fun _ _ member => nomatch member

variable {schema : Schema} {property : Property}

private theorem plain_describeEntry (property : Property) :
    ∀ entry ∈ property.ruleEntries, (describeEntry entry).Plain := by
  intro entry member
  rcases List.mem_append.mp member with isToken | isSet
  · obtain ⟨token, _, rfl⟩ := List.mem_map.mp isToken
    exact .text token
  · obtain ⟨compiled, _, isEntry⟩ := List.mem_filterMap.mp isSet
    cases compiled with
    | carried kind =>
        cases isEntry
    | ruleSet set =>
        cases isEntry
        exact .map (Fields.arePlain_cons.mpr ⟨.text set.kind,
          Fields.arePlain_cons.mpr ⟨Value.plain_texts set.rules, Fields.arePlain_nil⟩⟩)

private theorem value_of_ofValue {value : Value} {name : Name}
    (named : Name.ofValue value = .ok name) :
    name.value = value := by
  unfold Name.ofValue at named
  split at named
  · cases named
    rfl
  · cases named

/-- Registering a property that has been read does not fail, and leaves a schema plain. -/
theorem Plain.add (plain : schema.Plain) (loaded : property.Loaded) :
    ∃ next, schema.add property = .done next ∧ next.Plain := by
  obtain ⟨name, named⟩ := loaded.named
  refine ⟨_, add_eq_done schema named loaded.distinct loaded.ownKeys, ?_, ?_, ?_⟩
  · intro key member
    rw [Fields.names_put] at member
    split at member
    · exact plain.names key member
    · rcases List.mem_append.mp member with old | here
      · exact plain.names key old
      · cases List.mem_singleton.mp here
        rw [value_of_ofValue named]
        exact loaded.plain.facets.name
  · intro key document member
    rcases Fields.mem_put member with ⟨_, rfl⟩ | old
    · exact ⟨.map loaded.plain.entries, _,
        requiredFlag_toDocument loaded.distinct loaded.ownKeys⟩
    · exact plain.properties key document old
  · intro key entries member
    rcases Fields.mem_put member with ⟨_, rfl⟩ | old
    · exact plain_describeEntry property
    · exact plain.rules key entries old

/-- Registering properties that have been read fails for none of them. -/
theorem Plain.addAll (plain : schema.Plain) {properties : List Property}
    (loaded : ∀ property ∈ properties, property.Loaded) :
    ∃ filled, schema.addAll properties = .done filled ∧ filled.Plain := by
  induction properties generalizing schema with
  | nil =>
      exact ⟨schema, rfl, plain⟩
  | cons property rest inductionHypothesis =>
      obtain ⟨first, others⟩ := List.forall_mem_cons.mp loaded
      obtain ⟨next, added, nextPlain⟩ := plain.add first
      obtain ⟨filled, restAdded, filledPlain⟩ := inductionHypothesis nextPlain others
      refine ⟨filled, ?_, filledPlain⟩
      rw [Schema.addAll, added]
      exact restAdded

/-- The schema that a document stands for, if it has the shape of one and its properties can be
read. -/
def standingFor (parse : SchemaDocument.Parser) (document : Value) : Except Error Schema :=
  match parse document with
  | .error issues => .error (.wrongShape issues)
  | .ok read => do
    let properties ← Collection.ofDocument read.toValue
    return (Schema.addAll {} (properties.map (·.2))).state

/-- From a plain document a schema is read as soon as its properties are, and it is plain. -/
theorem readDocument_of_plain {parse : SchemaDocument.Parser} (lawful : parse.Lawful)
    {document : Value} (plain : document.Plain) :
    (readDocument parse document).1 = standingFor parse document ∧
      ∀ read, standingFor parse document = .ok read → read.Plain := by
  have loaded := loaded_of_propertiesOf lawful plain
  unfold propertiesOf at loaded
  unfold readDocument standingFor Collection.ofDocument propertiesOf
  cases inShape : parse document with
  | error error =>
      refine ⟨rfl, fun read isRead => ?_⟩
      cases isRead
  | ok shape =>
      simp only [inShape] at loaded ⊢
      cases failed : (Collection.propertiesOf shape.toValue).failure with
      | some error =>
          refine ⟨rfl, fun read isRead => ?_⟩
          cases isRead
      | none =>
          have all : ∀ property ∈
              (Fields.ofPairs (Collection.propertiesOf shape.toValue).state).map (·.2),
              property.Loaded := by
            intro property member
            obtain ⟨row, isRow, rfl⟩ := List.mem_map.mp member
            rcases Fields.mem_putAll isRow with ⟨name, isRead⟩ | none
            · exact loaded (name, row.2) isRead
            · cases none
          obtain ⟨filled, added, filledPlain⟩ := plain_empty.addAll all
          simp only [added, Change.done, Outcome.ok_bind, Outcome.pure_eq_ok]
          refine ⟨trivial, fun read isRead => ?_⟩
          cases isRead
          exact filledPlain

theorem Plain.toDocument (plain : schema.Plain) :
    ∃ document, schema.toDocument = .ok document ∧ document.Plain := by
  obtain ⟨names, required, listed⟩ := requiredNames_eq_ok fun name document member =>
    (plain.properties name document member).2
  refine ⟨_, by rw [Schema.toDocument, Schema.required, required]; rfl, .map ?_⟩
  have propertiesPlain : (Fields.written schema.properties).ArePlain := by
    intro key value member
    obtain ⟨property, isProperty, same⟩ := List.mem_map.mp member
    cases same
    exact (plain.properties property.1 property.2 isProperty).1
  have requiredPlain : ∀ item ∈ names.map (·.value), item.Plain := by
    intro item member
    obtain ⟨name, isListed, rfl⟩ := List.mem_map.mp member
    obtain ⟨document, isProperty, _⟩ := (listed name).mp isListed
    exact plain.names name (List.mem_map.mpr ⟨_, isProperty, rfl⟩)
  exact Fields.arePlain_cons.mpr ⟨.text "object",
    Fields.arePlain_cons.mpr ⟨.map propertiesPlain,
      Fields.arePlain_cons.mpr ⟨.list requiredPlain, Fields.arePlain_nil⟩⟩⟩

theorem Plain.describe (plain : schema.Plain) : (describe schema.rules).Plain := by
  refine .map fun key value member => ?_
  obtain ⟨written, isWritten, same⟩ := List.mem_map.mp member
  obtain ⟨row, isRow, rfl⟩ := List.mem_map.mp isWritten
  cases same
  refine .list fun item isItem => ?_
  obtain ⟨entry, isEntry, rfl⟩ := List.mem_map.mp isItem
  exact plain.rules row.1 row.2 isRow entry isEntry

end Schema
end RecordSchema
