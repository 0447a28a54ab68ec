import RecordSchema.Proofs.Collection.Reading
import RecordSchema.Proofs.Schema.Rows

/-!
# Reading back schemas

A schema that properties have been registered in is read back from its document by any parser that
accepts what is declared: the properties from their written forms, and the rules by compiling the
same rules again.
-/

namespace RecordSchema

namespace Shape

private theorem textItems_map_text (path : List PathStep) (position : Nat) (texts : List String) :
    textItems path position (texts.map .text) = .ok texts := by
  induction texts generalizing position with
  | nil =>
      rfl
  | cons text rest inductionHypothesis =>
      simp only [List.map_cons, textItems, inductionHypothesis]
      rfl

private theorem entriesOf_map (path : List PathStep) (fields : Fields (Fields Value)) :
    entriesOf map path (fields.map fun field => (field.1, .map field.2)) = .ok fields := by
  induction fields with
  | nil =>
      rfl
  | cons field rest inductionHypothesis =>
      simp only [List.map_cons, entriesOf, inductionHypothesis]
      rfl

private theorem both_eq_ok {α β : Type} {first : Reading α} {second : Reading β} {result : α × β}
    (read : both first second = .ok result) : first = .ok result.1 ∧ second = .ok result.2 := by
  cases first with
  | error issues =>
      cases second <;> cases read
  | ok value =>
      cases second with
      | error issues =>
          cases read
      | ok other =>
          cases read
          exact ⟨rfl, rfl⟩

private theorem mem_of_entriesOf {path : List PathStep} {entries : Fields Value}
    {maps : Fields (Fields Value)} (read : entriesOf map path entries = .ok maps) :
    ∀ row ∈ maps, (row.1, .map row.2) ∈ entries := by
  induction entries generalizing maps with
  | nil =>
      cases read
      exact List.forall_mem_nil _
  | cons entry rest inductionHypothesis =>
      obtain ⟨⟨first, others⟩, bothRead, rfl⟩ := Outcome.map_eq_ok_iff.mp read
      obtain ⟨firstRead, othersRead⟩ := both_eq_ok bothRead
      refine List.forall_mem_cons.mpr ⟨?_, ?_⟩
      · obtain ⟨name, value⟩ := entry
        cases value <;> cases firstRead
        exact List.mem_cons_self
      · intro row member
        exact List.mem_cons_of_mem _ (inductionHypothesis othersRead row member)

end Shape

namespace SchemaDocument

private theorem ofValue_toValue (document : SchemaDocument) :
    ofValue document.toValue = .ok document := by
  have properties := Shape.entriesOf_map [.name "properties"] document.properties
  have required := Shape.textItems_map_text [.name "required"] 0 document.required
  simp [ofValue, toValue, Shape.entry, Fields.get?_cons, Shape.objectMark, Shape.mapOf, properties,
    Shape.texts, required, Shape.both]

private theorem mem_properties {value : Value} {document : SchemaDocument}
    (isRead : ofValue value = .ok document) {row : String × Fields Value}
    (member : row ∈ document.properties) :
    ∃ entries, value.field "properties" = .ok (.map entries) ∧ (row.1, .map row.2) ∈ entries := by
  unfold ofValue at isRead
  split at isRead
  · next fields isMap =>
      obtain ⟨⟨_, properties, required⟩, inShape, isDocument⟩ := Outcome.bind_eq_ok_iff.mp isRead
      cases isDocument
      have propertiesRead := (Shape.both_eq_ok (Shape.both_eq_ok inShape).2).1
      dsimp only at propertiesRead member
      unfold Shape.entry at propertiesRead
      split at propertiesRead
      · next given found =>
          unfold Shape.mapOf at propertiesRead
          split at propertiesRead
          · refine ⟨_, ?_, Shape.mem_of_entriesOf propertiesRead row member⟩
            rw [Value.field_of_mapping? isMap, found]
            rfl
          · cases propertiesRead
      · cases propertiesRead
        cases member
  · cases isRead

theorem lawful_ofValue : Parser.Lawful ofValue where
  declared := ofValue_toValue
  properties _ _ isRead _ member := mem_properties isRead member

end SchemaDocument

namespace Collection

theorem sections_toValue (document : SchemaDocument) :
    sections document.toValue =
      .ok (document.properties.map fun entry => (entry.1, .map entry.2),
        document.required.map .text) := by
  simp [sections, SchemaDocument.toValue, Fields.get?_cons, requiredIn]

end Collection

namespace Schema

variable {parse : SchemaDocument.Parser} {rows : Fields Property Name}

def requiredRows (rows : Fields Property Name) : Fields Property Name :=
  rows.filter fun row => row.2.facets.isRequired

def documentOf (rows : Fields Property Name) : SchemaDocument where
  properties := rows.map fun row => (row.1.toText, row.2.entries)
  required := (requiredRows rows).names.map Name.toText

theorem requiredFlag_toDocument {property : Property}
    (distinct : property.facets.attributes.Distinct) (own : property.facets.OwnKeys) :
    property.toDocument.field "required" = .ok (.bool property.facets.isRequired) := by
  cases property with
  | mk facets children items =>
      simp only [Property.facets] at distinct own ⊢
      rw [Property.toDocument, Value.field_map, Property.entries,
        Facets.get?_entries distinct own _ _ (by decide)]
      simp [Facets.ownEntries, Fields.get?_cons]

private theorem requiredNames_ofRows
    (areRows : ∀ name property, (name, property) ∈ rows → Row name property) :
    requiredNames (ofRows rows).properties = .ok (requiredRows rows).names := by
  induction rows with
  | nil =>
      rfl
  | cons row rest inductionHypothesis =>
      have isRow := areRows row.1 row.2 List.mem_cons_self
      have flag := requiredFlag_toDocument isRow.sound.here.facets.distinctAttributes
        isRow.restorable.here.ownKeys
      have others := inductionHypothesis fun name property member =>
        areRows name property (List.mem_cons_of_mem _ member)
      simp only [ofRows, List.map_cons, requiredNames, flag, Outcome.ok_bind] at others ⊢
      rw [others, Outcome.ok_bind, Value.strictlyEquals_true, Outcome.pure_eq_ok]
      by_cases isRequired : row.2.facets.isRequired = true
      · simp [requiredRows, isRequired]
      · simp [requiredRows, isRequired]

theorem toDocument_ofRows
    (areRows : ∀ name property, (name, property) ∈ rows → Row name property) :
    (ofRows rows).toDocument = .ok (documentOf rows).toValue := by
  have writtenRows : (ofRows rows).properties.written =
      (documentOf rows).properties.map fun entry => (entry.1, Value.map entry.2) := by
    simp only [ofRows, documentOf, Fields.written, List.map_map]
    apply List.map_congr_left
    intro row member
    obtain ⟨text, isText, _⟩ := (areRows row.1 row.2 member).named
    simp only [Function.comp, isText]
    rfl
  have requiredTexts : (requiredRows rows).names.map (·.value) =
      (documentOf rows).required.map .text := by
    simp only [documentOf, List.map_map, Fields.names]
    apply List.map_congr_left
    intro row member
    obtain ⟨text, isText, _⟩ := (areRows row.1 row.2 (List.mem_filter.mp member).1).named
    simp only [Function.comp, isText]
    rfl
  simp only [toDocument, required, requiredNames_ofRows areRows, Outcome.ok_bind, writtenRows,
    requiredTexts, Outcome.pure_eq_ok, SchemaDocument.toValue]

private theorem readAll_rows {names : List Value}
    (areRows : ∀ name property, (name, property) ∈ rows → Row name property)
    (required : ∀ name property, (name, property) ∈ rows →
      names.any (Value.equals (.text name.toText)) = true → property.facets.isRequired = true) :
    Collection.readAll names (rows.map fun row => (row.1.toText, .map row.2.entries)) =
      .done rows := by
  induction rows with
  | nil =>
      rfl
  | cons row rest inductionHypothesis =>
      obtain ⟨name, property⟩ := row
      have isRow := areRows name property List.mem_cons_self
      have others := inductionHypothesis
        (fun name property member => areRows name property (List.mem_cons_of_mem _ member))
        (fun name property member => required name property (List.mem_cons_of_mem _ member))
      have unchanged := Collection.requiredBy_of_required isRow.sound
        (required name property List.mem_cons_self)
      have read := Property.ofDocument_toDocument isRow.sound isRow.restorable (.text name.toText)
      obtain ⟨text, rfl, named⟩ := isRow.named
      have key : Name.ofValue (.text text) = .ok (.text text) := rfl
      rw [Property.toDocument] at read
      simp only [List.map_cons, Collection.readAll, read, named, key, unchanged, others,
        Outcome.ok_bind, Outcome.pure_eq_ok, Change.lift, Change.done]

/-- Where no name occurs twice, only properties that are required are listed as such. -/
theorem isRequired_of_listed (areRows : Rows rows) {name : Name} {property : Property}
    (member : (name, property) ∈ rows)
    (listed : ((documentOf rows).required.map Value.text).any
      (Value.equals (.text name.toText)) = true) : property.facets.isRequired = true := by
  obtain ⟨text, rfl, _⟩ := (areRows.row name property member).named
  obtain ⟨value, valueListed, equals⟩ := List.any_eq_true.mp listed
  obtain ⟨other, otherListed, rfl⟩ := List.mem_map.mp valueListed
  obtain ⟨otherName, required, rfl⟩ := List.mem_map.mp otherListed
  obtain ⟨row, rowRequired, rfl⟩ := List.mem_map.mp required
  obtain ⟨rowMember, isRequired⟩ := List.mem_filter.mp rowRequired
  obtain ⟨rowName, rowProperty⟩ := row
  obtain ⟨rowText, rfl, _⟩ := (areRows.row rowName rowProperty rowMember).named
  have same : text = rowText := by
    simpa using equals
  subst same
  have found := Fields.get?_of_mem areRows.distinct member
  rw [Fields.get?_of_mem areRows.distinct rowMember] at found
  cases found
  exact isRequired

/-- A schema of properties is read back from its document. -/
theorem ofDocument_documentOf (lawful : parse.Lawful) (areRows : Rows rows) :
    ofDocument parse (documentOf rows).toValue = .ok (ofRows rows) := by
  have read : propertiesOf parse (documentOf rows).toValue = .done rows := by
    simp only [propertiesOf, lawful.declared, Collection.propertiesOf,
      Collection.sections_toValue]
    have all := readAll_rows areRows.row fun name property member =>
      isRequired_of_listed areRows member
    simpa only [documentOf, List.map_map, Function.comp_def] using all
  have asTheyAre : Fields.ofPairs rows = rows :=
    Fields.ofPairs_of_distinct areRows.distinct
  simp only [ofDocument, readDocument, read, Change.done, asTheyAre, addAll_rows areRows]

/-- A property that can be made, is named by a text, and can be written in full. -/
structure Registrable (property : Property) : Prop where
  reachable : Property.Reachable Property.Fresh property
  named : ∃ text, property.facets.name = .text text
  restorable : property.Restorable

/-- A schema in which properties have been registered, alone or several together. -/
inductive Built : Schema → Prop
  | empty : Built {}
  | add {schema : Schema} {property : Property} :
      Built schema → Registrable property → Built (schema.add property).state
  | addAll {schema : Schema} {properties : List Property} :
      Built schema → (∀ property ∈ properties, Registrable property) →
      Built (schema.addAll properties).state

theorem Registrable.row {property : Property} (registrable : Registrable property) :
    ∃ name, Row name property := by
  obtain ⟨text, named⟩ := registrable.named
  have sound := registrable.reachable.sound fun _ fresh => fresh.sound
  exact ⟨.text text, ⟨⟨text, rfl, named⟩, sound, registrable.restorable⟩⟩

/-- What holds of properties together holds of rows under some names. -/
theorem exists_rows {properties : List Property}
    (registrable : ∀ property ∈ properties, Registrable property) :
    ∃ later : Fields Property Name, later.map (·.2) = properties ∧
      ∀ name property, (name, property) ∈ later → Row name property := by
  induction properties with
  | nil =>
      exact ⟨[], rfl, fun _ _ member => nomatch member⟩
  | cons property rest inductionHypothesis =>
      obtain ⟨name, isRow⟩ := (registrable property List.mem_cons_self).row
      obtain ⟨later, sameRest, areRows⟩ := inductionHypothesis fun other member =>
        registrable other (List.mem_cons_of_mem _ member)
      refine ⟨(name, property) :: later, by simp [sameRest], ?_⟩
      intro otherName other member
      rcases List.mem_cons.mp member with here | there
      · cases here
        exact isRow
      · exact areRows otherName other there

theorem Rows.putAll {rows later : Fields Property Name} (areRows : Rows rows)
    (laterRows : ∀ name property, (name, property) ∈ later → Row name property) :
    Rows (rows.putAll later) := by
  induction later generalizing rows with
  | nil =>
      exact areRows
  | cons row rest inductionHypothesis =>
      apply inductionHypothesis (areRows.put (laterRows row.1 row.2 List.mem_cons_self))
      intro name property member
      exact laterRows name property (List.mem_cons_of_mem _ member)

/-- However it was built, a schema is that of some properties. -/
theorem Built.eq_ofRows {schema : Schema} (built : Built schema) :
    ∃ rows, Rows rows ∧ schema = ofRows rows := by
  induction built with
  | empty =>
      exact ⟨[], ⟨Fields.distinct_nil, fun _ _ member => nomatch member⟩, rfl⟩
  | add _ registrable inductionHypothesis =>
      obtain ⟨rows, areRows, rfl⟩ := inductionHypothesis
      obtain ⟨name, isRow⟩ := registrable.row
      exact ⟨_, areRows.put isRow, by rw [add_ofRows rows isRow]; rfl⟩
  | addAll _ registrable inductionHypothesis =>
      obtain ⟨rows, areRows, rfl⟩ := inductionHypothesis
      obtain ⟨later, rfl, laterRows⟩ := exists_rows registrable
      exact ⟨_, areRows.putAll laterRows, by rw [addAll_ofRows rows laterRows]; rfl⟩

/-- Two schemas have the same document and the same rules, and given the same messages and labels
they say the same about every record. -/
structure Agrees (first second : Schema) : Prop where
  document : first.toDocument = second.toDocument
  rules : describe first.rules = describe second.rules
  verdicts : ∀ messages labels engine record,
    ({ first with messages := messages, labels := labels } : Schema).evaluate engine record =
      ({ second with messages := messages, labels := labels } : Schema).evaluate engine record

/-- A schema loses nothing in its document: it can be written, and what is read from its document
agrees with it. -/
theorem Built.document_restores {schema : Schema} (built : Built schema)
    (lawful : parse.Lawful) :
    ∃ document again, schema.toDocument = .ok document ∧
      ofDocument parse document = .ok again ∧ Agrees again schema := by
  obtain ⟨rows, areRows, rfl⟩ := built.eq_ofRows
  have written := toDocument_ofRows areRows.row
  have read := ofDocument_documentOf lawful areRows
  exact ⟨_, _, written, read, rfl, rfl, fun _ _ _ _ => rfl⟩

/-- An address that has to be given when something is delivered. -/
def address : Property :=
  .mk {
    name := .text "address"
    declared := .union ["null", "object"]
    rules := ["nullable"]
    attributes := [("order", .int 3)]
    conditionals := [.equality (.text "delivered") (.bool true) ["required"]] }
    [(.text "city", .property (Property.plain "string" "city"))] none

private theorem registrable_address : Registrable address where
  reachable := by
    have city : Property.Reachable Property.Fresh (Property.plain "string" "city") :=
      .origin (@Property.Fresh.preset "string" _ _ .null _ _ rfl rfl)
    have bare : Property.Reachable Property.Fresh (Property.plain "object" "address") :=
      .origin (@Property.Fresh.preset "object" _ _ .null _ _ rfl rfl)
    have withCity := bare.edit (.addChild (Property.plain "string" "city"))
      fun part member => List.mem_singleton.mp member ▸ city
    have withOrder := withCity.edit (.facets (.addAttribute (.text "order") (.int 3)))
      (List.forall_mem_nil _)
    have nullable := withOrder.edit (.facets (.setNullable true)) (List.forall_mem_nil _)
    have delivered := nullable.edit
      (.facets (.addWhen (.text "delivered") (.bool true) (.list [.text "required"])))
      (List.forall_mem_nil _)
    exact delivered
  named := ⟨"address", rfl⟩
  restorable := by
    apply Property.every_mk
    · exact {
        declaresType := by simp [SchemaType.members]
        writableConditionals := by simp [ConditionalRule.isClosure]
        ownKeys := by simp [Facets.OwnKeys, documentKeys]
        properChildren := by
          intro name child member
          cases List.mem_singleton.mp member
          exact ⟨"city", _, rfl, rfl⟩
        properItems := by simp }
    · intro name nested member
      cases List.mem_singleton.mp member
      exact Property.restorable_leaf {
        declaresType := by simp [SchemaType.members]
        writableConditionals := by simp
        ownKeys := by simp [Facets.OwnKeys]
        properChildren := by simp
        properItems := by simp }
    · simp

theorem document_restores_address :
    Built (add {} address).state ∧ SchemaDocument.Parser.Lawful SchemaDocument.ofValue ∧
      ∃ document again, (add {} address).state.toDocument = .ok document ∧
        ofDocument SchemaDocument.ofValue document = .ok again ∧
        Agrees again (add {} address).state :=
  have built : Built (add {} address).state := .add .empty registrable_address
  ⟨built, SchemaDocument.lawful_ofValue, built.document_restores SchemaDocument.lawful_ofValue⟩

end Schema
end RecordSchema
