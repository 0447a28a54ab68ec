import RecordSchema.Schema.Basic
import RecordSchema.Proofs.Name
import RecordSchema.Proofs.Property.RoundTrip

/-!
# Schemas made of properties

A schema that properties have been registered in holds, for each of them, its written form and
what its rules compile to, and nothing else.  So it is given by the properties themselves, each
under its name.
-/

namespace RecordSchema

namespace RuleSet

/-- The written form of a conditional rule compiles, whatever the rule is. -/
theorem ofDocument_isOk (rule : ConditionalRule) :
    ∃ compiled, ofDocument rule.toDocument = .ok compiled := by
  unfold ofDocument
  rw [ConditionalRule.rules_toDocument]
  simp only [Outcome.ok_bind, Rule.normalize_tokenList, ConditionalRule.field_toDocument]
  split
  · exact ⟨_, rfl⟩
  · split
    · exact ⟨_, rfl⟩
    · exact ⟨_, rfl⟩
    · split
      · exact ⟨_, rfl⟩
      · exact ⟨_, rfl⟩
      · exact ⟨_, rfl⟩

end RuleSet

namespace Compiled

theorem ofDocument_isOk (rule : ConditionalRule) :
    ∃ compiled, ofDocument rule.toDocument = .ok compiled := by
  obtain ⟨set, compiles⟩ := RuleSet.ofDocument_isOk rule
  cases set with
  | none =>
      exact ⟨.carried (.text rule.kind), by simp [ofDocument, compiles]⟩
  | some set =>
      exact ⟨.ruleSet set, by simp [ofDocument, compiles]⟩

private theorem ofDocuments_isDone (rules : List ConditionalRule) :
    ∃ compiled, ofDocuments (rules.map ConditionalRule.toDocument) = .done compiled := by
  induction rules with
  | nil =>
      exact ⟨[], rfl⟩
  | cons rule rest inductionHypothesis =>
      obtain ⟨first, compiles⟩ := ofDocument_isOk rule
      obtain ⟨others, done⟩ := inductionHypothesis
      refine ⟨first :: others, ?_⟩
      simp [ofDocuments, compiles, done, Change.lift, Change.done]

theorem ofProperty_eq {property : Property} (distinct : property.facets.attributes.Distinct)
    (own : property.facets.OwnKeys) :
    ofProperty property.toDocument =
      ofDocuments (property.facets.conditionals.map ConditionalRule.toDocument) := by
  cases property with
  | mk facets children items =>
      have listed := Facets.conditionalRules_entries distinct own (Property.childEntries children)
        (Property.itemsDocument items)
      simp only [Facets.entry, Property.facets] at listed ⊢
      simp only [ofProperty, Property.toDocument, Property.entries, Value.field_map, listed,
        Value.parts_list]

/-- The conditional rules of a property compile if no attribute hides them. -/
theorem ofProperty_isDone {property : Property} (distinct : property.facets.attributes.Distinct)
    (own : property.facets.OwnKeys) :
    ∃ compiled, ofProperty property.toDocument = .done compiled := by
  rw [ofProperty_eq distinct own]
  exact ofDocuments_isDone _

end Compiled

/-- What a property adds to a rule table: its tokens, and behind them the rule sets that its
conditional rules compile to. -/
def Property.ruleEntries (property : Property) : List RuleEntry :=
  property.facets.rules.map RuleEntry.token ++
    (Compiled.ofProperty property.toDocument).state.filterMap Compiled.entry?

namespace Schema

/-- A property that a schema takes under a name, and gives back. -/
structure Row (name : Name) (property : Property) : Prop where
  named : ∃ text, name = .text text ∧ property.facets.name = .text text
  sound : property.Sound
  restorable : property.Restorable

/-- Properties each of which is under its own name, and no name twice. -/
structure Rows (rows : Fields Property Name) : Prop where
  distinct : rows.Distinct
  row : ∀ name property, (name, property) ∈ rows → Row name property

def ofRows (rows : Fields Property Name) : Schema where
  properties := rows.map fun row => (row.1, row.2.toDocument)
  rules := rows.map fun row => (row.1, row.2.ruleEntries)

/-- Registering a property puts its written form and what its rules compile to under its name. -/
theorem add_eq_done (schema : Schema) {property : Property} {name : Name}
    (named : Name.ofValue property.facets.name = .ok name)
    (distinct : property.facets.attributes.Distinct) (own : property.facets.OwnKeys) :
    schema.add property = .done { schema with
      properties := schema.properties.put name property.toDocument
      rules := schema.rules.put name property.ruleEntries } := by
  obtain ⟨compiled, done⟩ := Compiled.ofProperty_isDone distinct own
  simp only [add, addProperty, named, Rule.normalize_tokenList, done, Change.lift, Change.done,
    Property.ruleEntries]

/-- Registering a property is putting it among the others. -/
theorem add_ofRows (rows : Fields Property Name) {name : Name} {property : Property}
    (isRow : Row name property) :
    (ofRows rows).add property = .done (ofRows (rows.put name property)) := by
  obtain ⟨text, rfl, named⟩ := isRow.named
  have key : Name.ofValue property.facets.name = .ok (.text text) := by
    rw [named]
    rfl
  rw [add_eq_done _ key isRow.sound.here.facets.distinctAttributes
    isRow.restorable.here.ownKeys]
  simp only [ofRows, Fields.map_put rows _ property]

theorem Rows.put {rows : Fields Property Name} (isRows : Rows rows) {name : Name}
    {property : Property} (isRow : Row name property) : Rows (rows.put name property) where
  distinct := isRows.distinct.put name property
  row := by
    intro key held member
    rcases Fields.mem_put member with ⟨same, rfl⟩ | old
    · obtain ⟨text, rfl, _⟩ := isRow.named
      rw [Name.eq_text_of_beq same]
      exact isRow
    · exact isRows.row key held old

/-- Registering properties one after the other is putting them all among the others. -/
theorem addAll_ofRows (rows : Fields Property Name) {later : Fields Property Name}
    (areRows : ∀ name property, (name, property) ∈ later → Row name property) :
    (ofRows rows).addAll (later.map (·.2)) = .done (ofRows (rows.putAll later)) := by
  induction later generalizing rows with
  | nil =>
      rfl
  | cons row rest inductionHypothesis =>
      have first := add_ofRows rows (areRows row.1 row.2 List.mem_cons_self)
      have others := inductionHypothesis (rows.put row.1 row.2) fun name property member =>
        areRows name property (List.mem_cons_of_mem _ member)
      simp only [List.map_cons, addAll, first, Change.andThen, Change.done] at others ⊢
      exact others

/-- A schema in which rows have been registered one after the other is that of the rows. -/
theorem addAll_rows {rows : Fields Property Name} (areRows : Rows rows) :
    addAll {} (rows.map (·.2)) = .done (ofRows rows) := by
  have all := addAll_ofRows [] areRows.row
  rwa [← Fields.ofPairs, Fields.ofPairs_of_distinct areRows.distinct] at all

end Schema
end RecordSchema
