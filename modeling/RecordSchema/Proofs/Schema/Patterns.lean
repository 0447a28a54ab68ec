import RecordSchema.Proofs.Check.Findings
import RecordSchema.Proofs.Property.Patterns
import RecordSchema.Proofs.Rule.Compilation
import RecordSchema.Proofs.Rule.Resolution
import RecordSchema.Proofs.Schema.Rows

/-!
# Checking records against stored patterns

A schema compiles a rule about a pattern without reading the pattern.  It is read when a record is
checked whose field has a text to search in, and a pattern that cannot be read ends the whole check.
-/

namespace RecordSchema

/-- The ways in which a search of a value for a pattern ends in an error. -/
inductive Value.SearchFails (found source : Value) : Error → Prop
  /-- The value is a number with too many digits to be written. -/
  | unwritten {error : Error} : found.writtenText = .error error → SearchFails found source error
  /-- There is a text to search in, and the pattern cannot be read. -/
  | unreadable {text : String} {error : Error} : found.writtenText = .ok text →
      Pattern.ofValue source = .error error → SearchFails found source error
  /-- The search itself breaks off. -/
  | brokenOff {text : String} {pattern : Pattern} : found.writtenText = .ok text →
      Pattern.ofValue source = .ok pattern → pattern.isFoundIn text = .error .crossedCapture →
      SearchFails found source .brokenMatch

private theorem Value.searchFails_iff {found source : Value} {error : Error} :
    found.SearchFails source error ↔
      (do Pattern.found source (← found.writtenText)) = .error error := by
  rw [Outcome.bind_eq_error_iff]
  constructor
  · intro fails
    cases fails with
    | unwritten unwritten =>
        exact .inl unwritten
    | unreadable written refused =>
        exact .inr ⟨_, written, by simp [Pattern.found, refused]⟩
    | brokenOff written isRead broken =>
        exact .inr ⟨_, written, by simp [Pattern.found, isRead, broken]⟩
  · rintro (unwritten | ⟨text, written, failed⟩)
    · exact .unwritten unwritten
    · rcases Outcome.bind_eq_error_iff.mp failed with refused | ⟨pattern, isRead, broken⟩
      · exact .unreadable written refused
      · split at broken
        · cases broken
        · next crossed =>
            cases broken
            exact .brokenOff written isRead crossed

def SearchFails (record : Fields Value) (selector : String) (source : Value) (error : Error) :
    Prop :=
  ∃ found, Holding record (.text selector) found ∧ Scalar found ∧ found.SearchFails source error

private theorem Rule.Condition.holds_pattern_eq_error_iff {closures : Closures}
    {record : Fields Value}
    {selector : String} {source : Value} {error : Error} :
    (pattern (.text selector) source).holds closures record = .error error ↔
      SearchFails record selector source error := by
  rcases lookupField_cases record selector with ⟨looked, nothing⟩ | ⟨found, looked, holding⟩
  · simp [holds, looked, isSearchable, SearchFails, nothing]
  · rw [SearchFails, exists_holding_iff holding, ← isSearchable_iff, Value.searchFails_iff]
    simp only [holds, looked, Outcome.ok_bind]
    split
    · next searchable =>
        simp [searchable]
    · next unsearchable =>
        simp [unsearchable]

namespace RuleSet

/-- A rule about a pattern compiles whatever the pattern is, and fails on a record exactly if the
search of its field does. -/
theorem ofDocument_pattern (selector : String) (source : Value) (tokens : List String) :
    ∃ set, ofDocument (ConditionalRule.pattern (.text selector) source tokens).toDocument =
        .ok (some set) ∧
      ∀ closures record error, set.resolve closures record = .error error ↔
        SearchFails record selector source error := by
  refine ⟨⟨.pattern (.text selector) source, tokens, "pattern"⟩, ?_, ?_⟩
  · simp [ofDocument, ConditionalRule.field_toDocument, ConditionalRule.kind,
      ConditionalRule.selector, ConditionalRule.rules, Fields.get?_cons]
  · intro closures record error
    rw [← Rule.Condition.holds_pattern_eq_error_iff, resolve, Outcome.bind_eq_error_iff]
    refine or_iff_left ?_
    rintro ⟨answer, _, failed⟩
    cases answer <;> cases failed

end RuleSet

namespace RuleEntry

variable {closures : Rule.Closures} {record : Fields Value} {entries : List RuleEntry}

private theorem ruleSet_of_resolve {tokens : List String}
    (resolved : resolve closures record entries = .ok tokens) {set : RuleSet}
    (member : .ruleSet set ∈ entries) : ∃ added, set.resolve closures record = .ok added := by
  obtain ⟨_, areDistinct, _⟩ := Outcome.bind_eq_ok_iff.mp resolved
  obtain ⟨values, collected, _⟩ := Outcome.bind_eq_ok_iff.mp areDistinct
  obtain ⟨own, isOwn⟩ := contribution_of_contributions collected _ member
  obtain ⟨added, isAdded, _⟩ := Outcome.bind_eq_ok_iff.mp isOwn
  exact ⟨added, isAdded⟩

end RuleEntry

private theorem Compiled.mem_ofDocuments {rules : List ConditionalRule} {rule : ConditionalRule}
    {set : RuleSet} (member : rule ∈ rules)
    (compiles : RuleSet.ofDocument rule.toDocument = .ok (some set)) :
    .ruleSet set ∈ (ofDocuments (rules.map ConditionalRule.toDocument)).state := by
  induction rules with
  | nil =>
      cases member
  | cons first rest inductionHypothesis =>
      obtain ⟨compiled, isCompiled⟩ := ofDocument_isOk first
      simp only [List.map_cons, ofDocuments, isCompiled, Change.lift]
      rcases List.mem_cons.mp member with rfl | later
      · simp only [ofDocument, compiles, Outcome.ok_bind, Outcome.pure_eq_ok] at isCompiled
        cases isCompiled
        exact List.mem_cons_self
      · exact List.mem_cons_of_mem _ (inductionHypothesis later)

namespace Schema

variable {property : Property} {name : Name} {rule : ConditionalRule} {set : RuleSet}

/-- A record is reported on only if each rule set of a property has an answer for it. -/
theorem ruleSet_of_evaluate (schema : Schema) (named : Name.ofValue property.facets.name = .ok name)
    (distinct : property.facets.attributes.Distinct) (own : property.facets.OwnKeys)
    (member : rule ∈ property.facets.conditionals)
    (compiles : RuleSet.ofDocument rule.toDocument = .ok (some set)) {engine : Engine}
    {record : Fields Value} {report : Report}
    (evaluated : (schema.add property).state.evaluate engine (.map record) = .ok report) :
    ∃ added, set.resolve engine.closures record = .ok added := by
  have isEntry : .ruleSet set ∈ property.ruleEntries := by
    refine List.mem_append_right _ (List.mem_filterMap.mpr ⟨.ruleSet set, ?_, rfl⟩)
    rw [Compiled.ofProperty_eq distinct own]
    exact Compiled.mem_ofDocuments member compiles
  have found : (schema.add property).state.rules.get? name = some property.ruleEntries := by
    rw [add_eq_done schema named distinct own]
    exact Fields.get?_put_self _ _ _
  obtain ⟨key, _, isRow⟩ := Fields.mem_of_get?_eq_some found
  obtain ⟨findings, isFound⟩ := (Engine.evaluate_eq_ok_iff.mp evaluated).1 _ isRow
  obtain ⟨tokens, resolved, _⟩ := Engine.findingsOn_eq_ok_iff.mp isFound
  exact RuleEntry.ruleSet_of_resolve resolved isEntry

end Schema

namespace Property

/-- A pattern that a property holds can be read, unless it stands in a document that a property was
read from: reading stores the rules of a document whatever their patterns are.  A schema takes the
rule in any case.  A record has a report only if the search of its field does not fail, as it does
where there is a text to search in and the pattern cannot be read. -/
theorem Reachable.patterns_readable_or_listed {origin : Property → Prop} {property : Property}
    (fresh : ∀ start, origin start → Fresh start) (reachable : Reachable origin property) :
    (∀ selector source tokens, property.HoldsRule (.pattern selector source tokens) →
      (∃ pattern, Pattern.ofValue source = .ok pattern) ∨
      ∃ name document start, origin start ∧ ofDocument name document = .ok start ∧
        Listed (.pattern selector source tokens) document) ∧
    (∀ name document rule, ofDocument name document = .ok property →
      (property.HoldsRule rule ↔ Listed rule document)) ∧
    ∀ selector source tokens,
      .pattern (.text selector) source tokens ∈ property.facets.conditionals →
        ∃ set, RuleSet.ofDocument
            (ConditionalRule.pattern (.text selector) source tokens).toDocument =
            .ok (some set) ∧
          (∀ closures record error, set.resolve closures record = .error error ↔
            SearchFails record selector source error) ∧
          ∀ (schema : Schema) name, Name.ofValue property.facets.name = .ok name →
            property.facets.OwnKeys →
              (schema.add property).failure = none ∧
              ∀ engine record report,
                (schema.add property).state.evaluate engine (.map record) = .ok report →
                  ∀ error, ¬ SearchFails record selector source error := by
  refine ⟨?_, fun name document rule read => holdsRule_iff_listed read, ?_⟩
  · intro selector source tokens held
    rcases reachable.holdsRule held with readable | ⟨start, isOrigin, inside⟩
    · exact .inl readable
    · obtain ⟨name, document, read⟩ := (fresh start isOrigin).read_of_holdsRule inside
      exact .inr ⟨name, document, start, isOrigin, read, (holdsRule_iff_listed read).mp inside⟩
  · intro selector source tokens member
    obtain ⟨set, compiles, resolves⟩ := RuleSet.ofDocument_pattern selector source tokens
    refine ⟨set, compiles, resolves, ?_⟩
    intro schema name named own
    have sound := reachable.sound fun start isOrigin => (fresh start isOrigin).sound
    have distinct := sound.here.facets.distinctAttributes
    refine ⟨by rw [schema.add_eq_done named distinct own]; rfl, ?_⟩
    intro engine record report evaluated error fails
    obtain ⟨added, answered⟩ :=
      schema.ruleSet_of_evaluate named distinct own member compiles evaluated
    rw [(resolves engine.closures record error).mpr fails] at answered
    cases answered

/-- A document with a rule for its pattern: a parenthesis that is opened and never closed. -/
def discountDocument : Value :=
  .map [("conditionalRules", .list [.map [
    ("type", .text "pattern"),
    ("field", .text "code"),
    ("value", .map [("pattern", .text "(")]),
    ("rules", .list [.text "required"])]])]

/-- What is read from the document. -/
def discount : Property :=
  leaf {
    name := .text "discount"
    declared := .single "string"
    conditionals := [.pattern (.text "code") (.text "(") ["required"]] }

/-- The discount with one more rule, whose pattern can be read. -/
def limitedDiscount : Property :=
  leaf { discount.facets with
    conditionals := discount.facets.conditionals ++
      [.pattern (.text "code") (.text "^A") ["max:5"]] }

private theorem ofDocument_discount :
    ofDocument (.text "discount") discountDocument = .ok discount := by
  rw [ofDocument_eq]
  rfl

private theorem unclosed_refused : Pattern.ofValue (.text "(") = .error (.patternInvalid "(") :=
  rfl

private theorem reachable_limitedDiscount : Reachable (· = discount) limitedDiscount := by
  have start : Reachable (· = discount) discount := .origin rfl
  exact start.edit
    (.facets (.addWhenMatches (.text "code") (.text "^A") (.list [.text "max:5"])))
    (List.forall_mem_nil _)

/-- The pattern that cannot be read is still that of the document, and no record with a code can be
checked. -/
theorem patterns_readable_or_listed_limitedDiscount :
    (∀ start, start = discount → Fresh start) ∧ Reachable (· = discount) limitedDiscount ∧
      (∃ name document, ofDocument name document = .ok discount ∧
        Listed (.pattern (.text "code") (.text "(") ["required"]) document) ∧
      ∀ engine report,
        (Schema.add {} limitedDiscount).state.evaluate engine (.map [("code", .text "A1")]) ≠
          .ok report := by
  have fresh : ∀ start, start = discount → Fresh start := by
    rintro start rfl
    exact .read ofDocument_discount
  have reachable := reachable_limitedDiscount
  have member : .pattern (.text "code") (.text "(") ["required"] ∈
      limitedDiscount.facets.conditionals := List.mem_cons_self
  obtain ⟨traced, _, running⟩ := Reachable.patterns_readable_or_listed fresh reachable
  refine ⟨fresh, reachable, ?_, ?_⟩
  · rcases traced _ _ _ ⟨limitedDiscount, .self _, member⟩ with ⟨pattern, isRead⟩ |
      ⟨name, document, start, rfl, read, listed⟩
    · rw [unclosed_refused] at isRead
      cases isRead
    · exact ⟨name, document, read, listed⟩
  · intro engine report evaluated
    obtain ⟨set, _, _, checks⟩ := running _ _ _ member
    have fails : SearchFails [("code", .text "A1")] "code" (.text "(") (.patternInvalid "(") :=
      ⟨.text "A1", ⟨"code", rfl, rfl, by simp⟩, .text "A1", .unreadable rfl unclosed_refused⟩
    exact (checks {} _ rfl (List.forall_mem_nil _)).2 engine _ report evaluated _ fails

/-- The pattern of the document is stored though it cannot be read, where attaching the same rule is
refused, and checking a record with a code raises what reading the pattern would have raised. -/
theorem discount_stores_unreadable :
    ofDocument (.text "discount") discountDocument = .ok discount ∧
      discount.HoldsRule (.pattern (.text "code") (.text "(") ["required"]) ∧
      Pattern.ofValue (.text "(") = .error (.patternInvalid "(") ∧
      ((Edit.facets (.addWhenMatches (.text "code") (.text "(") (.list [.text "required"]))).apply
        discount).failure.isSome = true ∧
      (Schema.add {} discount).state.evaluate {} (.map [("code", .text "A1")]) =
        .error (.patternInvalid "(") :=
  ⟨ofDocument_discount, ⟨discount, .self _, List.mem_cons_self⟩, unclosed_refused, rfl, rfl⟩

end Property
end RecordSchema
