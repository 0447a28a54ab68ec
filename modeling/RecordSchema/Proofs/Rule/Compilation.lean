import RecordSchema.Property.Facets
import RecordSchema.Proofs.Fields
import RecordSchema.Proofs.Rule.RoundTrip

/-!
# Compiled conditional rules

When a conditional rule applies is said here once more, kind by kind and without the conditions
that rules compile to.  A compiled rule applies to the same records.  The shape of the written form
decides what a rule compiles to, so one rule is left out: a field that is compared to a map which
spells a pattern or an operator.
-/

namespace RecordSchema

def Holding (record : Fields Value) (field found : Value) : Prop :=
  ∃ name, field = .text name ∧ record.get? name = some found ∧ found ≠ .null

private theorem Holding.ne_null {record : Fields Value} {field found : Value}
    (holding : Holding record field found) : found ≠ .null :=
  holding.choose_spec.2.2

private theorem holding_iff {record : Fields Value} {name : Name} {found : Value} :
    Holding record name.value found ↔ record.under? name = some found ∧ found ≠ .null := by
  rw [Fields.under?, Option.bind_eq_some_iff]
  constructor
  · rintro ⟨text, isText, there, present⟩
    exact ⟨⟨text, by simp [Name.text?, isText, Value.text?], there⟩, present⟩
  · rintro ⟨⟨text, isText, there⟩, present⟩
    exact ⟨text, congrArg Name.value (Name.text?_eq_some_iff.mp isText), there, present⟩

/-- What a record has under a name is what the field holds, or there is no value. -/
theorem under?_cases (record : Fields Value) (name : Name) :
    ((record.under? name).getD .null = .null ∧ ∀ found, ¬ Holding record name.value found) ∨
      ∃ found, (record.under? name).getD .null = found ∧ Holding record name.value found := by
  cases there : record.under? name with
  | none =>
      left
      refine ⟨rfl, fun found holding => ?_⟩
      rw [holding_iff, there] at holding
      cases holding.1
  | some found =>
      by_cases absent : found = .null
      · left
        refine ⟨absent, fun other holding => ?_⟩
        rw [holding_iff, there, absent] at holding
        exact holding.2 (Option.some.inj holding.1).symm
      · right
        exact ⟨found, rfl, holding_iff.mpr ⟨there, absent⟩⟩

/-- Looking up a field gives what it holds, or no value. -/
theorem lookupField_cases (record : Fields Value) (name : String) :
    (Value.lookupField record (.text name) = .ok .null ∧
        ∀ found, ¬ Holding record (.text name) found) ∨
      ∃ found, Value.lookupField record (.text name) = .ok found ∧
        Holding record (.text name) found := by
  have looked : Value.lookupField record (.text name) =
      .ok ((record.under? (.text name)).getD .null) := rfl
  rw [looked]
  rcases under?_cases record (.text name) with ⟨absent, nothing⟩ | ⟨found, there, holding⟩
  · exact Or.inl ⟨congrArg Except.ok absent, nothing⟩
  · exact Or.inr ⟨found, congrArg Except.ok there, holding⟩

theorem exists_holding_iff {record : Fields Value} {field found : Value} {feature : Value → Prop}
    (holding : Holding record field found) :
    (∃ other, Holding record field other ∧ feature other) ↔ feature found := by
  constructor
  · rintro ⟨other, otherHolding, isFeature⟩
    obtain ⟨name, rfl, there, _⟩ := holding
    obtain ⟨otherName, same, otherThere, _⟩ := otherHolding
    cases same
    rw [there] at otherThere
    cases otherThere
    exact isFeature
  · intro isFeature
    exact ⟨found, holding, isFeature⟩

/-- A text, a number or a truth value. -/
inductive Scalar : Value → Prop
  | text (value : String) : Scalar (.text value)
  | bool (value : Bool) : Scalar (.bool value)
  | int (value : Int) : Scalar (.int value)
  | double (value : Double) : Scalar (.double value)

/-- A field of a record is as expected: it holds nothing if no value is expected, and otherwise a
value that strictly equals the expected one. -/
def AsExpected (record : Fields Value) (name : Name) : Value → Prop
  | .null => ∀ found, ¬ Holding record name.value found
  | expected => ∃ found, Holding record name.value found ∧ found.strictlyEquals expected = true

namespace ConditionalRule

/-- Whether a rule about the record applies to it.  The rules about siblings are about a property
in its context and apply to no record. -/
def Applies (closures : Rule.Closures) (record : Fields Value) : ConditionalRule → Prop
  | .closure identity _ =>
    ∃ answer, closures identity (.map record) = .ok answer ∧ answer.isTruthy = true
  | .allFields expected _ => ∀ entry ∈ expected, AsExpected record entry.1 entry.2
  | .equality field expected _ =>
    ∃ found, Holding record field found ∧ found.strictlyEquals expected = true
  | .pattern field source _ =>
    ∃ found, Holding record field found ∧ Scalar found ∧
      ∃ text, found.writtenText = .ok text ∧ Pattern.found source text = .ok true
  | .comparison field operator operand _ =>
    ∃ found, Holding record field found ∧ Rule.compare found operator operand = .ok true
  | .requiredWith _ => False
  | .requiredWithout _ => False

def Raises (closures : Rule.Closures) (record : Fields Value) (error : Error) :
    ConditionalRule → Prop
  | .closure identity _ => closures identity (.map record) = .error error
  | _ => False

/-- A rule that can be attached to a property by what it says about other fields. -/
inductive Stored : ConditionalRule → Prop
  | when {facets changed : Facets} {condition value rules : Value} {rule : ConditionalRule} :
      facets.addWhen condition value rules = .ok changed →
      changed.conditionals = facets.conditionals ++ [rule] → Stored rule
  | whenMatches {facets changed : Facets} {field : String} {source rules : Value}
      {rule : ConditionalRule} :
      facets.addWhenMatches (.text field) source rules = .ok changed →
      changed.conditionals = facets.conditionals ++ [rule] → Stored rule
  | whenCompares {facets changed : Facets} {field operator : String} {operand rules : Value}
      {rule : ConditionalRule} :
      facets.addWhenCompares (.text field) (.text operator) operand rules = .ok changed →
      changed.conditionals = facets.conditionals ++ [rule] → Stored rule

/-- The rule compares a field to a map that spells a pattern or an operator. -/
def Collides : ConditionalRule → Prop
  | .equality _ expected _ => ∃ entries, expected.mapping? = some entries ∧
    (entries.get? (.text "pattern") ≠ none ∨ entries.get? (.text "operator") ≠ none)
  | _ => False

end ConditionalRule

/-- A rule set is of the kind of a rule, adds its tokens, and applies to the same records whatever
closures compute.  It has an answer on every record unless the closure fails, a number has too many
digits to be searched in, or the search for a pattern breaks off. -/
structure RuleSet.Compiles (set : RuleSet) (rule : ConditionalRule) : Prop where
  kind : set.kind = rule.kind
  rules : set.rules = rule.rules
  applies : ∀ closures record,
    set.condition.holds closures record = .ok true ↔ rule.Applies closures record
  failure : ∀ closures record error, set.condition.holds closures record = .error error →
    rule.Raises closures record error ∨ error = .badValue ∨ error = .brokenMatch

namespace Rule.Condition

variable {closures : Closures} {record : Fields Value}

private theorem presentAndEqual_of_ne_null {found : Value} (present : found ≠ .null)
    (expected : Value) :
    presentAndEqual found expected = found.strictlyEquals expected := by
  cases found with
  | null =>
      exact absurd rfl present
  | _ =>
      rfl

theorem isSearchable_iff {value : Value} : isSearchable value = true ↔ Scalar value := by
  constructor
  · intro searchable
    cases value <;> first | constructor | cases searchable
  · rintro (_ | _ | _ | _) <;> rfl

private theorem holds_equality (name : String) (expected : Value) (rules : List String) :
    ∃ answer, (equality (.text name) expected).holds closures record = .ok answer ∧
      (answer = true ↔
        (ConditionalRule.equality (.text name) expected rules).Applies closures record) := by
  rcases lookupField_cases record name with ⟨looked, nothing⟩ | ⟨found, looked, holding⟩
  · refine ⟨false, by simp [holds, looked, presentAndEqual], ?_⟩
    simp [ConditionalRule.Applies, nothing]
  · refine ⟨found.strictlyEquals expected, ?_, ?_⟩
    · simp [holds, looked, presentAndEqual_of_ne_null holding.ne_null]
    · rw [ConditionalRule.Applies, exists_holding_iff holding]

private theorem fieldMatches_iff {name : Name} {expected : Value} :
    fieldMatches record name expected = true ↔ AsExpected record name expected := by
  rcases under?_cases record name with ⟨absent, nothing⟩ | ⟨found, isFound, holding⟩
  · cases expected <;> simp [fieldMatches, absent, AsExpected, nothing, presentAndEqual]
  · have present := holding.ne_null
    cases expected with
    | null =>
        have unexpected : fieldMatches record name .null = false := by
          cases found with
          | null =>
              exact absurd rfl present
          | _ =>
              simp [fieldMatches, isFound]
        rw [unexpected, AsExpected]
        exact ⟨Bool.noConfusion, fun nothing => absurd holding (nothing found)⟩
    | _ =>
        rw [AsExpected, exists_holding_iff holding]
        · simp [fieldMatches, isFound, presentAndEqual_of_ne_null present]
        · intro isNull
          cases isNull

private theorem holds_fields (expected : Fields Value Name) (rules : List String) :
    ∃ answer, (fields expected).holds closures record = .ok answer ∧
      (answer = true ↔ (ConditionalRule.allFields expected rules).Applies closures record) := by
  refine ⟨_, rfl, ?_⟩
  simp only [List.all_eq_true, fieldMatches_iff, ConditionalRule.Applies]

/-- The search for a pattern that can be read fails in one way only. -/
theorem found_eq_error {source : String} {pattern : Pattern}
    (readable : Pattern.ofValue (.text source) = .ok pattern) {text : String} {error : Error}
    (failed : Pattern.found (.text source) text = .error error) : error = .brokenMatch := by
  simp only [Pattern.found, readable, Outcome.ok_bind] at failed
  split at failed
  · cases failed
  · cases failed
    rfl

private theorem writtenText_eq_error {value : Value} {error : Error}
    (failed : value.writtenText = .error error) : error = .badValue := by
  unfold Value.writtenText at failed
  split at failed
  · cases failed
  · cases failed
    rfl

/-- A compiled pattern has an answer where there is a text to search in and the search has one. -/
theorem holds_pattern {source : String} {pattern : Pattern}
    (readable : Pattern.ofValue (.text source) = .ok pattern) (name : String)
    (rules : List String) :
    ((Condition.pattern (.text name) (.text source)).holds closures record = .ok true ↔
        (ConditionalRule.pattern (.text name) (.text source) rules).Applies closures record) ∧
      ∀ error, (Condition.pattern (.text name) (.text source)).holds closures record =
          .error error →
        error = .badValue ∨ error = .brokenMatch := by
  rcases lookupField_cases record name with ⟨looked, nothing⟩ | ⟨found, looked, holding⟩
  · simp [holds, looked, isSearchable, ConditionalRule.Applies, nothing]
  · rw [ConditionalRule.Applies, exists_holding_iff holding, ← isSearchable_iff]
    simp only [holds, looked, Outcome.ok_bind]
    split
    · next searchable =>
        refine ⟨by simp [searchable, Outcome.bind_eq_ok_iff], ?_⟩
        intro error failed
        cases written : found.writtenText with
        | error refusal =>
            rw [written] at failed
            cases failed
            exact Or.inl (writtenText_eq_error written)
        | ok text =>
            rw [written, Outcome.ok_bind] at failed
            exact Or.inr (found_eq_error readable failed)
    · next unsearchable =>
        simp [unsearchable]

private theorem holds_comparison (name operator : String) (operand : Value) (rules : List String) :
    ∃ answer, (comparison (.text name) (.text operator) operand).holds closures record =
        .ok answer ∧
      (answer = true ↔ (ConditionalRule.comparison (.text name) (.text operator) operand
        rules).Applies closures record) := by
  rcases lookupField_cases record name with ⟨looked, nothing⟩ | ⟨found, looked, holding⟩
  · refine ⟨false, by simp [holds, looked], ?_⟩
    simp [ConditionalRule.Applies, nothing]
  · refine ⟨Rule.compareBy found operator operand, ?_, ?_⟩
    · cases found with
      | null =>
          exact absurd rfl holding.ne_null
      | _ =>
          simp [holds, looked, compare]
    · rw [ConditionalRule.Applies, exists_holding_iff holding]
      simp [compare]

end Rule.Condition

namespace RuleSet

private theorem Compiles.of_answers {set : RuleSet} {rule : ConditionalRule}
    (kind : set.kind = rule.kind)
    (rules : set.rules = rule.rules)
    (answers : ∀ closures record, ∃ answer, set.condition.holds closures record = .ok answer ∧
      (answer = true ↔ rule.Applies closures record)) : set.Compiles rule where
  kind := kind
  rules := rules
  applies := by
    intro closures record
    obtain ⟨answer, answered, isRight⟩ := answers closures record
    rw [answered, Except.ok.injEq, isRight]
  failure := by
    intro closures record error failed
    obtain ⟨answer, answered, _⟩ := answers closures record
    rw [answered] at failed
    cases failed

private theorem compiles_closure (identity : Nat) (rules : List String) :
    ∃ set, ofDocument (ConditionalRule.closure identity rules).toDocument = .ok (some set) ∧
      set.Compiles (.closure identity rules) := by
  refine ⟨⟨.closure identity, rules, "closure"⟩, ?_, rfl, rfl, ?_, ?_⟩
  · simp [ofDocument, ConditionalRule.field_toDocument, ConditionalRule.kind,
      ConditionalRule.selector, ConditionalRule.rules, Fields.get?_cons]
  · intro closures record
    simp [Rule.Condition.holds, ConditionalRule.Applies, Outcome.bind_eq_ok_iff]
  · intro closures record error failed
    left
    rcases Outcome.bind_eq_error_iff.mp failed with raised | ⟨answer, _, returned⟩
    · exact raised
    · cases returned

private theorem compiles_allFields (expected : Fields Value Name) (rules : List String) :
    ∃ set, ofDocument (ConditionalRule.allFields expected rules).toDocument = .ok (some set) ∧
      set.Compiles (.allFields expected rules) := by
  refine ⟨⟨.fields expected, rules, "array"⟩, ?_, .of_answers rfl rfl ?_⟩
  · simp [ofDocument, ConditionalRule.field_toDocument, ConditionalRule.kind,
      ConditionalRule.selector, ConditionalRule.rules, Fields.get?_cons]
  · intro closures record
    exact Rule.Condition.holds_fields expected rules

theorem compiles_equality (name : String) (expected : Value) (rules : List String)
    (apart : ¬ (ConditionalRule.equality (.text name) expected rules).Collides) :
    ∃ set, ofDocument (ConditionalRule.equality (.text name) expected rules).toDocument =
        .ok (some set) ∧
      set.Compiles (.equality (.text name) expected rules) := by
  refine ⟨⟨.equality (.text name) expected, rules, "field"⟩, ?_, .of_answers rfl rfl ?_⟩
  · cases isMap : expected.mapping? with
    | none =>
        simp [ofDocument, ConditionalRule.field_toDocument, ConditionalRule.kind,
          ConditionalRule.selector, ConditionalRule.rules, Fields.get?_cons, isMap]
    | some entries =>
        have noPattern : entries.get? (.text "pattern") = none :=
          Decidable.not_not.mp fun there => apart ⟨entries, isMap, Or.inl there⟩
        have noOperator : entries.get? (.text "operator") = none :=
          Decidable.not_not.mp fun there => apart ⟨entries, isMap, Or.inr there⟩
        simp [ofDocument, ConditionalRule.field_toDocument, ConditionalRule.kind,
          ConditionalRule.selector, ConditionalRule.rules, Fields.get?_cons, isMap, noPattern,
          noOperator]
  · intro closures record
    exact Rule.Condition.holds_equality name expected rules

private theorem compiles_pattern {source : String} {pattern : Pattern}
    (readable : Pattern.ofValue (.text source) = .ok pattern) (name : String)
    (rules : List String) :
    ∃ set, ofDocument (ConditionalRule.pattern (.text name) (.text source) rules).toDocument =
        .ok (some set) ∧
      set.Compiles (.pattern (.text name) (.text source) rules) := by
  refine ⟨⟨.pattern (.text name) (.text source), rules, "pattern"⟩, ?_, rfl, rfl, ?_, ?_⟩
  · simp [ofDocument, ConditionalRule.field_toDocument, ConditionalRule.kind,
      ConditionalRule.selector, ConditionalRule.rules, Fields.get?_cons]
  · intro closures record
    exact (Rule.Condition.holds_pattern readable name rules).1
  · intro closures record error failed
    exact Or.inr ((Rule.Condition.holds_pattern readable name rules).2 error failed)

private theorem compiles_comparison (name operator : String) (operand : Value)
    (rules : List String) :
    ∃ set, ofDocument
        (ConditionalRule.comparison (.text name) (.text operator) operand rules).toDocument =
        .ok (some set) ∧
      set.Compiles (.comparison (.text name) (.text operator) operand rules) := by
  refine ⟨⟨.comparison (.text name) (.text operator) operand, rules, "comparison"⟩, ?_,
    .of_answers rfl rfl ?_⟩
  · simp [ofDocument, ConditionalRule.field_toDocument, ConditionalRule.kind,
      ConditionalRule.selector, ConditionalRule.rules, Fields.get?_cons]
  · intro closures record
    exact Rule.Condition.holds_comparison name operator operand rules

end RuleSet

namespace ConditionalRule

private theorem eq_of_attached {facets : Facets} {rule attached : ConditionalRule}
    (same : (facets.addConditional attached).conditionals = facets.conditionals ++ [rule]) :
    attached = rule := by
  have singletons : [attached] = [rule] := List.append_cancel_left same
  exact List.singleton_inj.mp singletons

/-- A rule that can be attached compiles to a rule set of its own kind, with its own tokens, which
applies to the records that the rule itself applies to. -/
theorem Stored.compiles_asDeclared {rule : ConditionalRule} (stored : rule.Stored)
    (apart : ¬ rule.Collides) :
    ∃ set, RuleSet.ofDocument rule.toDocument = .ok (some set) ∧ set.Compiles rule := by
  cases stored with
  | @when facets changed condition value given rule added attached =>
      unfold Facets.addWhen at added
      split at added
      · obtain ⟨tokens, _, isAdded⟩ := Outcome.bind_eq_ok_iff.mp added
        cases isAdded
        cases eq_of_attached attached
        exact RuleSet.compiles_closure _ tokens
      · obtain ⟨tokens, _, isAdded⟩ := Outcome.bind_eq_ok_iff.mp added
        cases isAdded
        cases eq_of_attached attached
        exact RuleSet.compiles_equality _ value tokens apart
      · split at added
        · obtain ⟨tokens, _, isAdded⟩ := Outcome.bind_eq_ok_iff.mp added
          cases isAdded
          cases eq_of_attached attached
          exact RuleSet.compiles_allFields _ tokens
        · cases added
  | @whenMatches facets changed name source given rule added attached =>
      obtain ⟨pattern, isRead, afterRead⟩ := Outcome.bind_eq_ok_iff.mp added
      obtain ⟨tokens, _, isAdded⟩ := Outcome.bind_eq_ok_iff.mp afterRead
      cases isAdded
      cases eq_of_attached attached
      cases source with
      | text source =>
          exact RuleSet.compiles_pattern isRead name tokens
      | _ =>
          cases isRead
  | @whenCompares facets changed name operator operand given rule added attached =>
      obtain ⟨tokens, _, isAdded⟩ := Outcome.bind_eq_ok_iff.mp added
      cases isAdded
      cases eq_of_attached attached
      exact RuleSet.compiles_comparison name operator operand tokens

private theorem stored_equality (facets : Facets) (name : String) (expected : Value)
    (tokens : List String) : (equality (.text name) expected tokens).Stored := by
  have added : facets.addWhen (.text name) expected (tokenList tokens) =
      .ok (facets.addConditional (.equality (.text name) expected tokens)) := by
    simp [Facets.addWhen]
  exact .when added rfl

private theorem stored_comparison (facets : Facets) (name operator : String) (operand : Value)
    (tokens : List String) :
    (comparison (.text name) (.text operator) operand tokens).Stored := by
  have added :
      facets.addWhenCompares (.text name) (.text operator) operand (tokenList tokens) =
        .ok (facets.addConditional (.comparison (.text name) (.text operator) operand tokens)) := by
    simp [Facets.addWhenCompares]
  exact .whenCompares added rfl

/-- The facets of a text property that nothing has been attached to. -/
def width : Facets where
  name := .text "width"
  declared := .single "string"

/-- A field that is compared to a map in which only a nested map has a pattern. -/
def unitEquality : ConditionalRule :=
  .equality (.text "size") (.map [("unit", .map [("pattern", .text "m")])]) ["required"]

theorem compiles_asDeclared_unitEquality :
    unitEquality.Stored ∧ ¬ unitEquality.Collides ∧
      ∃ set, RuleSet.ofDocument unitEquality.toDocument = .ok (some set) ∧
        set.Compiles unitEquality := by
  have stored : unitEquality.Stored := stored_equality width "size" _ _
  have apart : ¬ unitEquality.Collides := by
    simp [unitEquality, Collides, Fields.get?_cons]
  exact ⟨stored, apart, stored.compiles_asDeclared apart⟩

/-- A field that is compared to a map with a pattern. -/
def patternEquality : ConditionalRule :=
  .equality (.text "code") (.map [("pattern", .text "x")]) ["required"]

/-- A field that has to differ from one. -/
def otherThanOne : ConditionalRule :=
  .comparison (.text "count") (.text "!=") (.int 1) ["required"]

/-- Two rules do not compile as they read.  A field that is compared to a map with a pattern is
taken for a field that has to match it, and a comparison does not apply to a field without a value,
though that value is there and compares to the operand. -/
theorem patternEquality_notAsDeclared :
    let closures : Rule.Closures := fun _ _ => .ok .null
    (patternEquality.Stored ∧
      patternEquality.Applies closures [("code", .map [("pattern", .text "x")])] ∧
      ∃ set, RuleSet.ofDocument patternEquality.toDocument = .ok (some set) ∧
        set.kind = "pattern" ∧
        set.condition.holds closures [("code", .map [("pattern", .text "x")])] = .ok false) ∧
    (otherThanOne.Stored ∧ Rule.compare .null (.text "!=") (.int 1) = .ok true ∧
      ∃ set, RuleSet.ofDocument otherThanOne.toDocument = .ok (some set) ∧
        set.condition.holds closures [("count", .null)] = .ok false) := by
  intro closures
  refine ⟨⟨stored_equality width _ _ _, ?_, ?_⟩, stored_comparison width _ _ _ _, ?_, ?_⟩
  · refine ⟨.map [("pattern", .text "x")], ⟨"code", rfl, rfl, nofun⟩, ?_⟩
    simp [Value.strictlyEquals, Value.sameType, Value.equals, Value.agreesWith]
  · refine ⟨⟨.pattern (.text "code") (.text "x"), ["required"], "pattern"⟩, rfl, rfl, ?_⟩
    rfl
  · simp [Rule.compare, Rule.compareBy, Rule.relation?, Value.relate?, Value.equals,
      Value.numeral?]
  · exact ⟨⟨.comparison (.text "count") (.text "!=") (.int 1), ["required"], "comparison"⟩, rfl,
      rfl⟩

end ConditionalRule
end RecordSchema
