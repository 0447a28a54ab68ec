import RecordSchema.Proofs.Property.Tokens
import RecordSchema.Proofs.Rule.Compilation
import RecordSchema.Proofs.Rule.Resolution
import RecordSchema.Proofs.Schema.Rows

/-!
# Rules about a field and its value

A rule for when a field equals a value is kept twice: as a conditional rule, which compares the
field with the value strictly, and as a token, which compares it with the text of the value.  A
text, an integer or a truth value is found again in its text.  So where the conditional rule
applies, the token is met exactly if the rule is that it adds.
-/

namespace RecordSchema

/-! ## Values and their texts -/

namespace Value

/-- A text, an integer or a truth value. -/
inductive Exact : Value → Prop
  | text (text : String) : Exact (.text text)
  | int (number : Int) : Exact (.int number)
  | bool (flag : Bool) : Exact (.bool flag)

private theorem Exact.eq_of_strictlyEquals {found expected : Value} (exact : expected.Exact)
    (same : found.strictlyEquals expected = true) : found = expected := by
  obtain ⟨sameType, equal⟩ := Bool.and_eq_true_iff.mp same
  cases exact with
  | text text =>
      exact eq_text_of_agrees_text (by simp [agrees, equal])
  | int number =>
      cases found with
      | int other =>
          simpa [equals, numeral?, Numeral.equals, Numeral.compare?] using equal
      | bool other =>
          simp [Value.sameType, typeName] at sameType
      | double other =>
          simp [Value.sameType, typeName] at sameType
      | _ =>
          simp [equals, numeral?] at equal
  | bool flag =>
      cases found with
      | bool other =>
          cases flag <;> cases other <;>
            simp [equals, numeral?, Numeral.equals, Numeral.compare?] at equal ⊢
      | int other =>
          simp [Value.sameType, typeName] at sameType
      | double other =>
          simp [Value.sameType, typeName] at sameType
      | _ =>
          simp [equals, numeral?] at equal

end Value

namespace Check

variable {call : Call}

private theorem isCandidate_writtenText {value : Value} (exact : value.Exact) {rendered : String}
    (written : value.writtenText = .ok rendered) : isCandidate value rendered = .ok true := by
  cases exact with
  | text text =>
      simp [isCandidate, written]
  | int number =>
      simp [isCandidate, written]
  | bool flag =>
      cases flag with
      | true =>
          cases written
          rfl
      | false =>
          cases written
          rfl

private theorem otherMatches_pair {field rendered : String} {value : Value} (exact : value.Exact)
    (written : value.writtenText = .ok rendered) (held : call.other field = value)
    (rule : String) :
    otherMatches { call with parameters := [field, rendered] } rule = .ok true := by
  have candidate := isCandidate_writtenText exact written
  have sameField : { call with parameters := [field, rendered] }.other field = value := held
  simp [otherMatches, Call.needed, matchesAny, sameField, candidate]

private theorem requiredIf_of_otherMatches (matching : otherMatches call "required_if" = .ok true) :
    requiredIf call = .ok call.value.isPresent := by
  simp [requiredIf, matching]

private theorem prohibitedIf_of_otherMatches
    (matching : otherMatches call "prohibited_if" = .ok true) :
    prohibitedIf call = .ok (!call.value.isPresent) := by
  simp [prohibitedIf, matching]

end Check

/-! ## Rules that are written twice -/

namespace Engine

def Answers (engine : Engine) (call : Call) (runs : Bool) (rule : Rule.Invocation) (met : Bool) :
    Prop :=
  engine.Asks runs rule ∧ ∃ check, engine.checks.get? rule.name = some check ∧
    check { call with parameters := rule.parameters } = .ok met

def AnswersAlike (engine : Engine) (record : Fields Value) (field : Name) (tokens : List String)
    (left right : String) : Prop :=
  let call := callOn record field tokens
  let runs := runsOn record field call.ruleNames
  ∃ met, engine.Answers call runs (Rule.parse left) met ∧
    engine.Answers call runs (Rule.parse right) met

end Engine

/-- The schema of a property has a token and what a conditional rule compiles to.  Wherever that
applies, the field has the rules that it adds, and the token is answered like each of them. -/
structure Property.Covers (property : Property) (name : Name) (stored : ConditionalRule)
    (token : String) (set : RuleSet) : Prop where
  registered : ∃ schema, Schema.add {} property = .done schema ∧
    schema.rules = [(name, [.token token, .ruleSet set])]
  compiles : set.Compiles stored
  answers : ∀ closures record, set.condition.holds closures record = .ok true →
    RuleEntry.resolve closures record [.token token, .ruleSet set] =
      .ok (token :: stored.rules) ∧
    ∀ added ∈ stored.rules, ∀ strict stopsEarly,
      Engine.AnswersAlike { strict, stopsEarly, closures } record name (token :: stored.rules)
        token added

/-- A token that is written for a rule, and the rule that is added: both are looked at on every
field, and where the token matches its check is that of the rule. -/
structure Rule.Paired (tokenName ruleName : String) : Prop where
  noColon : ':' ∉ tokenName.toList
  trimmed : Text.trim tokenName.toList = tokenName.toList
  notRegex : tokenName ≠ "regex"
  bare : Rule.parse ruleName = ⟨ruleName, []⟩
  asked : ∀ name ∈ [tokenName, ruleName], name ∉ Engine.markers ∧ name ∈ ({} : Engine).implicit
  checked : ∃ conditional added, Check.standard.get? tokenName = some conditional ∧
    Check.standard.get? ruleName = some added ∧
    ∀ call, Check.otherMatches call tokenName = .ok true →
      ∃ met, conditional call = .ok met ∧ added { call with parameters := [] } = .ok met

private theorem Rule.paired_required : Rule.Paired "required_if" "required" where
  noColon := by decide
  trimmed := by decide
  notRegex := by decide
  bare := by decide
  asked := by decide
  checked := ⟨Check.requiredIf, Check.required, rfl, rfl,
    fun _ matching => ⟨_, Check.requiredIf_of_otherMatches matching, rfl⟩⟩

private theorem Rule.paired_prohibited : Rule.Paired "prohibited_if" "prohibited" where
  noColon := by decide
  trimmed := by decide
  notRegex := by decide
  bare := by decide
  asked := by decide
  checked := ⟨Check.prohibitedIf, Check.prohibited, rfl, rfl,
    fun _ matching => ⟨_, Check.prohibitedIf_of_otherMatches matching, rfl⟩⟩

/-- A rule set that applies adds its rules to a token, unless the token is one of them. -/
theorem RuleEntry.resolve_token_ruleSet {closures : Rule.Closures} {record : Fields Value}
    {token rule : String} {set : RuleSet} (adds : set.rules = [rule])
    (holds : set.condition.holds closures record = .ok true) (differs : rule ≠ token) :
    resolve closures record [.token token, .ruleSet set] = .ok [token, rule] := by
  have distinct : Text.distinct [token, rule] = [token, rule] := by
    simp [Text.distinct, differs]
  rw [← distinct]
  refine resolve_of_contributions [token, rule] ?_
  simp [contributions, contribution, RuleSet.resolve, holds, adds]

namespace Engine

variable {tokenName ruleName field rendered : String} {value : Value} {record : Fields Value}

/-- Where the field has the value, the token is answered like the rule, on every field and whatever
other tokens there are. -/
theorem answersAlike_of_paired (paired : Rule.Paired tokenName ruleName) (exact : value.Exact)
    (written : value.writtenText = .ok rendered) (held : record.get? field = some value)
    {token : String} (parsed : Rule.parse token = ⟨tokenName, [field, rendered]⟩) (name : Name)
    (tokens : List String) (closures : Rule.Closures) (strict stopsEarly : Bool) :
    AnswersAlike { strict, stopsEarly, closures } record name tokens token ruleName := by
  obtain ⟨conditional, added, isConditional, isAdded, sameAnswer⟩ := paired.checked
  have asked : ∀ invoked ∈ [tokenName, ruleName], invoked ∉ markers ∧
      invoked ∈ ({ strict, stopsEarly, closures } : Engine).implicit := paired.asked
  have hasValue : (callOn record name tokens).other field = value := by
    simp [Call.other, callOn, held]
  have matching : Check.otherMatches
      { callOn record name tokens with parameters := [field, rendered] } tokenName = .ok true :=
    Check.otherMatches_pair exact written hasValue tokenName
  obtain ⟨met, tokenAnswer, ruleAnswer⟩ := sameAnswer _ matching
  refine ⟨met, ⟨?_, conditional, ?_, ?_⟩, ⟨?_, added, ?_, ?_⟩⟩
  · rw [parsed]
    exact ⟨(asked tokenName (by simp)).1, .inr (asked tokenName (by simp)).2⟩
  · rw [parsed]
    exact isConditional
  · rw [parsed]
    exact tokenAnswer
  · rw [paired.bare]
    exact ⟨(asked ruleName (by simp)).1, .inr (asked ruleName (by simp)).2⟩
  · rw [paired.bare]
    exact isAdded
  · rw [paired.bare]
    exact ruleAnswer

end Engine

/-! ## What the schema of a property holds -/

namespace Property

variable {tokenName ruleName field name : String} {value : Value} {after : Facets}

/-- The token of a paired rule is read as it was written, if the field has no comma in its name. -/
theorem parse_pairToken (paired : Rule.Paired tokenName ruleName) (noComma : ',' ∉ field.toList)
    {rendered : String} (clean : ',' ∉ rendered.toList) :
    Rule.parse (Rule.Invocation.token ⟨tokenName, [field, rendered]⟩) =
      ⟨tokenName, [field, rendered]⟩ := by
  have separable : Rule.Separable [field, rendered] :=
    (Facets.Edit.separable_pair_iff clean).mpr (by simpa using noComma)
  have parsed := Rule.parse_token_iff paired.noColon paired.trimmed paired.notRegex
    [field, rendered]
  exact parsed.2.mpr separable

/-- Registering a text with a single rule about a field and its value. -/
theorem add_fieldValueRule {rendered : String} {set : RuleSet}
    (ended : after = ((plain "string" name).facets.addConditional
      (.equality (.text field) value [ruleName])).addToken
        (Rule.Invocation.token ⟨tokenName, [field, rendered]⟩))
    (compiled : RuleSet.ofDocument
      (ConditionalRule.equality (.text field) value [ruleName]).toDocument = .ok (some set)) :
    ∃ schema, Schema.add {} (leaf after) = .done schema ∧
      schema.rules = [(.text name,
        [.token (Rule.Invocation.token ⟨tokenName, [field, rendered]⟩), .ruleSet set])] := by
  have named : Name.ofValue (leaf after).facets.name = .ok (.text name) := by
    subst ended
    rfl
  have noAttributes : (leaf after).facets.attributes = [] := by
    subst ended
    rfl
  have distinct : (leaf after).facets.attributes.Distinct := by
    rw [noAttributes]
    exact Fields.distinct_nil
  have own : (leaf after).facets.OwnKeys := by
    rw [Facets.OwnKeys, noAttributes]
    exact List.forall_mem_nil _
  have conditionals : (leaf after).facets.conditionals =
      [.equality (.text field) value [ruleName]] := by
    subst ended
    rfl
  have tokens : (leaf after).facets.rules =
      [Rule.Invocation.token ⟨tokenName, [field, rendered]⟩] := by
    subst ended
    rfl
  have documents : Compiled.ofProperty (leaf after).toDocument = .done [.ruleSet set] := by
    rw [Compiled.ofProperty_eq distinct own, conditionals]
    simp [Compiled.ofDocuments, Compiled.ofDocument, compiled, Change.lift, Change.done]
  refine ⟨_, Schema.add_eq_done {} named distinct own, ?_⟩
  simp only [ruleEntries, tokens, documents]
  rfl

/-- An edit of the facets of a property without anything nested in it. -/
theorem Edit.apply_facets_eq_done {edit : Facets.Edit} {property : Property} {tag : String}
    (done : apply (plain tag name) (.facets edit) = .done property) :
    ∃ after, edit.apply (plain tag name).facets = .done after ∧ property = leaf after := by
  refine ⟨(edit.apply (plain tag name).facets).state, ?_, ?_⟩
  · have noFailure : (edit.apply (plain tag name).facets).failure = none :=
      congrArg Change.failure done
    exact congrArg (Change.mk _) noFailure
  · exact (congrArg Change.state done).symm

private theorem covers_of_paired (paired : Rule.Paired tokenName ruleName) (exact : value.Exact)
    (noComma : ',' ∉ field.toList)
    (added : (plain "string" name).facets.addFieldValueRule tokenName ruleName (.text field)
      value = .ok after) :
    ∃ token set, (Rule.parse token).name = tokenName ∧
      (leaf after).Covers (.text name) (.equality (.text field) value [ruleName]) token set := by
  obtain ⟨rendered, written, clean, ended⟩ := Facets.addFieldValueRule_eq_ok added
  have apart : ¬ (ConditionalRule.equality (.text field) value [ruleName]).Collides := by
    rintro ⟨entries, isMap, _⟩
    cases exact <;> cases isMap
  obtain ⟨set, compiled, compiles⟩ := RuleSet.compiles_equality field value [ruleName] apart
  have parsed := parse_pairToken paired noComma clean
  have differs : ruleName ≠ Rule.Invocation.token ⟨tokenName, [field, rendered]⟩ := by
    intro same
    rw [← same, paired.bare] at parsed
    cases parsed
  refine ⟨_, set, by rw [parsed], add_fieldValueRule ended compiled, compiles, ?_⟩
  intro closures record holds
  refine ⟨RuleEntry.resolve_token_ruleSet compiles.rules holds differs, ?_⟩
  intro rule isAdded
  cases List.mem_singleton.mp isAdded
  obtain ⟨found, ⟨key, isKey, held, _⟩, same⟩ := (compiles.applies closures record).mp holds
  cases isKey
  cases exact.eq_of_strictlyEquals same
  exact Engine.answersAlike_of_paired paired exact written held parsed (.text name) _ closures

/-- A text that is required, or prohibited, when a field has a certain text, integer or truth value:
wherever the rule set in its schema applies, the token is met exactly if the rule is that the set
adds. -/
theorem token_covers_rule (exact : value.Exact) (noComma : ',' ∉ field.toList) (name : String) :
    (∀ property, Edit.apply (plain "string" name) (.facets (.addRequiredIf (.text field) value)) =
        .done property →
      ∃ token set, (Rule.parse token).name = "required_if" ∧
        property.Covers (.text name) (.equality (.text field) value ["required"]) token set) ∧
    (∀ property, Edit.apply (plain "string" name)
        (.facets (.addProhibitedIf (.text field) value)) = .done property →
      ∃ token set, (Rule.parse token).name = "prohibited_if" ∧
        property.Covers (.text name) (.equality (.text field) value ["prohibited"]) token set) := by
  constructor
  · intro property done
    obtain ⟨after, added, rfl⟩ := Edit.apply_facets_eq_done done
    exact covers_of_paired Rule.paired_required exact noComma
      (Change.atomic_eq_done_iff.mp added)
  · intro property done
    obtain ⟨after, added, rfl⟩ := Edit.apply_facets_eq_done done
    exact covers_of_paired Rule.paired_prohibited exact noComma
      (Change.atomic_eq_done_iff.mp added)

/-- The number of a business is required of one, and the rule applies to a business without it. -/
theorem token_covers_rule_business :
    (Value.bool true).Exact ∧ ',' ∉ "business".toList ∧
      ∃ property, Edit.apply (plain "string" "vat")
          (.facets (.addRequiredIf (.text "business") (.bool true))) = .done property ∧
        ∃ token set, property.Covers (.text "vat")
            (.equality (.text "business") (.bool true) ["required"]) token set ∧
          ∀ closures, set.condition.holds closures [("business", .bool true)] = .ok true := by
  have exact : (Value.bool true).Exact := .bool true
  have noComma : ',' ∉ "business".toList := by decide
  refine ⟨exact, noComma, _, rfl, ?_⟩
  obtain ⟨token, set, _, covers⟩ := (token_covers_rule exact noComma "vat").1 _ rfl
  refine ⟨token, set, covers, fun closures => (covers.compiles.applies closures _).mpr ?_⟩
  refine ⟨.bool true, ⟨"business", rfl, rfl, nofun⟩, ?_⟩
  simp

end Property
end RecordSchema
