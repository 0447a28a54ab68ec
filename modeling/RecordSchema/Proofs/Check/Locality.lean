import Mathlib
import RecordSchema.Proofs.Check.RuleNames

/-!
# What checking looks at

A table mentions the fields that its rows are about, those that its conditions select, and those
that its rules about other fields name.  Checking looks at nothing else in a record: where two
records hold the same under these names, the same is found or the same error is in the way.
-/

namespace RecordSchema

namespace Fields

variable {record other : Fields Value} {names more : List String}

/-- Two records hold the same under each of these names, or both hold nothing there. -/
def AgreeOn (names : List String) (record other : Fields Value) : Prop :=
  ∀ name ∈ names, record.get? name = other.get? name

private theorem agreeOn_append :
    AgreeOn (names ++ more) record other ↔
      AgreeOn names record other ∧ AgreeOn more record other :=
  List.forall_mem_append

private theorem agreeOn_flatMap {α : Type} {items : List α} {namesOf : α → List String} :
    AgreeOn (items.flatMap namesOf) record other ↔
      ∀ item ∈ items, AgreeOn (namesOf item) record other :=
  List.forall_mem_flatMap

theorem AgreeOn.under? {field : Name} (agree : AgreeOn field.text?.toList record other) :
    record.under? field = other.under? field := by
  rw [Fields.under?, Fields.under?]
  cases isText : field.text? with
  | none =>
      rfl
  | some name =>
      exact agree name (by simp [isText])

theorem AgreeOn.lookupField {name : Value} (agree : AgreeOn name.text?.toList record other) :
    Value.lookupField record name = Value.lookupField other name := by
  cases name with
  | text key =>
      have same := agree key (by simp [Value.text?])
      simp only [Value.lookupField, same]
  | _ =>
      rfl

end Fields

open Fields (AgreeOn)

variable {record other : Fields Value}

/-! ## Conditions -/

namespace Rule.Condition

/-- Whether a condition is computed by a closure, which may look at any field. -/
def isClosure : Condition → Bool
  | .closure _ => true
  | _ => false

/-- The fields that a condition selects, unless it is computed by a closure. -/
def selectors : Condition → List String
  | .closure _ => []
  | .fields expected => expected.names.filterMap Name.text?
  | .pattern field _ => field.text?.toList
  | .comparison field _ _ => field.text?.toList
  | .equality field _ => field.text?.toList

private theorem holds_of_agree {condition : Condition} (declared : condition.isClosure = false)
    (agree : AgreeOn condition.selectors record other) :
    condition.holds closures record = condition.holds closures other := by
  cases condition with
  | closure identity =>
      cases declared
  | fields expected =>
      have same : ∀ entry ∈ expected,
          fieldMatches record entry.1 entry.2 = fieldMatches other entry.1 entry.2 := by
        intro entry member
        have found : record.under? entry.1 = other.under? entry.1 := by
          rw [Fields.under?, Fields.under?]
          cases isText : entry.1.text? with
          | none =>
              rfl
          | some text =>
              exact agree text
                (List.mem_filterMap.mpr ⟨entry.1, List.mem_map_of_mem member, isText⟩)
        simp only [fieldMatches, found]
      rw [holds, holds, Except.ok.injEq, Bool.eq_iff_iff, List.all_eq_true, List.all_eq_true]
      exact forall₂_congr fun entry member => by rw [same entry member]
  | pattern field source =>
      rw [holds, holds, agree.lookupField]
  | comparison field operator operand =>
      rw [holds, holds, agree.lookupField]
  | equality field expected =>
      rw [holds, holds, agree.lookupField]

end Rule.Condition

/-! ## Entries of a table -/

namespace RuleEntry

/-- The condition of an entry is not computed by a closure, if it has one. -/
def IsDeclared : RuleEntry → Prop
  | .ruleSet set => set.condition.isClosure = false
  | _ => True

/-- The fields that the condition of an entry selects. -/
def selectors : RuleEntry → List String
  | .ruleSet set => set.condition.selectors
  | _ => []

def tokens : RuleEntry → List String
  | .token text => [text]
  | .stray value => value.text?.toList
  | .ruleSet set => set.rules

private theorem contribution_of_agree {entry : RuleEntry} (declared : entry.IsDeclared)
    (agree : AgreeOn entry.selectors record other) :
    entry.contribution closures record = entry.contribution closures other := by
  cases entry with
  | ruleSet set =>
      have same : set.condition.holds closures record = set.condition.holds closures other :=
        Rule.Condition.holds_of_agree declared agree
      rw [contribution, contribution, RuleSet.resolve, RuleSet.resolve, same]
  | _ =>
      rfl

/-- What applies to a field depends on the fields that its conditions select. -/
theorem resolve_of_agree {entries : List RuleEntry}
    (declared : ∀ entry ∈ entries, entry.IsDeclared)
    (agree : ∀ entry ∈ entries, AgreeOn entry.selectors record other) :
    resolve closures record entries = resolve closures other entries := by
  have same : contributions closures record entries = contributions closures other entries := by
    induction entries with
    | nil =>
        rfl
    | cons entry rest inductionHypothesis =>
        obtain ⟨declaredHere, declaredRest⟩ := List.forall_mem_cons.mp declared
        obtain ⟨agreeHere, agreeRest⟩ := List.forall_mem_cons.mp agree
        rw [contributions, contributions, contribution_of_agree declaredHere agreeHere,
          inductionHypothesis declaredRest agreeRest]
  rw [resolve, resolve, resolveValues, resolveValues, same]

theorem mem_tokens_of_contribution {entry : RuleEntry} {values : List Value}
    (contributed : entry.contribution closures record = .ok values) {token : String}
    (member : .text token ∈ values) : token ∈ entry.tokens := by
  cases entry with
  | token text =>
      cases contributed
      simpa [tokens] using member
  | stray value =>
      cases contributed
      cases List.mem_singleton.mp member
      exact List.mem_cons_self
  | ruleSet set =>
      obtain ⟨added, resolved, isAdded⟩ := Outcome.bind_eq_ok_iff.mp contributed
      obtain ⟨holds, _, chosen⟩ := Outcome.bind_eq_ok_iff.mp resolved
      cases isAdded
      have isListed : token ∈ added := by
        simpa using member
      cases holds with
      | true =>
          cases chosen
          exact isListed
      | false =>
          cases chosen
          cases isListed

/-- What applies to a field comes from one of its entries. -/
theorem mem_tokens_of_resolve {entries : List RuleEntry} {applying : List String}
    (resolved : resolve closures record entries = .ok applying) {token : String}
    (member : token ∈ applying) : ∃ entry ∈ entries, token ∈ entry.tokens := by
  obtain ⟨values, collected, areDistinct⟩ := resolve_eq_ok resolved
  have isValue : Value.text token ∈ values := by
    apply @Text.mem_of_mem_distinct Value ⟨Value.agrees⟩
    rw [areDistinct]
    exact List.mem_map_of_mem member
  clear resolved areDistinct member
  induction entries generalizing values with
  | nil =>
      cases collected
      cases isValue
  | cons entry rest inductionHypothesis =>
      obtain ⟨first, isFirst, afterFirst⟩ := Outcome.bind_eq_ok_iff.mp collected
      obtain ⟨others, areOthers, isWhole⟩ := Outcome.bind_eq_ok_iff.mp afterFirst
      cases isWhole
      rcases List.mem_append.mp isValue with here | later
      · exact ⟨entry, List.mem_cons_self, mem_tokens_of_contribution isFirst here⟩
      · obtain ⟨source, isSource, isToken⟩ := inductionHypothesis others areOthers later
        exact ⟨source, List.mem_cons_of_mem _ isSource, isToken⟩

end RuleEntry

/-! ## Checks -/

def Rule.Invocation.siblings (rule : Rule.Invocation) : List String :=
  if rule.name ∈ ["required_with", "required_without"] then rule.parameters
  else if rule.name ∈ ["required_if", "prohibited_if"] then rule.parameters.take 1
  else []

namespace Check

variable {call : Call}

private theorem other_of_agree {names : List String} (agree : AgreeOn names call.record other) :
    ∀ name ∈ names, Call.other { call with record := other } name = call.other name := by
  intro name member
  rw [Call.other, Call.other, agree name member]

private theorem any_other_of_agree {names : List String} (agree : AgreeOn names call.record other)
    (feature : Value → Bool) :
    (names.any fun name => feature (Call.other { call with record := other } name)) =
      names.any fun name => feature (call.other name) := by
  have same := other_of_agree agree
  rw [Bool.eq_iff_iff, List.any_eq_true, List.any_eq_true]
  exact exists_congr fun name => and_congr_right fun member => by rw [same name member]

private theorem requiredWith_of_agree (agree : AgreeOn call.parameters call.record other) :
    requiredWith { call with record := other } = requiredWith call := by
  have sameAny := any_other_of_agree agree Value.isPresent
  rw [requiredWith, requiredWith, sameAny]

private theorem requiredWithout_of_agree (agree : AgreeOn call.parameters call.record other) :
    requiredWithout { call with record := other } = requiredWithout call := by
  have sameAny := any_other_of_agree agree fun value => !value.isPresent
  rw [requiredWithout, requiredWithout, sameAny]

theorem otherMatches_of_agree (agree : AgreeOn (call.parameters.take 1) call.record other)
    (rule : String) :
    otherMatches { call with record := other } rule = otherMatches call rule := by
  have sameNeeded : Call.needed { call with record := other } rule 2 = call.needed rule 2 := rfl
  rw [otherMatches, otherMatches, sameNeeded]
  by_cases enough : 2 ≤ call.parameters.length
  · rw [needed_eq_ok enough, Outcome.ok_bind, Outcome.ok_bind]
    cases given : call.parameters with
    | nil =>
        rfl
    | cons field candidates =>
        have same := agree field (by simp [given])
        simp only [Call.other, same]
  · have missing : call.needed rule 2 = .error (.parametersMissing rule 2) := by
      rw [Call.needed, if_pos (Nat.not_le.mp enough)]
    rw [missing]
    rfl

/-- A standard check looks at the value of its field and at the other fields that its rule names. -/
theorem standard_of_agree {rule : Rule.Invocation} {check : Check}
    (known : standard.get? rule.name = some check) (given : call.parameters = rule.parameters)
    (agree : AgreeOn rule.siblings call.record other) :
    check { call with record := other } = check call := by
  obtain ⟨name, parameters⟩ := rule
  by_cases isDependent : name ∈ ["required_with", "required_without", "required_if",
      "prohibited_if"]
  · cases given
    simp only [List.mem_cons, List.not_mem_nil, or_false] at isDependent
    rcases isDependent with rfl | rfl | rfl | rfl
    · cases known
      exact requiredWith_of_agree agree
    · cases known
      exact requiredWithout_of_agree agree
    · cases known
      rw [requiredIf, requiredIf, otherMatches_of_agree agree]
    · cases known
      rw [prohibitedIf, prohibitedIf, otherMatches_of_agree agree]
  · have others : ∀ entry ∈ standard.filter (fun entry => !(["required_with", "required_without",
        "required_if", "prohibited_if"].contains entry.1)),
        entry.2 { call with record := other } = entry.2 call := by
      have listed : oneOf { call with record := other } = oneOf call := oneOf_congr rfl rfl
      have unlisted : notOneOf { call with record := other } = notOneOf call :=
        notOneOf_congr rfl rfl
      have remaining : standard.filter (fun entry => !(["required_with", "required_without",
          "required_if", "prohibited_if"].contains entry.1)) =
          [("required", required), ("prohibited", prohibited), ("string", string),
           ("numeric", numeric), ("integer", integer), ("boolean", boolean), ("array", array),
           ("email", email), ("min", min), ("max", max), ("between", between),
           ("digits", digits), ("date", date), ("alpha", alpha), ("alpha_num", alphaNum),
           ("in", oneOf), ("not_in", notOneOf), ("regex", regex), ("url", url),
           ("uuid", uuid)] := rfl
      simp only [remaining, List.forall_mem_cons, listed, unlisted, true_and]
      exact ⟨rfl, rfl, rfl, rfl, rfl, rfl, rfl, rfl, rfl, rfl, rfl, rfl, rfl, rfl, rfl, rfl, rfl,
        rfl, List.forall_mem_nil _⟩
    obtain ⟨key, same, member⟩ := Fields.mem_of_get?_eq_some known
    have isKey : name = key := by
      simpa using same
    refine others (key, check) (List.mem_filter.mpr ⟨member, ?_⟩)
    simpa [← isKey] using isDependent

end Check

namespace Engine

variable {engine : Engine} {wording : Message.Wording} {call : Call} {runs : Bool}

/-- The engine has the standard check for the rule of a token, or none where there is none. -/
def ChecksByStandard (engine : Engine) (token : String) : Prop :=
  engine.checks.get? (Rule.parse token).name = Check.standard.get? (Rule.parse token).name

/-! ## Walks -/

private theorem verdict_of_agree {rule : Rule.Invocation}
    (builtIn : engine.checks.get? rule.name = Check.standard.get? rule.name)
    (agree : AgreeOn rule.siblings call.record other) :
    engine.verdict wording { call with record := other } runs rule =
      engine.verdict wording call runs rule := by
  rw [verdict, verdict, builtIn]
  cases known : Check.standard.get? rule.name with
  | none =>
      rfl
  | some check =>
      have answer := @Check.standard_of_agree other { call with parameters := rule.parameters }
        rule check known rfl agree
      have message : wording.message engine.templates
          { call with parameters := rule.parameters, record := other } rule.name =
            wording.message engine.templates { call with parameters := rule.parameters }
              rule.name := rfl
      simp only [answer, message]

/-- A walk through rules looks at the other fields that they name. -/
theorem walk_of_agree {rules : List Rule.Invocation}
    (builtIn : ∀ rule ∈ rules, engine.checks.get? rule.name = Check.standard.get? rule.name)
    (agree : ∀ rule ∈ rules, AgreeOn rule.siblings call.record other) :
    engine.walk wording { call with record := other } runs rules =
      engine.walk wording call runs rules := by
  induction rules with
  | nil =>
      rfl
  | cons rule rest inductionHypothesis =>
      obtain ⟨builtInHere, builtInRest⟩ := List.forall_mem_cons.mp builtIn
      obtain ⟨agreeHere, agreeRest⟩ := List.forall_mem_cons.mp agree
      rw [walk_cons, walk_cons, verdict_of_agree builtInHere agreeHere,
        inductionHypothesis builtInRest agreeRest]

private theorem checkField_of_agree {field : Name} {tokens : List String}
    (builtIn : ∀ token ∈ tokens, engine.ChecksByStandard token)
    (own : record.under? field = other.under? field)
    (agree : ∀ token ∈ tokens, AgreeOn (Rule.parse token).siblings record other) :
    engine.checkField wording record field tokens =
      engine.checkField wording other field tokens := by
  have sameRuns (names : List String) : runsOn record field names = runsOn other field names := by
    rw [runsOn, runsOn, own]
  calc engine.checkField wording record field tokens
    _ = engine.walk wording { callOn record field tokens with record := other }
          (runsOn record field (callOn record field tokens).ruleNames) (tokens.map Rule.parse) :=
        (walk_of_agree (List.forall_mem_map.mpr builtIn) (List.forall_mem_map.mpr agree)).symm
    _ = engine.checkField wording other field tokens := by
        rw [checkField, callOn, own, sameRuns]

end Engine

/-! ## Tables -/

/-- The other fields that an entry mentions: those that its condition selects, and those that its
tokens name. -/
def RuleEntry.mentioned (entry : RuleEntry) : List String :=
  entry.selectors ++ entry.tokens.flatMap fun token => (Rule.parse token).siblings

def RuleTable.mentioned (table : RuleTable) : List String :=
  table.flatMap fun row => row.1.text?.toList ++ row.2.flatMap RuleEntry.mentioned

namespace Engine

variable {engine : Engine} {wording : Message.Wording} {table : RuleTable}

/-- A table is made of standard rules: each of its tokens has the standard check, and none of its
conditions is computed by a closure. -/
structure HasStandardRules (engine : Engine) (table : RuleTable) : Prop where
  declared : ∀ row ∈ table, ∀ entry ∈ row.2, entry.IsDeclared
  checked : ∀ row ∈ table, ∀ entry ∈ row.2, ∀ token ∈ entry.tokens, engine.ChecksByStandard token

/-- The same applies to a field in two records that agree on what its entries mention, and the same
is found there. -/
theorem checkRow_of_agree {row : Name × List RuleEntry}
    (declared : ∀ entry ∈ row.2, entry.IsDeclared)
    (checked : ∀ entry ∈ row.2, ∀ token ∈ entry.tokens, engine.ChecksByStandard token)
    (agree : AgreeOn (row.1.text?.toList ++ row.2.flatMap RuleEntry.mentioned) record other) :
    RuleEntry.resolve engine.closures record row.2 = RuleEntry.resolve engine.closures other row.2 ∧
      ∀ tokens, RuleEntry.resolve engine.closures other row.2 = .ok tokens →
        engine.checkField wording record row.1 tokens =
          engine.checkField wording other row.1 tokens := by
  obtain ⟨own, others⟩ := Fields.agreeOn_append.mp agree
  have mentioned : ∀ entry ∈ row.2, AgreeOn entry.mentioned record other :=
    Fields.agreeOn_flatMap.mp others
  constructor
  · exact RuleEntry.resolve_of_agree declared fun entry member =>
      (Fields.agreeOn_append.mp (mentioned entry member)).1
  · intro tokens resolved
    refine checkField_of_agree ?_ own.under? ?_
    · intro token member
      obtain ⟨entry, isEntry, isToken⟩ := RuleEntry.mem_tokens_of_resolve resolved member
      exact checked entry isEntry token isToken
    · intro token member
      obtain ⟨entry, isEntry, isToken⟩ := RuleEntry.mem_tokens_of_resolve resolved member
      have named := (Fields.agreeOn_append.mp (mentioned entry isEntry)).2
      exact Fields.agreeOn_flatMap.mp named token isToken

private theorem checkTable_of_agree (standard : engine.HasStandardRules table)
    (agree : AgreeOn table.mentioned record other) :
    engine.checkTable wording record table = engine.checkTable wording other table := by
  obtain ⟨declared, checked⟩ := standard
  induction table with
  | nil =>
      rfl
  | cons row rest inductionHypothesis =>
      obtain ⟨declaredRow, declaredRest⟩ := List.forall_mem_cons.mp declared
      obtain ⟨checkedRow, checkedRest⟩ := List.forall_mem_cons.mp checked
      obtain ⟨agreeRow, agreeRest⟩ := Fields.agreeOn_append.mp agree
      obtain ⟨sameTokens, sameFound⟩ :=
        @checkRow_of_agree _ _ engine wording row declaredRow checkedRow agreeRow
      have sameRest := inductionHypothesis agreeRest declaredRest checkedRest
      simp only [checkTable, sameTokens, sameRest]
      cases resolved : RuleEntry.resolve engine.closures other row.2 with
      | error error =>
          rfl
      | ok tokens =>
          simp only [sameFound tokens resolved]

private theorem covered_of_agree (agree : AgreeOn table.mentioned record other) :
    covered record table = covered other table := by
  refine List.filterMap_congr fun row member => ?_
  have own := (Fields.agreeOn_append.mp (Fields.agreeOn_flatMap.mp agree row member)).1
  cases isText : row.1.text? with
  | none =>
      rfl
  | some name =>
      have same : record.get? name = other.get? name := own name (by simp [isText])
      simp [same]

/-- Checking looks at no field that the table does not mention.  Where two records agree on the
fields that it mentions, checking ends in the same error on both, or in reports of the same verdict
and the same messages; and these have the same data if they are valid. -/
theorem evaluate_of_agree (wording : Message.Wording) (standard : engine.HasStandardRules table)
    (agree : AgreeOn table.mentioned record other) :
    (∀ error, engine.evaluate wording record table = .error error ↔
      engine.evaluate wording other table = .error error) ∧
    ∀ report, engine.evaluate wording record table = .ok report →
      ∃ again, engine.evaluate wording other table = .ok again ∧
        again.valid = report.valid ∧ again.errors = report.errors ∧
        (report.valid = true → again.data = report.data) := by
  have sameFound : engine.checkTable wording record table = engine.checkTable wording other table :=
    checkTable_of_agree standard agree
  simp only [evaluate, conclude, sameFound]
  cases (engine.checkTable wording other table).failure with
  | some failure =>
      refine ⟨fun _ => Iff.rfl, ?_⟩
      intro report impossible
      cases impossible
  | none =>
      refine ⟨fun _ => by simp, ?_⟩
      intro report isReport
      cases isReport
      refine ⟨_, rfl, rfl, rfl, ?_⟩
      intro isValid
      have coversSame := covered_of_agree agree
      simp only [reportOf] at isValid ⊢
      rw [isValid, if_pos rfl, if_pos rfl, coversSame]

/-- A field that is needed in one country, or with another field.  Nothing looks at the note. -/
theorem evaluate_of_agree_note :
    let table : RuleTable := [(.text "state", [.token "string", .token "required_with:city",
      .ruleSet ⟨.equality (.text "country") (.text "US"), ["required"], "field"⟩])]
    let record : Fields Value := [("country", .text "US"), ("note", .null)]
    let other : Fields Value := [("note", .text "Ask again"), ("country", .text "US")]
    let standing : Engine := {}
    table.mentioned = ["state", "city", "country"] ∧ standing.HasStandardRules table ∧
      AgreeOn table.mentioned record other ∧
      ∃ report, standing.evaluate {} record table = .ok report ∧
        report.errors = [(.text "state", [.text "The state field is required."])] ∧
        ∃ again, standing.evaluate {} other table = .ok again ∧
          again.valid = report.valid ∧ again.errors = report.errors ∧
          (report.valid = true → again.data = report.data) := by
  intro table record other standing
  have mentioned : table.mentioned = ["state", "city", "country"] := by
    with_unfolding_all rfl
  have isStandard : standing.HasStandardRules table := by
    constructor
    · simp [table, RuleEntry.IsDeclared, Rule.Condition.isClosure]
    · intro _ _ _ _ _ _
      rfl
  have agree : AgreeOn table.mentioned record other := by
    rw [mentioned]
    simp [Fields.AgreeOn, record, other, Fields.get?, List.lookup]
  have evaluated : standing.evaluate {} record table = .ok {
      valid := false
      errors := [(.text "state", [.text "The state field is required."])]
      data := record } := by
    have resolved : RuleEntry.resolve standing.closures record [.token "string",
        .token "required_with:city",
        .ruleSet ⟨.equality (.text "country") (.text "US"), ["required"], "field"⟩] =
        .ok ["string", "required_with:city", "required"] := by
      refine RuleEntry.resolve_of_contributions ["string", "required_with:city", "required"] ?_
      simp [record, RuleEntry.contributions, RuleEntry.contribution, RuleSet.resolve,
        Rule.Condition.holds, Rule.Condition.presentAndEqual, Value.lookupField,
        Value.strictlyEquals, Value.sameType, Fields.get?_cons]
    rw [evaluate, checkTable, resolved]
    with_unfolding_all rfl
  exact ⟨mentioned, isStandard, agree, _, evaluated, rfl,
    (evaluate_of_agree {} isStandard agree).2 _ evaluated⟩

end Engine
end RecordSchema
