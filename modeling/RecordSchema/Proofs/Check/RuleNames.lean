import RecordSchema.Proofs.Check.Verdicts

/-!
# What the rules of a field know of each other

A standard check and its message look at the other rules of the field for one thing only: whether
one of them is about numbers.  The walk looks for `bail` as well.  So the same rules are walked
through in the same way wherever these two things are the same.
-/

namespace RecordSchema

namespace Call

/-- One of these rules is about numbers. -/
def AnyNumeric (names : List String) : Prop :=
  ∃ name ∈ names, name ∈ numericRules

private theorem any_numericRules {names : List String} :
    names.any numericRules.contains = true ↔ AnyNumeric names := by
  simp [AnyNumeric]

variable {call : Call} {names : List String}

private theorem sizeKind_renamed (sameNumeric : AnyNumeric names ↔ AnyNumeric call.ruleNames) :
    { call with ruleNames := names }.sizeKind = call.sizeKind := by
  have same : names.any numericRules.contains = call.ruleNames.any numericRules.contains := by
    rw [Bool.eq_iff_iff, any_numericRules, any_numericRules, sameNumeric]
  simp only [sizeKind, same]

private theorem size_renamed (sameNumeric : AnyNumeric names ↔ AnyNumeric call.ruleNames) :
    { call with ruleNames := names }.size = call.size := by
  simp only [size, sizeKind_renamed sameNumeric]

end Call

namespace Check

variable {call other : Call} {names : List String}

private theorem allListed_congr (same : call.parameters = other.parameters) (listed : Bool)
    (items : List Value) : allListed call listed items = allListed other listed items := by
  induction items with
  | nil =>
      rfl
  | cons item rest inductionHypothesis =>
      rw [allListed, allListed, inductionHypothesis, isListed, isListed, same]

/-- A choice depends on the value and on the parameters only. -/
theorem oneOf_congr (sameValue : call.value = other.value)
    (same : call.parameters = other.parameters) : oneOf call = oneOf other := by
  unfold oneOf
  simp only [sameValue, allListed_congr same, isListed, same]

theorem notOneOf_congr (sameValue : call.value = other.value)
    (same : call.parameters = other.parameters) : notOneOf call = notOneOf other := by
  unfold notOneOf
  simp only [sameValue, allListed_congr same, isListed, same]

/-- A standard check gives the same answer wherever the same can be said of numbers. -/
theorem standard_renamed (sameNumeric : Call.AnyNumeric names ↔ Call.AnyNumeric call.ruleNames)
    {rule : String} {check : Check} (known : standard.get? rule = some check) :
    check { call with ruleNames := names } = check call := by
  have same : ∀ entry ∈ standard, entry.2 { call with ruleNames := names } = entry.2 call := by
    have sized := Call.size_renamed sameNumeric
    have listed : oneOf { call with ruleNames := names } = oneOf call := oneOf_congr rfl rfl
    have unlisted : notOneOf { call with ruleNames := names } = notOneOf call :=
      notOneOf_congr rfl rfl
    have least : min { call with ruleNames := names } = min call := by
      unfold min
      rw [sized]
      rfl
    have most : max { call with ruleNames := names } = max call := by
      unfold max
      rw [sized]
      rfl
    have within : between { call with ruleNames := names } = between call := by
      unfold between
      rw [sized]
      rfl
    simp only [standard, List.forall_mem_cons, listed, unlisted, least, most, within, true_and]
    exact ⟨rfl, rfl, rfl, rfl, rfl, rfl, rfl, rfl, rfl, rfl, rfl, rfl, rfl, rfl, rfl, rfl, rfl, rfl,
      rfl, List.forall_mem_nil _⟩
  obtain ⟨key, _, member⟩ := Fields.mem_of_get?_eq_some known
  exact same (key, check) member

end Check

/-- A message is the same wherever the same can be said of numbers. -/
theorem Message.Wording.message_renamed {wording : Wording} {known : Fields Value} {call : Call}
    {names : List String} (sameNumeric : Call.AnyNumeric names ↔ Call.AnyNumeric call.ruleNames)
    (rule : String) :
    wording.message known { call with ruleNames := names } rule =
      wording.message known call rule := by
  have template : wording.template known { call with ruleNames := names } rule =
      wording.template known call rule := by
    simp only [Wording.template, Call.sizeKind_renamed sameNumeric]
  rw [message, template]
  rfl

namespace Engine

variable {engine : Engine} {wording : Message.Wording} {call : Call} {runs : Bool}

/-- Marks make no difference where they stand. -/
theorem walk_filter_markers (rules : List Rule.Invocation) :
    engine.walk wording call runs (rules.filter fun rule => !markers.contains rule.name) =
      engine.walk wording call runs rules := by
  induction rules with
  | nil =>
      rfl
  | cons rule rest inductionHypothesis =>
      by_cases marked : markers.contains rule.name = true
      · rw [List.filter_cons_of_neg (by simpa using marked), inductionHypothesis,
          walk_of_passes (verdict_of_marker marked)]
      · rw [List.filter_cons_of_pos (by simpa using marked), walk_cons, walk_cons,
          inductionHypothesis]

theorem verdict_renamed (standard : engine.checks = Check.standard) {names : List String}
    (sameNumeric : Call.AnyNumeric names ↔ Call.AnyNumeric call.ruleNames)
    (rule : Rule.Invocation) :
    engine.verdict wording { call with ruleNames := names } runs rule =
      engine.verdict wording call runs rule := by
  have message := @Message.Wording.message_renamed wording engine.templates
    { call with parameters := rule.parameters } names sameNumeric rule.name
  rw [verdict, verdict]
  cases known : engine.checks.get? rule.name with
  | none =>
      rfl
  | some check =>
      have answer := @Check.standard_renamed { call with parameters := rule.parameters } names
        sameNumeric rule.name check (standard ▸ known)
      simp only [answer, message]

/-- Two engines with the same checks walk through rules in the same way, as long as both stop at
the first failure or neither does. -/
theorem walk_renamed (standard : engine.checks = Check.standard) (call : Call) {stops : Bool}
    {names : List String} (sameNumeric : Call.AnyNumeric names ↔ Call.AnyNumeric call.ruleNames)
    (sameStop : (stops = true ∨ "bail" ∈ names) ↔ engine.Stops call)
    (rules : List Rule.Invocation) :
    { engine with stopsEarly := stops }.walk wording { call with ruleNames := names } runs rules =
      engine.walk wording call runs rules := by
  have stopping : (stops || names.contains "bail") =
      (engine.stopsEarly || call.ruleNames.contains "bail") := by
    rw [Bool.eq_iff_iff]
    simpa [Stops] using sameStop
  induction rules with
  | nil =>
      rfl
  | cons rule rest inductionHypothesis =>
      have same : { engine with stopsEarly := stops }.verdict wording
          { call with ruleNames := names } runs rule = engine.verdict wording call runs rule :=
        verdict_renamed standard sameNumeric rule
      simp only [walk_cons, inductionHypothesis, same, stopping]

/-! ## Fewer tokens -/

variable {kept : String → Bool} (record : Fields Value) (field : Name) (tokens : List String)

/-- A rule is among the rules of a field without some of its tokens, if its tokens stay. -/
theorem mem_ruleNames_filter {name : String}
    (stays : ∀ token, (Rule.parse token).name = name → kept token = true) :
    name ∈ (callOn record field (tokens.filter kept)).ruleNames ↔
      name ∈ (callOn record field tokens).ruleNames := by
  simp only [callOn, List.map_map, List.mem_map, List.mem_filter, Function.comp_apply]
  constructor
  · rintro ⟨token, ⟨member, _⟩, named⟩
    exact ⟨token, member, named⟩
  · rintro ⟨token, member, named⟩
    exact ⟨token, ⟨member, stays token named⟩, named⟩

theorem anyNumeric_filter
    (stays : ∀ token, (Rule.parse token).name ∈ Call.numericRules → kept token = true) :
    Call.AnyNumeric (callOn record field (tokens.filter kept)).ruleNames ↔
      Call.AnyNumeric (callOn record field tokens).ruleNames := by
  refine exists_congr fun name => and_congr_left fun numeric => ?_
  exact mem_ruleNames_filter record field tokens fun token named => stays token (named ▸ numeric)

theorem runsOn_filter
    (stays : ∀ token, (Rule.parse token).name = "nullable" → kept token = true) :
    runsOn record field (callOn record field (tokens.filter kept)).ruleNames =
      runsOn record field (callOn record field tokens).ruleNames := by
  have same : (callOn record field (tokens.filter kept)).ruleNames.contains "nullable" =
      (callOn record field tokens).ruleNames.contains "nullable" := by
    rw [Bool.eq_iff_iff, List.contains_iff_mem, List.contains_iff_mem,
      mem_ruleNames_filter record field tokens stays]
  simp only [runsOn, same]

end Engine
end RecordSchema
