import RecordSchema.Proofs.Check.Failures
import RecordSchema.Proofs.Number.Reading
import RecordSchema.Proofs.Rule.Parsing

/-!
# Bounds on integers

An integer and the bounds on it are compared as doubles.  So an integer out of the range of doubles
is not checked to the end, and any other meets its bounds exactly if it does so after all of them
have been rounded.  Where the integer or the bounds have at most 53 bits, this makes no difference.
-/

namespace RecordSchema

/-- Bounds on an integer. -/
inductive Bounds where
  | min (least : Int)
  | max (most : Int)
  | between (least most : Int)

namespace Bounds

def rule : Bounds → Rule.Invocation
  | .min least => ⟨"min", [Value.intText least]⟩
  | .max most => ⟨"max", [Value.intText most]⟩
  | .between least most => ⟨"between", [Value.intText least, Value.intText most]⟩

def limits : Bounds → List Int
  | .min least => [least]
  | .max most => [most]
  | .between least most => [least, most]

/-- An integer is within the bounds. -/
def Admits : Bounds → Int → Prop
  | .min least, value => least ≤ value
  | .max most, value => value ≤ most
  | .between least most, value => least ≤ value ∧ value ≤ most

instance (bounds : Bounds) (value : Int) : Decidable (bounds.Admits value) :=
  match bounds with
  | .min _ => inferInstanceAs (Decidable (_ ≤ _))
  | .max _ => inferInstanceAs (Decidable (_ ≤ _))
  | .between _ _ => inferInstanceAs (Decidable (_ ∧ _))

def rounded : Bounds → Bounds
  | .min least => .min (Double.rounded least)
  | .max most => .max (Double.rounded most)
  | .between least most => .between (Double.rounded least) (Double.rounded most)

/-- An integer within the bounds is within them after rounding. -/
theorem Admits.rounded {bounds : Bounds} {value : Int} (admits : bounds.Admits value) :
    bounds.rounded.Admits (Double.rounded value) := by
  cases bounds with
  | min least =>
      exact Double.rounded_mono admits
  | max most =>
      exact Double.rounded_mono admits
  | between least most =>
      exact ⟨Double.rounded_mono admits.1, Double.rounded_mono admits.2⟩

/-- An integer of at most 53 bits, or one with such bounds, is within them exactly if it is so after
rounding. -/
theorem admits_rounded_iff {bounds : Bounds} {value : Int}
    (small : value.natAbs < 2 ^ 53 ∨ ∀ limit ∈ bounds.limits, limit.natAbs < 2 ^ 53) :
    bounds.rounded.Admits (Double.rounded value) ↔ bounds.Admits value := by
  have sameOrder : ∀ limit ∈ bounds.limits,
      (Double.rounded limit ≤ Double.rounded value ↔ limit ≤ value) ∧
        (Double.rounded value ≤ Double.rounded limit ↔ value ≤ limit) := by
    intro limit member
    have oneIsSmall : value.natAbs < 2 ^ 53 ∨ limit.natAbs < 2 ^ 53 :=
      small.imp_right fun areSmall => areSmall limit member
    exact ⟨Double.rounded_le_rounded_iff oneIsSmall.symm,
      Double.rounded_le_rounded_iff oneIsSmall⟩
  cases bounds with
  | min least =>
      exact (sameOrder least List.mem_cons_self).1
  | max most =>
      exact (sameOrder most List.mem_cons_self).2
  | between least most =>
      have last : most ∈ limits (.between least most) :=
        List.mem_cons_of_mem _ List.mem_cons_self
      exact and_congr (sameOrder least List.mem_cons_self).1 (sameOrder most last).2

/-! ## Tokens -/

private theorem noComma_intText (value : Int) : ',' ∉ (Value.intText value).toList := by
  intro member
  exact absurd (Number.mem_of_mem_intText member) (by decide)

private theorem intText_ne_empty (value : Int) : Value.intText value ≠ "" := by
  intro isEmpty
  have nothing := congrArg String.toList isEmpty
  rw [Number.toList_intText] at nothing
  exact Nat.toDigits_ne_nil (List.append_eq_nil_iff.mp nothing).2

private theorem isBound_intText (value : Int) : Rule.Invocation.IsBound (Value.intText value) :=
  ⟨_, Number.readDouble?_intText value⟩

/-- A rule about bounds has the parameters that it asks for. -/
theorem wellFormed_rule (bounds : Bounds) : bounds.rule.WellFormed := by
  cases bounds with
  | min least =>
      exact .bound List.mem_cons_self (isBound_intText least)
  | max most =>
      exact .bound (List.mem_cons_of_mem _ List.mem_cons_self) (isBound_intText most)
  | between least most =>
      exact .between (isBound_intText least) (isBound_intText most)

/-- A rule about bounds is read from its token. -/
theorem parse_token (bounds : Bounds) : Rule.parse bounds.rule.token = bounds.rule := by
  have separable : Rule.Separable bounds.rule.parameters := by
    constructor
    · cases bounds with
      | min least =>
          simpa [rule] using noComma_intText least
      | max most =>
          simpa [rule] using noComma_intText most
      | between least most =>
          simpa [rule] using ⟨noComma_intText least, noComma_intText most⟩
    · cases bounds with
      | min least =>
          simpa [rule] using intText_ne_empty least
      | max most =>
          simpa [rule] using intText_ne_empty most
      | between least most =>
          simp [rule]
  have named : bounds.rule.name ∈ ["min", "max", "between"] := by
    cases bounds <;> simp [rule]
  have plainNames : ∀ name ∈ ["min", "max", "between"], ':' ∉ name.toList ∧
      Text.trim name.toList = name.toList ∧ name ≠ "regex" := by
    decide
  obtain ⟨noColon, trimmed, notRegex⟩ := plainNames _ named
  exact (Rule.parse_token_iff noColon trimmed notRegex _).2.mpr separable

end Bounds

/-! ## Checks -/

private theorem Relation.allows_compare (left right : Int) :
    lessOrEqual.allows (compare left right) = decide (left ≤ right) ∧
      greaterOrEqual.allows (compare left right) = decide (right ≤ left) := by
  rw [Int.compare_eq_ite_lt]
  by_cases less : left < right
  · simp [less, allows, Int.le_of_lt less]
  · by_cases greater : right < left
    · simp [less, greater, allows, Int.le_of_lt greater]
    · simp [less, greater, allows, Int.not_lt.mp less, Int.not_lt.mp greater]

namespace Call

variable {call : Call} {value : Int}

private theorem size_of_int (isInt : call.value = .int value)
    (inRange : value.natAbs < Double.limit) :
    call.size = .ok (.double (.ofInt value)) := by
  have kind : call.sizeKind = .worth := by
    simp [sizeKind, isInt, Value.isNumber]
  rw [size, kind, isInt, worth, Double.ofInt?_eq, if_pos inRange]
  rfl

private theorem parameterWorth_intText (bound : Int) :
    parameterWorth (Value.intText bound) = .ok (.double (.ofInt bound)) := by
  rw [parameterWorth, worth, Number.readDouble?_intText]
  rfl

end Call

namespace Check

variable {call : Call} {value : Int}

/-- Integers as doubles are compared after rounding. -/
theorem any_allows_ofInt {left right : Int}
    (inRange : left.natAbs < Double.limit ∨ right.natAbs < Double.limit) :
    ((Numeral.double (.ofInt left)).compare? (.double (.ofInt right))).any
        Relation.lessOrEqual.allows = decide (Double.rounded left ≤ Double.rounded right) ∧
      ((Numeral.double (.ofInt left)).compare? (.double (.ofInt right))).any
        Relation.greaterOrEqual.allows = decide (Double.rounded right ≤ Double.rounded left) := by
  rw [Numeral.compare?, Double.compare?_ofInt inRange]
  exact Relation.allows_compare _ _

/-- Whether an integer in range meets its bounds is decided after rounding. -/
theorem bounds_answer (bounds : Bounds) (isInt : call.value = .int value)
    (given : call.parameters = bounds.rule.parameters) (inRange : value.natAbs < Double.limit) :
    ∃ check, standard.get? bounds.rule.name = some check ∧
      check call = .ok (decide (bounds.rounded.Admits (Double.rounded value))) := by
  have size := Call.size_of_int isInt inRange
  cases bounds with
  | min least =>
      have enough : 1 ≤ call.parameters.length := by
        simp [given, Bounds.rule]
      refine ⟨min, rfl, ?_⟩
      rw [min, needed_eq_ok enough, Outcome.ok_bind, size, Outcome.ok_bind, given, Bounds.rule,
        List.headD_cons, Call.parameterWorth_intText, Outcome.ok_bind,
        (any_allows_ofInt (Or.inl inRange)).2]
      rfl
  | max most =>
      have enough : 1 ≤ call.parameters.length := by
        simp [given, Bounds.rule]
      refine ⟨max, rfl, ?_⟩
      rw [max, needed_eq_ok enough, Outcome.ok_bind, size, Outcome.ok_bind, given, Bounds.rule,
        List.headD_cons, Call.parameterWorth_intText, Outcome.ok_bind,
        (any_allows_ofInt (Or.inl inRange)).1]
      rfl
  | between least most =>
      have enough : 2 ≤ call.parameters.length := by
        simp [given, Bounds.rule]
      refine ⟨between, rfl, ?_⟩
      rw [between, needed_eq_ok enough, Outcome.ok_bind, size, Outcome.ok_bind, given, Bounds.rule,
        List.headD_cons, Call.parameterWorth_intText, Outcome.ok_bind,
        (any_allows_ofInt (Or.inr inRange)).1]
      by_cases reached : Double.rounded least ≤ Double.rounded value
      · simp [reached, Call.parameterWorth_intText, (any_allows_ofInt (Or.inl inRange)).1,
          Bounds.rounded, Bounds.Admits]
      · simp [reached, Bounds.rounded, Bounds.Admits]

end Check

/-! ## Fields with bounds -/

/-- The rules of a field are the bounds and at most that its value is a number. -/
structure Bounds.Govern (bounds : Bounds) (tokens : List String) : Prop where
  listed : bounds.rule.token ∈ tokens
  others : ∀ token ∈ tokens, token = bounds.rule.token ∨ token ∈ Call.numericRules

theorem Bounds.Govern.distinct {bounds : Bounds} {tokens : List String}
    (govern : bounds.Govern tokens) : bounds.Govern (Text.distinct tokens) where
  listed := Text.mem_distinct (fun _ same => (beq_iff_eq.mp same).symm) govern.listed
  others token member := govern.others token (Text.mem_of_mem_distinct member)

namespace Engine

variable {engine : Engine} {call : Call} {bounds : Bounds} {value : Int} {field : String}
  {tokens : List String}

private theorem parse_numeric : ∀ token ∈ Call.numericRules, Rule.parse token = ⟨token, []⟩ := by
  decide

/-- A rule of a field that is governed by bounds is that of the bounds, or one that every integer
meets. -/
theorem parse_cases (govern : bounds.Govern tokens) {token : String} (member : token ∈ tokens) :
    Rule.parse token = bounds.rule ∨
      ∃ name ∈ Call.numericRules, Rule.parse token = ⟨name, []⟩ := by
  rcases govern.others token member with rfl | isNumeric
  · exact Or.inl bounds.parse_token
  · exact Or.inr ⟨token, isNumeric, parse_numeric token isNumeric⟩

private theorem not_obstacle_numeric : ∀ name ∈ Call.numericRules, ¬ Call.Obstacle call name := by
  have unconditional : ∀ name ∈ Call.numericRules, name ∈ Rule.Invocation.unconditional := by
    decide
  exact fun name member => Check.not_obstacle_of_unconditional (unconditional name member)

private theorem not_fails_numeric (isInt : call.value = .int value) (runs : Bool) :
    ∀ name ∈ Call.numericRules, ¬ engine.Fails call runs ⟨name, []⟩ := by
  rintro name member ⟨_, check, known, failed⟩
  simp only [Call.numericRules, List.mem_cons, List.not_mem_nil, or_false] at member
  rcases member with rfl | rfl
  · cases known
    simp [Check.numeric, isInt, Value.isNumeric] at failed
  · cases known
    simp [Check.integer, isInt] at failed

private theorem asks_bounds (bounds : Bounds) : engine.Asks true bounds.rule := by
  refine ⟨?_, Or.inl rfl⟩
  cases bounds <;> simp [Bounds.rule, markers]

/-- The rule of bounds has no answer on an integer that is out of range. -/
theorem blocks_bounds_iff (isInt : call.value = .int value) :
    engine.Blocks call true bounds.rule ↔ Double.limit ≤ value.natAbs := by
  have obstacle :
      Call.Obstacle { call with parameters := bounds.rule.parameters } bounds.rule.name ↔
        Call.SizeObstacle { call with parameters := bounds.rule.parameters } := by
    cases bounds <;> simp [Call.Obstacle, Bounds.rule]
  rw [Blocks, and_iff_right (asks_bounds bounds), obstacle,
    @Call.sizeObstacle_int { call with parameters := bounds.rule.parameters } value isInt,
    Double.ofInt?_eq]
  simp

/-- The rule of bounds fails on an integer in range exactly if the bounds do not admit it after
rounding. -/
theorem fails_bounds_iff (isInt : call.value = .int value) (inRange : value.natAbs < Double.limit) :
    engine.Fails call true bounds.rule ↔ ¬ bounds.rounded.Admits (Double.rounded value) := by
  obtain ⟨check, known, answer⟩ :=
    @Check.bounds_answer { call with parameters := bounds.rule.parameters } value bounds isInt rfl
      inRange
  rw [Fails, and_iff_right (asks_bounds bounds)]
  simp [known, answer]

private theorem value_callOn_int (field : String) (value : Int) (tokens : List String) :
    (callOn [(field, .int value)] (.text field) tokens).value = .int value := by
  simp [callOn, Fields.under?, Fields.get?_cons]

private theorem runsOn_int (field : String) (value : Int) (names : List String) :
    runsOn [(field, .int value)] (.text field) names = true := by
  simp [runsOn, Fields.under?, Fields.get?_cons]

/-- A field that is governed by bounds is checked to the end exactly if its value is in range. -/
theorem obstructed_iff (govern : bounds.Govern tokens) :
    engine.Obstructed [(field, .int value)] (field, tokens) ↔ Double.limit ≤ value.natAbs := by
  have isInt := value_callOn_int field value (Text.distinct tokens)
  have ruleCases : ∀ rule ∈ rulesOf tokens,
      rule = bounds.rule ∨ ∃ name ∈ Call.numericRules, rule = ⟨name, []⟩ := by
    intro rule member
    obtain ⟨token, isToken, rfl⟩ := List.mem_map.mp member
    exact parse_cases govern.distinct isToken
  have obstructed : engine.Obstructed [(field, .int value)] (field, tokens) ↔
      engine.Blocked (callOn [(field, .int value)] (.text field) (Text.distinct tokens)) true
        (rulesOf tokens) := by
    rw [Obstructed, runsOn_int]
    rfl
  rw [obstructed]
  constructor
  · rintro ⟨before, rule, after, split, _, blocks⟩
    have member : rule ∈ rulesOf tokens := by
      simp [split]
    rcases ruleCases rule member with rfl | ⟨name, isNumeric, rfl⟩
    · exact (blocks_bounds_iff isInt).mp blocks
    · exact absurd blocks.2 (not_obstacle_numeric name isNumeric)
  · intro beyond
    have member : bounds.rule ∈ rulesOf tokens :=
      List.mem_map.mpr ⟨_, govern.distinct.listed, bounds.parse_token⟩
    refine comesTo_of_mem member ((blocks_bounds_iff isInt).mpr beyond) ?_
    intro rule isRule
    rcases ruleCases rule isRule with rfl | ⟨name, isNumeric, rfl⟩
    · exact Or.inl ((blocks_bounds_iff isInt).mpr beyond)
    · exact Or.inr fun _ => not_fails_numeric isInt true name isNumeric

/-- A rule of a field that is governed by bounds fails on a value in range exactly if the bounds do
not admit it after rounding. -/
theorem failsOn_iff (govern : bounds.Govern tokens) (inRange : value.natAbs < Double.limit) :
    engine.FailsOn [(field, .int value)] (.text field) tokens ↔
      ¬ bounds.rounded.Admits (Double.rounded value) := by
  have isInt := value_callOn_int field value tokens
  rw [FailsOn, runsOn_int, ← fails_bounds_iff isInt inRange]
  constructor
  · rintro ⟨token, member, fails⟩
    rcases parse_cases govern member with isBounds | ⟨name, isNumeric, isRule⟩
    · rwa [isBounds] at fails
    · rw [isRule] at fails
      exact absurd fails (not_fails_numeric isInt true name isNumeric)
  · intro fails
    refine ⟨_, govern.listed, ?_⟩
    rwa [bounds.parse_token]

private theorem wellFormed_of_govern (govern : bounds.Govern tokens) :
    ∀ row ∈ [(field, tokens)], ∀ token ∈ row.2, (Rule.parse token).WellFormed := by
  intro row isRow token member
  cases List.mem_singleton.mp isRow
  rcases parse_cases govern member with isBounds | ⟨name, isNumeric, isRule⟩
  · rw [isBounds]
    exact bounds.wellFormed_rule
  · rw [isRule]
    refine .unconditional ?_
    simp only [Call.numericRules, List.mem_cons, List.not_mem_nil, or_false] at isNumeric
    rcases isNumeric with rfl | rfl
    · decide
    · decide

/-- An integer that is checked against bounds gets a report exactly if it is in the range of
doubles.  The report is valid if the bounds admit it, and exactly if they do so after rounding.
With 53 bits at most on either side, that is exactly if they admit it. -/
theorem evaluate_bounds (strict stopsEarly : Bool) {wording : Message.Wording}
    (texts : wording.IsTexts) (field : String) (value : Int) (govern : bounds.Govern tokens) :
    ((∃ report, evaluate { strict, stopsEarly } wording [(field, .int value)]
        (.ofTokens [(field, tokens)]) = .ok report) ↔ value.natAbs < Double.limit) ∧
      ∀ report, evaluate { strict, stopsEarly } wording [(field, .int value)]
          (.ofTokens [(field, tokens)]) = .ok report →
        (report.valid = true ↔ bounds.rounded.Admits (Double.rounded value)) ∧
        (bounds.Admits value → report.valid = true) ∧
        ((value.natAbs < 2 ^ 53 ∨ ∀ limit ∈ bounds.limits, limit.natAbs < 2 ^ 53) →
          (report.valid = true ↔ bounds.Admits value)) := by
  have returns : (∃ report, evaluate { strict, stopsEarly } wording [(field, .int value)]
      (.ofTokens [(field, tokens)]) = .ok report) ↔ value.natAbs < Double.limit := by
    rw [evaluate_isOk_iff (keepsStandard strict stopsEarly) texts _ (wellFormed_of_govern govern),
      List.forall_mem_singleton, obstructed_iff govern, Nat.not_le]
  refine ⟨returns, ?_⟩
  intro report evaluated
  have inRange := returns.mp ⟨report, evaluated⟩
  have fails := @failsOn_iff { strict, stopsEarly } bounds value field _ govern.distinct inRange
  have resolved := RuleEntry.resolve_tokens ({ strict, stopsEarly } : Engine).closures
    [(field, .int value)] tokens
  have invalid : report.valid = false ↔ ¬ bounds.rounded.Admits (Double.rounded value) := by
    rw [valid_eq_false_iff evaluated, ← fails]
    simp only [messagesOf_ne_nil_iff rfl evaluated]
    constructor
    · rintro ⟨_, row, member, _, others, isResolved, failsThere⟩
      cases List.mem_singleton.mp member
      rw [resolved] at isResolved
      cases isResolved
      exact failsThere
    · intro failsHere
      exact ⟨.text field, _, List.mem_cons_self, BEq.rfl, _, resolved, failsHere⟩
  have valid : report.valid = true ↔ bounds.rounded.Admits (Double.rounded value) := by
    rw [← Bool.not_eq_false, invalid, Decidable.not_not]
  refine ⟨valid, fun admits => valid.mpr admits.rounded, fun small => ?_⟩
  rw [valid, Bounds.admits_rounded_iff small]

/-- A count that is not within its bounds. -/
theorem evaluate_bounds_count :
    Message.Wording.IsTexts {} ∧ (Bounds.between 1 10).Govern ["integer", "between:1,10"] ∧
      ∃ report, evaluate {} {} [("count", .int 12)]
          (.ofTokens [("count", ["integer", "between:1,10"])]) = .ok report ∧
        (report.valid = true ↔ (Bounds.between 1 10).Admits 12) ∧
        ¬ (Bounds.between 1 10).Admits 12 := by
  have texts : Message.Wording.IsTexts {} := Message.Wording.isTexts_empty
  have govern : (Bounds.between 1 10).Govern ["integer", "between:1,10"] :=
    ⟨by decide, by decide⟩
  obtain ⟨returns, verdicts⟩ := evaluate_bounds true false texts "count" 12 govern
  obtain ⟨report, evaluated⟩ := returns.mpr (by decide +kernel)
  obtain ⟨_, _, exactly⟩ := verdicts report evaluated
  exact ⟨texts, govern, report, evaluated, exactly (Or.inl (by decide)), by decide⟩

/-- An integer that is valid though it is one less than the least one, and a negative integer of
310 digits that gets no report. -/
theorem evaluate_bounds_inexact :
    (evaluate {} {} [("count", .int 9007199254740992)]
        (.ofTokens [("count", ["min:9007199254740993"])]) = .ok {
          valid := true
          errors := []
          data := [("count", .int 9007199254740992)] } ∧
      (Bounds.min 9007199254740993).rule.token = "min:9007199254740993" ∧
      ¬ (Bounds.min 9007199254740993).Admits 9007199254740992) ∧
    (¬ ∃ report, evaluate {} {} [("count", .int (-10 ^ 309))]
        (.ofTokens [("count", ["max:0"])]) = .ok report) ∧
      (Bounds.max 0).rule.token = "max:0" ∧ (Bounds.max 0).Admits (-10 ^ 309) := by
  refine ⟨⟨?_, by decide, by decide⟩, ?_, by decide, by decide +kernel⟩
  · have resolved := RuleEntry.resolve_tokens ({} : Engine).closures
      [("count", .int 9007199254740992)] ["min:9007199254740993"]
    rw [evaluate, RuleTable.ofTokens, List.map_cons, checkTable, resolved]
    rfl
  · have govern : (Bounds.max 0).Govern ["max:0"] := ⟨by decide, by decide⟩
    have beyond : Double.limit ≤ (-10 ^ 309 : Int).natAbs := by
      decide +kernel
    rw [evaluate_isOk_iff (keepsStandard true false) Message.Wording.isTexts_empty _
      (wellFormed_of_govern govern), List.forall_mem_singleton, obstructed_iff govern]
    exact not_not_intro beyond

end Engine
end RecordSchema
