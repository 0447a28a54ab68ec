import RecordSchema.Proofs.Check.Failures

/-!
# One rule at a time

What one rule comes to depends on the call and on what the engine knows, and neither on how strict
the engine is nor on where it stops.  These two decide only how the walk goes on.
-/

namespace RecordSchema.Engine

/-- What one rule comes to. -/
inductive Verdict where
  /-- The rule is met, or is not looked at. -/
  | passes
  /-- There is no check for the rule. -/
  | unknown
  /-- The rule is not met. -/
  | fails (message : String)
  /-- The check has no answer, or there is no message. -/
  | breaks (error : Error)

def verdict (engine : Engine) (wording : Message.Wording) (call : Call) (runs : Bool)
    (rule : Rule.Invocation) : Verdict :=
  if markers.contains rule.name then .passes
  else
    match engine.checks.get? rule.name with
    | none => .unknown
    | some check =>
      if !runs && !engine.implicit.contains rule.name then .passes
      else
        let own := { call with parameters := rule.parameters }
        match check own with
        | .error error => .breaks error
        | .ok true => .passes
        | .ok false =>
          match wording.message engine.templates own rule.name with
          | .error error => .breaks error
          | .ok text => .fails text

variable {engine : Engine} {wording : Message.Wording} {call : Call} {runs : Bool}
  {rule : Rule.Invocation} {rest : List Rule.Invocation}

/-- One step of a walk. -/
theorem walk_cons (engine : Engine) (wording : Message.Wording) (call : Call) (runs : Bool)
    (rule : Rule.Invocation) (rest : List Rule.Invocation) :
    engine.walk wording call runs (rule :: rest) =
      match engine.verdict wording call runs rule with
      | .passes => engine.walk wording call runs rest
      | .unknown =>
        if engine.strict then .failed [] (.ruleUnknown rule.name call.field.toText)
        else (engine.walk wording call runs rest).lift (.skipped rule.name :: ·)
      | .fails text =>
        if engine.stopsEarly || call.ruleNames.contains "bail" then .done [.failed text]
        else (engine.walk wording call runs rest).lift (.failed text :: ·)
      | .breaks error => .failed [] error := by
  rw [walk, verdict]
  by_cases marked : markers.contains rule.name = true
  · rw [if_pos marked, if_pos marked]
  rw [if_neg marked, if_neg marked]
  cases engine.checks.get? rule.name with
  | none =>
      rfl
  | some check =>
      dsimp only
      by_cases idle : (!runs && !engine.implicit.contains rule.name) = true
      · rw [if_pos idle, if_pos idle]
      rw [if_neg idle, if_neg idle]
      cases check { call with parameters := rule.parameters } with
      | error error =>
          rfl
      | ok met =>
          cases met with
          | true =>
              rfl
          | false =>
              dsimp only
              cases wording.message engine.templates { call with parameters := rule.parameters }
                rule.name <;> rfl

theorem walk_of_passes (passes : engine.verdict wording call runs rule = .passes) :
    engine.walk wording call runs (rule :: rest) = engine.walk wording call runs rest := by
  rw [walk_cons, passes]

theorem verdict_of_marker (marked : markers.contains rule.name = true) :
    engine.verdict wording call runs rule = .passes := by
  rw [verdict, if_pos marked]

/-- No check is found exactly for the rules that are not known. -/
theorem verdict_eq_unknown_iff :
    engine.verdict wording call runs rule = .unknown ↔ engine.knows rule.name = false := by
  by_cases marked : markers.contains rule.name = true
  · rw [verdict_of_marker marked, knows, marked]
    simp
  rw [verdict, if_neg marked, knows, Fields.has]
  cases engine.checks.get? rule.name with
  | none =>
      simpa using marked
  | some check =>
      refine iff_of_false ?_ (by simp)
      dsimp only
      by_cases idle : (!runs && !engine.implicit.contains rule.name) = true
      · rw [if_pos idle]
        simp
      rw [if_neg idle]
      cases check { call with parameters := rule.parameters } with
      | error error =>
          simp
      | ok met =>
          cases met with
          | true =>
              simp
          | false =>
              dsimp only
              cases wording.message engine.templates { call with parameters := rule.parameters }
                rule.name <;> simp

/-- A rule is looked at if it is no marker, and the rules run or it is implicit. -/
theorem asks_of_busy (unmarked : ¬ markers.contains rule.name = true)
    (busy : ¬ (!runs && !engine.implicit.contains rule.name) = true) : engine.Asks runs rule := by
  refine ⟨by simpa using unmarked, ?_⟩
  cases runs with
  | true =>
      exact Or.inl rfl
  | false =>
      exact Or.inr (by simpa using busy)

/-- A rule comes to the same on two calls if its check and its message do, should it be looked
at. -/
theorem verdict_congr {other : Call}
    (same : ∀ check, engine.checks.get? rule.name = some check → engine.Asks runs rule →
      check { other with parameters := rule.parameters } =
          check { call with parameters := rule.parameters } ∧
        wording.message engine.templates { other with parameters := rule.parameters } rule.name =
          wording.message engine.templates { call with parameters := rule.parameters } rule.name) :
    engine.verdict wording other runs rule = engine.verdict wording call runs rule := by
  rw [verdict, verdict]
  by_cases marked : markers.contains rule.name = true
  · rw [if_pos marked, if_pos marked]
  rw [if_neg marked, if_neg marked]
  cases known : engine.checks.get? rule.name with
  | none =>
      rfl
  | some check =>
      dsimp only
      by_cases idle : (!runs && !engine.implicit.contains rule.name) = true
      · rw [if_pos idle, if_pos idle]
      rw [if_neg idle, if_neg idle]
      obtain ⟨sameAnswer, sameMessage⟩ := same check known (asks_of_busy marked idle)
      rw [sameAnswer, sameMessage]

/-- A rule that breaks off is looked at, and its check has no answer or there is no message. -/
theorem breaks_cases {error : Error}
    (breaks : engine.verdict wording call runs rule = .breaks error) :
    ∃ check, engine.checks.get? rule.name = some check ∧ engine.Asks runs rule ∧
      (check { call with parameters := rule.parameters } = .error error ∨
        wording.message engine.templates { call with parameters := rule.parameters } rule.name =
          .error error) := by
  rw [verdict] at breaks
  split at breaks
  · cases breaks
  next unmarked =>
    split at breaks
    · cases breaks
    next check known =>
      split at breaks
      · cases breaks
      next busy =>
        refine ⟨check, known, asks_of_busy unmarked busy, ?_⟩
        dsimp only at breaks
        split at breaks
        · next error answer =>
            cases breaks
            exact Or.inl answer
        · cases breaks
        · split at breaks
          · next error message =>
              cases breaks
              exact Or.inr message
          · cases breaks

/-- A rule that is not met is looked at, and its message is what there is to say about it. -/
theorem fails_cases {text : String} (fails : engine.verdict wording call runs rule = .fails text) :
    ∃ check, engine.checks.get? rule.name = some check ∧ engine.Asks runs rule ∧
      check { call with parameters := rule.parameters } = .ok false ∧
      wording.message engine.templates { call with parameters := rule.parameters } rule.name =
        .ok text := by
  rw [verdict] at fails
  split at fails
  · cases fails
  next unmarked =>
    split at fails
    · cases fails
    next check known =>
      split at fails
      · cases fails
      next busy =>
        refine ⟨check, known, asks_of_busy unmarked busy, ?_⟩
        dsimp only at fails
        split at fails
        · cases fails
        · cases fails
        · next answer =>
            split at fails
            · cases fails
            · next message =>
                cases fails
                exact ⟨answer, message⟩

/-- Where a walk goes on behind a finding, it has found something there. -/
theorem lift_cons_eq_done {later : Change (List Finding)} {added : Finding} {found : List Finding}
    (lifted : later.lift (added :: ·) = .done found) :
    ∃ others, found = added :: others ∧ later = .done others := by
  obtain ⟨others, failure⟩ := later
  cases lifted
  exact ⟨others, rfl, rfl⟩

end RecordSchema.Engine
