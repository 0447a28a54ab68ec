import RecordSchema.Proofs.Check.Findings
import RecordSchema.Proofs.Check.Obstacles
import RecordSchema.Proofs.Check.Wording
import RecordSchema.Proofs.Value

/-!
# When checking comes to an end

A table of standard rules with the parameters that they ask for is checked to the end on every
record, unless the walk through the rules of a field comes to one that has no answer there.
-/

namespace RecordSchema

theorem Text.mem_of_mem_distinct {α : Type} [BEq α] {item : α} {items : List α}
    (member : item ∈ distinct items) : item ∈ items := by
  induction items with
  | nil =>
      cases member
  | cons first rest inductionHypothesis =>
      rcases List.mem_cons.mp member with same | later
      · exact same ▸ List.mem_cons_self
      · exact List.mem_cons_of_mem _ (inductionHypothesis (List.mem_filter.mp later).1)

/-! ## Tables of tokens -/

namespace RuleEntry

variable (closures : Rule.Closures) (record : Fields Value)

theorem contributions_tokens (tokens : List String) :
    contributions closures record (tokens.map .token) = .ok (tokens.map .text) := by
  induction tokens with
  | nil =>
      rfl
  | cons token rest inductionHypothesis =>
      simp [contributions, contribution, inductionHypothesis]

theorem distinct_texts (tokens : List String) :
    @Text.distinct Value ⟨Value.agrees⟩ (tokens.map .text) =
      (Text.distinct tokens).map .text := by
  induction tokens with
  | nil =>
      rfl
  | cons token rest inductionHypothesis =>
      simp only [List.map_cons, Text.distinct, inductionHypothesis, List.filter_map]
      congr 3

private theorem tokensOf_texts (tokens : List String) :
    tokensOf (tokens.map .text) = .ok tokens := by
  induction tokens with
  | nil =>
      rfl
  | cons token rest inductionHypothesis =>
      simp [tokensOf, inductionHypothesis]

variable {closures record} in
/-- Of tokens that entries add, each applies at its first place. -/
theorem resolve_of_contributions {entries : List RuleEntry} (tokens : List String)
    (collected : contributions closures record entries = .ok (tokens.map .text)) :
    resolve closures record entries = .ok (Text.distinct tokens) := by
  simp [resolve, resolveValues, distinctValues, collected, distinct_texts, tokensOf_texts]

/-- Tokens apply to every record. -/
theorem resolve_tokens (tokens : List String) :
    resolve closures record (tokens.map .token) = .ok (Text.distinct tokens) :=
  resolve_of_contributions tokens (contributions_tokens closures record tokens)

end RuleEntry

def RuleTable.ofTokens (rows : Fields (List String)) : RuleTable :=
  rows.map fun row => (.text row.1, row.2.map .token)

namespace Engine

/-- The standard checks are known, and templates are texts. -/
structure KeepsStandard (engine : Engine) : Prop where
  checks : ∀ name check, Check.standard.get? name = some check →
    engine.checks.get? name = some check
  templates : engine.templates.AreTexts

theorem keepsStandard (strict stopsEarly : Bool) : KeepsStandard { strict, stopsEarly } where
  checks _ _ known := known
  templates := by
    intro entry member
    obtain ⟨standard, _, rfl⟩ := List.mem_map.mp member
    exact ⟨_, rfl⟩

/-- Rules that are added under other names leave the standard ones alone. -/
theorem KeepsStandard.register {engine : Engine} (keeps : engine.KeepsStandard) {name : String}
    (isOther : Check.standard.get? name = none) (check : Check) {template : Value}
    (isTemplate : template = .null ∨ template.IsText) (implicit : Bool) :
    (engine.register name check template implicit).KeepsStandard where
  checks standardName standardCheck known := by
    have differs : (standardName == name) = false := by
      rw [beq_eq_false_iff_ne]
      rintro rfl
      rw [isOther] at known
      cases known
    have found := keeps.checks standardName standardCheck known
    simpa [Engine.register, Fields.get?_put_of_ne _ _ differs] using found
  templates := by
    rcases isTemplate with rfl | ⟨text, rfl⟩
    · exact keeps.templates
    · rintro ⟨key, held⟩ member
      rcases Fields.mem_put member with ⟨_, isText⟩ | old
      · exact ⟨text, isText⟩
      · exact keeps.templates (key, held) old

/-! ## Walks through rules -/

/-- The rule runs on the field: it has a check, and the field is such that it is looked at. -/
def Asks (engine : Engine) (runs : Bool) (rule : Rule.Invocation) : Prop :=
  rule.name ∉ markers ∧ (runs = true ∨ rule.name ∈ engine.implicit)

def Fails (engine : Engine) (call : Call) (runs : Bool) (rule : Rule.Invocation) : Prop :=
  engine.Asks runs rule ∧ ∃ check, Check.standard.get? rule.name = some check ∧
    check { call with parameters := rule.parameters } = .ok false

/-- The rule runs and there is an obstacle to an answer. -/
def Blocks (engine : Engine) (call : Call) (runs : Bool) (rule : Rule.Invocation) : Prop :=
  engine.Asks runs rule ∧ Call.Obstacle { call with parameters := rule.parameters } rule.name

/-- The walk ends with the first rule that is not met. -/
def Stops (engine : Engine) (call : Call) : Prop :=
  engine.stopsEarly = true ∨ "bail" ∈ call.ruleNames

/-- The walk comes to a rule that has no answer. -/
def Blocked (engine : Engine) (call : Call) (runs : Bool) : List Rule.Invocation → Prop :=
  ComesTo (fun earlier => engine.Stops call → ¬ engine.Fails call runs earlier)
    (engine.Blocks call runs)

variable {engine : Engine} {call : Call} {runs : Bool}

private theorem not_blocked_nil : ¬ engine.Blocked call runs [] :=
  not_comesTo_nil

private theorem blocked_cons {rule : Rule.Invocation} {rest : List Rule.Invocation} :
    engine.Blocked call runs (rule :: rest) ↔ engine.Blocks call runs rule ∨
      (engine.Stops call → ¬ engine.Fails call runs rule) ∧ engine.Blocked call runs rest :=
  comesTo_cons

/-- A rule that has the parameters that it asks for is a marker or has a check. -/
theorem known_of_wellFormed {rule : Rule.Invocation} (wellFormed : rule.WellFormed)
    (unmarked : rule.name ∉ markers) : ∃ check, Check.standard.get? rule.name = some check := by
  cases wellFormed with
  | marker isMarker =>
      exact absurd isMarker unmarked
  | unconditional isName =>
      have known : ∀ name ∈ Rule.Invocation.unconditional, Check.standard.has name = true := by
        decide
      exact Option.isSome_iff_exists.mp (known _ isName)
  | bound isName =>
      have known : ∀ name ∈ ["min", "max"], Check.standard.has name = true := by
        decide
      exact Option.isSome_iff_exists.mp (known _ isName)
  | choice isName =>
      have known : ∀ name ∈ ["in", "not_in"], Check.standard.has name = true := by
        decide
      exact Option.isSome_iff_exists.mp (known _ isName)
  | dependent isName =>
      have known : ∀ name ∈ ["required_if", "prohibited_if"], Check.standard.has name = true := by
        decide
      exact Option.isSome_iff_exists.mp (known _ isName)
  | _ =>
      exact ⟨_, rfl⟩

/-- A rule that does not run makes no difference. -/
theorem blocked_cons_of_not_asks {rule : Rule.Invocation} {rest : List Rule.Invocation}
    (passes : ¬ engine.Asks runs rule) :
    engine.Blocked call runs (rule :: rest) ↔ engine.Blocked call runs rest := by
  rw [blocked_cons]
  constructor
  · rintro (⟨asks, _⟩ | ⟨_, later⟩)
    · exact absurd asks passes
    · exact later
  · intro later
    exact Or.inr ⟨fun _ fails => passes fails.1, later⟩

variable {wording : Message.Wording}

private theorem walk_cons_of_not_asks (keeps : engine.KeepsStandard) {rule : Rule.Invocation}
    {rest : List Rule.Invocation} (wellFormed : rule.WellFormed)
    (passes : ¬ engine.Asks runs rule) :
    engine.walk wording call runs (rule :: rest) = engine.walk wording call runs rest := by
  rw [walk]
  by_cases marked : rule.name ∈ markers
  · simp [marked]
  · obtain ⟨check, known⟩ := known_of_wellFormed wellFormed marked
    have idle : runs = false ∧ rule.name ∉ engine.implicit := by
      simpa [Asks, marked] using passes
    simp [marked, keeps.checks _ _ known, idle]

/-- One step of the walk: a rule that runs ends it in an error exactly if there is an obstacle. -/
theorem walk_cons_of_asks (keeps : engine.KeepsStandard) (texts : wording.IsTexts) {name : String}
    (named : call.field = .text name) {rule : Rule.Invocation} {rest : List Rule.Invocation}
    (wellFormed : rule.WellFormed) (asks : engine.Asks runs rule) :
    (engine.walk wording call runs (rule :: rest)).failure = none ↔
      ¬ engine.Blocks call runs rule ∧ ((engine.Stops call → ¬ engine.Fails call runs rule) →
        (engine.walk wording call runs rest).failure = none) := by
  obtain ⟨check, known⟩ := known_of_wellFormed wellFormed asks.1
  have answers : Call.Answers check { call with parameters := rule.parameters } ↔
      ¬ Call.Obstacle { call with parameters := rule.parameters } rule.name :=
    Check.answers_iff wellFormed known rfl
  have asked : ¬ (runs = false ∧ rule.name ∉ engine.implicit) := by
    rintro ⟨idle, notImplicit⟩
    rcases asks.2 with running | implicit
    · rw [idle] at running
      cases running
    · exact notImplicit implicit
  cases outcome : check { call with parameters := rule.parameters } with
  | error error =>
      have blocks : engine.Blocks call runs rule := by
        refine ⟨asks, Classical.byContradiction fun clear => ?_⟩
        obtain ⟨answer, answered⟩ := answers.mpr clear
        rw [outcome] at answered
        cases answered
      simp [walk, Change.failed, asks.1, keeps.checks _ _ known, asked, outcome, blocks]
  | ok answer =>
      have clear : ¬ engine.Blocks call runs rule :=
        fun blocks => answers.mp ⟨answer, outcome⟩ blocks.2
      cases answer with
      | true =>
          have met : ¬ engine.Fails call runs rule := by
            rintro ⟨_, other, isOther, failed⟩
            cases known.symm.trans isOther
            rw [outcome] at failed
            cases failed
          simp [walk, asks.1, keeps.checks _ _ known, asked, outcome, clear, met]
      | false =>
          have fails : engine.Fails call runs rule := ⟨asks, check, known, outcome⟩
          obtain ⟨text, message⟩ : ∃ text, wording.message engine.templates
              { call with parameters := rule.parameters } rule.name = .ok text :=
            texts.message keeps.templates { call with parameters := rule.parameters } named
              rule.name
          by_cases stops : engine.Stops call
          · have ends : engine.stopsEarly = true ∨ "bail" ∈ call.ruleNames := stops
            simp [walk, Change.done, asks.1, keeps.checks _ _ known, asked, outcome, clear, fails,
              message, ends, stops]
          · have goesOn : ¬ (engine.stopsEarly = true ∨ "bail" ∈ call.ruleNames) := stops
            simp [walk, Change.lift, asks.1, keeps.checks _ _ known, asked, outcome, clear,
              message, goesOn, stops]

/-- A walk through rules ends in no error exactly if it comes to no obstacle. -/
theorem walk_finishes_iff (keeps : engine.KeepsStandard) (texts : wording.IsTexts) {name : String}
    (named : call.field = .text name) {rules : List Rule.Invocation}
    (wellFormed : ∀ rule ∈ rules, rule.WellFormed) :
    (engine.walk wording call runs rules).failure = none ↔
      ¬ engine.Blocked call runs rules := by
  -- The call stays the same on the way, since each rule brings its own parameters to it.
  induction rules with
  | nil =>
      exact iff_of_true rfl not_blocked_nil
  | cons rule rest inductionHypothesis =>
      obtain ⟨wellFormedRule, wellFormedRest⟩ := List.forall_mem_cons.mp wellFormed
      by_cases asks : engine.Asks runs rule
      · rw [walk_cons_of_asks keeps texts named wellFormedRule asks,
          inductionHypothesis wellFormedRest, blocked_cons, not_or, not_and]
      · rw [walk_cons_of_not_asks keeps wellFormedRule asks, blocked_cons_of_not_asks asks,
          inductionHypothesis wellFormedRest]

/-! ## Tables -/

/-- The rules that tokens stand for, each token at its first place. -/
def rulesOf (tokens : List String) : List Rule.Invocation :=
  (Text.distinct tokens).map Rule.parse

/-- The walk through the rules of a field comes to one that has no answer. -/
def Obstructed (engine : Engine) (record : Fields Value) (row : String × List String) : Prop :=
  let names := (rulesOf row.2).map (·.name)
  engine.Blocked ⟨.text row.1, (record.get? row.1).getD .null, [], record, names⟩
    (runsOn record (.text row.1) names) (rulesOf row.2)

variable {record : Fields Value}

theorem finishes_iff (keeps : engine.KeepsStandard) (texts : wording.IsTexts)
    {row : String × List String} (wellFormed : ∀ token ∈ row.2, (Rule.parse token).WellFormed) :
    engine.Finishes wording record (.text row.1, row.2.map .token) ↔
      ¬ engine.Obstructed record row := by
  have wellFormedRules : ∀ rule ∈ rulesOf row.2, rule.WellFormed := by
    intro rule member
    obtain ⟨token, isToken, rfl⟩ := List.mem_map.mp member
    exact wellFormed token (Text.mem_of_mem_distinct isToken)
  rw [Obstructed, ← walk_finishes_iff keeps texts rfl wellFormedRules]
  change engine.Finishes wording record (.text row.1, row.2.map .token) ↔
    (engine.checkField wording record (.text row.1) (Text.distinct row.2)).failure = none
  rw [Finishes, findingsOn, RuleEntry.resolve_tokens, Outcome.ok_bind]
  cases failed : (engine.checkField wording record (.text row.1) (Text.distinct row.2)).failure with
  | none =>
      simp [failed]
  | some error =>
      simp [failed]

/-- A table of standard rules with the parameters that they ask for is checked to the end exactly
if no field has an obstacle on the way through its rules. -/
theorem evaluate_isOk_iff (keeps : engine.KeepsStandard) (texts : wording.IsTexts)
    (record : Fields Value) {rows : Fields (List String)}
    (wellFormed : ∀ row ∈ rows, ∀ token ∈ row.2, (Rule.parse token).WellFormed) :
    (∃ report, engine.evaluate wording record (.ofTokens rows) = .ok report) ↔
      ∀ row ∈ rows, ¬ engine.Obstructed record row := by
  have finishes : (∀ row ∈ RuleTable.ofTokens rows, engine.Finishes wording record row) ↔
      ∀ row ∈ rows, ¬ engine.Obstructed record row := by
    simp only [RuleTable.ofTokens, List.forall_mem_map]
    exact forall₂_congr fun row member => finishes_iff keeps texts (wellFormed row member)
  rw [← finishes]
  constructor
  · rintro ⟨report, evaluated⟩
    exact (evaluate_eq_ok_iff.mp evaluated).1
  · intro allFinish
    exact ⟨_, evaluate_eq_ok_iff.mpr ⟨allFinish, rfl⟩⟩

/-- A number that is too large for a double has no size. -/
theorem evaluate_isOk_iff_largeNumber :
    KeepsStandard {} ∧ Message.Wording.IsTexts {} ∧
      (∀ row ∈ [("count", ["min:1"])], ∀ token ∈ row.2, (Rule.parse token).WellFormed) ∧
      ¬ ∃ report, evaluate {} {} [("count", .int (Int.pow 10 400))]
        (.ofTokens [("count", ["min:1"])]) = .ok report := by
  have keeps : KeepsStandard {} := keepsStandard true false
  have texts : Message.Wording.IsTexts {} := Message.Wording.isTexts_empty
  have wellFormed : ∀ row ∈ [("count", ["min:1"])], ∀ token ∈ row.2,
      (Rule.parse token).WellFormed := by
    have isBound : Rule.Invocation.IsBound "1" := ⟨_, rfl⟩
    have parsed : Rule.parse "min:1" = ⟨"min", ["1"]⟩ := rfl
    simpa [parsed] using Rule.Invocation.WellFormed.bound (by simp) isBound
  have tooLarge : Double.ofInt? (Int.pow 10 400) = none := by
    decide +kernel
  have obstructed : Obstructed {} [("count", .int (Int.pow 10 400))] ("count", ["min:1"]) := by
    refine ⟨[], ⟨"min", ["1"]⟩, [], rfl, List.forall_mem_nil _, ?_, ?_⟩
    · exact ⟨by decide, Or.inl rfl⟩
    · exact Or.inl ⟨by decide, .tooLarge rfl tooLarge⟩
  refine ⟨keeps, texts, wellFormed, fun isOk => ?_⟩
  exact (evaluate_isOk_iff keeps texts _ wellFormed).mp isOk _ (by simp) obstructed

/-- A text counts as a number, though no number can be read from it. -/
theorem evaluate_separatedNumber :
    evaluate {} {} [("count", .text "\u001c12")] (.ofTokens [("count", ["numeric", "min:1"])]) =
      .error .badValue := by
  have resolved := RuleEntry.resolve_tokens ({} : Engine).closures
    [("count", .text "\u001c12")] ["numeric", "min:1"]
  rw [evaluate, RuleTable.ofTokens, List.map_cons, checkTable, resolved]
  rfl

end Engine
end RecordSchema
