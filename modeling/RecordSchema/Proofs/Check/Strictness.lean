import RecordSchema.Proofs.Check.Restriction
import RecordSchema.Proofs.Check.RuleNames
import RecordSchema.Proofs.Check.UnknownRules

/-!
# Strict and lenient engines

A lenient engine does what a strict one does once the tokens of unknown rules are taken out of the
table.  Taking them out changes nothing else, although the rules of a field know of each other: the
rules that others look for are all known.
-/

namespace RecordSchema.Engine

variable {engine : Engine} {wording : Message.Wording} {call : Call} {runs : Bool}
  {record : Fields Value} {table : RuleTable}

/-! ## Walks -/

def failuresOf (found : List Finding) : List Finding :=
  found.filter fun finding => finding.message?.isSome

private theorem filterMap_failuresOf (found : List Finding) :
    (failuresOf found).filterMap Finding.message? = found.filterMap Finding.message? := by
  induction found with
  | nil =>
      rfl
  | cons finding rest inductionHypothesis =>
      cases finding with
      | skipped rule =>
          exact inductionHypothesis
      | failed message =>
          exact congrArg (Value.text message :: ·) inductionHypothesis

/-- A strict walk through the known rules fails where a lenient walk through all rules does. -/
theorem walk_strict (rules : List Rule.Invocation) :
    { engine with strict := true }.walk wording call runs
        (rules.filter fun rule => engine.knows rule.name) =
      ({ engine with strict := false }.walk wording call runs rules).lift failuresOf := by
  induction rules with
  | nil =>
      rfl
  | cons rule rest inductionHypothesis =>
      have sameVerdict : { engine with strict := true }.verdict wording call runs rule =
          { engine with strict := false }.verdict wording call runs rule := rfl
      by_cases known : engine.knows rule.name = true
      · rw [List.filter_cons_of_pos (by simpa using known), walk_cons, walk_cons, sameVerdict,
          inductionHypothesis]
        cases isVerdict : { engine with strict := false }.verdict wording call runs rule with
        | unknown =>
            have unknown : engine.knows rule.name = false := verdict_eq_unknown_iff.mp isVerdict
            rw [known] at unknown
            cases unknown
        | fails text =>
            dsimp only
            split
            · rfl
            · rfl
        | _ =>
            rfl
      · have unknown : { engine with strict := false }.verdict wording call runs rule = .unknown :=
          verdict_eq_unknown_iff.mpr (Bool.of_not_eq_true known)
        rw [List.filter_cons_of_neg (by simpa using known), inductionHypothesis, walk_cons, unknown]
        rfl

/-- A strict walk that comes to an end has skipped nothing, and a lenient walk goes the same way. -/
theorem walk_lenient {rules : List Rule.Invocation} {found : List Finding}
    (finished : { engine with strict := true }.walk wording call runs rules = .done found) :
    { engine with strict := false }.walk wording call runs rules = .done found ∧
      ∀ finding ∈ found, finding.message?.isSome = true := by
  induction rules generalizing found with
  | nil =>
      cases finished
      exact ⟨rfl, List.forall_mem_nil _⟩
  | cons rule rest inductionHypothesis =>
      have sameVerdict : { engine with strict := false }.verdict wording call runs rule =
          { engine with strict := true }.verdict wording call runs rule := rfl
      rw [walk_cons] at finished ⊢
      rw [sameVerdict]
      cases isVerdict : { engine with strict := true }.verdict wording call runs rule with
      | passes =>
          rw [isVerdict] at finished
          exact inductionHypothesis finished
      | unknown =>
          rw [isVerdict] at finished
          cases finished
      | fails text =>
          simp only [isVerdict] at finished ⊢
          by_cases stops : (engine.stopsEarly || call.ruleNames.contains "bail") = true
          · rw [if_pos stops] at finished ⊢
            cases finished
            exact ⟨rfl, by simp [Finding.message?]⟩
          · rw [if_neg stops] at finished ⊢
            obtain ⟨others, rfl, walked⟩ := lift_cons_eq_done finished
            obtain ⟨walkedLenient, messages⟩ := inductionHypothesis walked
            rw [walkedLenient]
            exact ⟨rfl, List.forall_mem_cons.mpr ⟨rfl, messages⟩⟩
      | breaks error =>
          rw [isVerdict] at finished
          cases finished

/-- A strict walk that comes to an end and does not stop has come to no unknown rule. -/
theorem knows_of_walk (goesOn : ¬ engine.Stops call) {rules : List Rule.Invocation}
    {found : List Finding}
    (finished : { engine with strict := true }.walk wording call runs rules = .done found) :
    ∀ rule ∈ rules, engine.knows rule.name = true := by
  induction rules generalizing found with
  | nil =>
      exact List.forall_mem_nil _
  | cons rule rest inductionHypothesis =>
      rw [walk_cons] at finished
      have known
          (isKnown : { engine with strict := true }.verdict wording call runs rule ≠ .unknown)
          {others : List Finding}
          (walked : { engine with strict := true }.walk wording call runs rest = .done others) :
          ∀ other ∈ rule :: rest, engine.knows other.name = true := by
        refine List.forall_mem_cons.mpr ⟨?_, inductionHypothesis walked⟩
        exact Bool.of_not_eq_false fun unknown => isKnown (verdict_eq_unknown_iff.mpr unknown)
      cases isVerdict : { engine with strict := true }.verdict wording call runs rule with
      | passes =>
          simp only [isVerdict] at finished
          exact known (by simp [isVerdict]) finished
      | unknown =>
          simp only [isVerdict] at finished
          cases finished
      | fails text =>
          have continues : ¬ (engine.stopsEarly || call.ruleNames.contains "bail") = true := by
            simpa [Stops] using goesOn
          simp only [isVerdict] at finished
          rw [if_neg continues] at finished
          obtain ⟨others, _, walked⟩ := lift_cons_eq_done finished
          exact known (by simp [isVerdict]) walked
      | breaks error =>
          simp only [isVerdict] at finished
          cases finished

/-- A walk on which each check has an answer and each message can be written ends in an error only
because of an unknown rule. -/
theorem unknown_of_answers (texts : wording.IsTexts) (templates : engine.templates.AreTexts)
    {name : String} (named : call.field = .text name) {rules : List Rule.Invocation}
    (answers : ∀ rule ∈ rules, ∀ check, engine.checks.get? rule.name = some check →
      engine.Asks runs rule → Call.Answers check { call with parameters := rule.parameters })
    {error : Error} (failed : (engine.walk wording call runs rules).failure = some error) :
    ∃ rule field, error = .ruleUnknown rule field := by
  induction rules with
  | nil =>
      cases failed
  | cons rule rest inductionHypothesis =>
      obtain ⟨answersRule, answersRest⟩ := List.forall_mem_cons.mp answers
      rw [walk_cons] at failed
      cases isVerdict : engine.verdict wording call runs rule with
      | passes =>
          simp only [isVerdict] at failed
          exact inductionHypothesis answersRest failed
      | unknown =>
          simp only [isVerdict] at failed
          split at failed
          · cases failed
            exact ⟨_, _, rfl⟩
          · exact inductionHypothesis answersRest failed
      | fails text =>
          simp only [isVerdict] at failed
          split at failed
          · cases failed
          · exact inductionHypothesis answersRest failed
      | breaks other =>
          obtain ⟨check, known, asks, unanswered | unwritten⟩ := breaks_cases isVerdict
          · obtain ⟨answer, answered⟩ := answersRule check known asks
            rw [unanswered] at answered
            cases answered
          · obtain ⟨text, written⟩ := texts.message templates
              { call with parameters := rule.parameters } named rule.name
            rw [unwritten] at written
            cases written

/-! ## Rows -/

/-- A token stands for a rule that is known. -/
def knowsToken (engine : Engine) (token : String) : Bool :=
  engine.knows (Rule.parse token).name

private theorem checkField_strict (standard : engine.checks = Check.standard) (field : Name)
    (tokens : List String) :
    { engine with strict := true }.checkField wording record field
        (tokens.filter engine.knowsToken) =
      ({ engine with strict := false }.checkField wording record field tokens).lift
        failuresOf := by
  have stays (name : String) (isKnown : Check.standard.has name || markers.contains name)
      (token : String) (named : (Rule.parse token).name = name) :
      engine.knowsToken token = true := by
    rw [knowsToken, named, knows, standard]
    exact isKnown
  have sameRuns := runsOn_filter record field tokens (stays "nullable" (by decide))
  have sameBail := mem_ruleNames_filter record field tokens (stays "bail" (by decide))
  have sameNumeric := anyNumeric_filter record field tokens fun token numeric => by
    have known : ∀ name ∈ Call.numericRules,
        (Check.standard.has name || markers.contains name) = true := by
      decide
    exact stays _ (known _ numeric) token rfl
  have sameRules : (tokens.filter engine.knowsToken).map Rule.parse =
      (tokens.map Rule.parse).filter fun rule => engine.knows rule.name := by
    rw [List.filter_map]
    rfl
  calc { engine with strict := true }.checkField wording record field
        (tokens.filter engine.knowsToken)
    _ = { engine with strict := true }.walk wording
          (callOn record field (tokens.filter engine.knowsToken))
          (runsOn record field (callOn record field tokens).ruleNames)
          ((tokens.map Rule.parse).filter fun rule => engine.knows rule.name) := by
        rw [← sameRuns, ← sameRules]
        rfl
    _ = { engine with strict := true }.walk wording (callOn record field tokens)
          (runsOn record field (callOn record field tokens).ruleNames)
          ((tokens.map Rule.parse).filter fun rule => engine.knows rule.name) := by
        refine @walk_renamed { engine with strict := true } wording _ standard
          (callOn record field tokens) engine.stopsEarly _ sameNumeric ?_ _
        exact or_congr Iff.rfl sameBail
    _ = ({ engine with strict := false }.checkField wording record field tokens).lift failuresOf :=
        walk_strict _

/-- A field has the same messages to a lenient engine as it has to a strict one without the tokens
of unknown rules. -/
theorem findingsOn_strict (standard : engine.checks = Check.standard)
    (row : Name × List RuleEntry) :
    ({ engine with strict := true }.findingsOn wording record
          (row.1, row.2.filterMap (RuleEntry.restrict? engine.knowsToken))).map
        (List.filterMap Finding.message?) =
      ({ engine with strict := false }.findingsOn wording record row).map
        (List.filterMap Finding.message?) := by
  rw [findingsOn, findingsOn, RuleEntry.resolve_restrict]
  cases RuleEntry.resolve engine.closures record row.2 with
  | error error =>
      rfl
  | ok tokens =>
      simp only [Outcome.map_ok, Outcome.ok_bind, checkField_strict standard, Change.lift]
      cases ({ engine with strict := false }.checkField wording record row.1 tokens).failure with
      | none =>
          simp [filterMap_failuresOf]
      | some error =>
          rfl

/-- A lenient engine does what a strict one does without the tokens of unknown rules. -/
theorem evaluate_lenient (standard : engine.checks = Check.standard) :
    { engine with strict := false }.evaluate wording record table =
      { engine with strict := true }.evaluate wording record (table.restrict engine.knowsToken) :=
  (evaluate_mapRows _ fun row _ => findingsOn_strict standard row).symm

private theorem findingsOn_lenient {row : Name × List RuleEntry} {found : List Finding}
    (finished : { engine with strict := true }.findingsOn wording record row = .ok found) :
    { engine with strict := false }.findingsOn wording record row = .ok found ∧
      ∀ finding ∈ found, finding.message?.isSome = true := by
  obtain ⟨tokens, resolved, walked⟩ := findingsOn_eq_ok_iff.mp finished
  obtain ⟨walkedLenient, messages⟩ := walk_lenient walked
  exact ⟨findingsOn_eq_ok_iff.mpr ⟨tokens, resolved, walkedLenient⟩, messages⟩

/-- Where nothing has been skipped, nothing is logged. -/
theorem logOf_eq_nil {found : Fields Finding Name}
    (messages : ∀ entry ∈ found, entry.2.message?.isSome = true) : logOf found = [] := by
  refine List.filterMap_eq_nil_iff.mpr ?_
  rintro ⟨field, finding⟩ member
  have isMessage := messages _ member
  cases finding with
  | skipped rule =>
      cases isMessage
  | failed message =>
      rfl

/-- Where a strict engine gives a report, a lenient one gives the same and logs nothing. -/
theorem evaluateValue_lenient {report : Report}
    (evaluated : { engine with strict := true }.evaluate wording record table = .ok report) :
    { engine with strict := false }.evaluateValue wording (.map record) table =
      (.ok report, []) := by
  obtain ⟨finishes, rfl⟩ := evaluate_eq_ok_iff.mp evaluated
  have sameFound : ∀ row ∈ table,
      { engine with strict := false }.foundOn wording record row =
          { engine with strict := true }.foundOn wording record row ∧
        ∀ finding ∈ { engine with strict := true }.foundOn wording record row,
          finding.message?.isSome = true := by
    intro row member
    obtain ⟨found, isFound⟩ := finishes row member
    obtain ⟨isFoundLenient, messages⟩ := findingsOn_lenient isFound
    rw [foundOn, foundOn, isFound, isFoundLenient]
    exact ⟨rfl, messages⟩
  have finishesLenient : ∀ row ∈ table,
      { engine with strict := false }.Finishes wording record row := by
    intro row member
    obtain ⟨found, isFound⟩ := finishes row member
    exact ⟨found, (findingsOn_lenient isFound).1⟩
  have sameFindings : { engine with strict := false }.findingsIn wording record table =
      { engine with strict := true }.findingsIn wording record table := by
    rw [findingsIn, findingsIn, List.flatMap_def, List.flatMap_def]
    refine congrArg List.flatten (List.map_congr_left fun row member => ?_)
    rw [(sameFound row member).1]
  have messages : ∀ entry ∈ { engine with strict := true }.findingsIn wording record table,
      entry.2.message?.isSome = true := by
    intro entry isEntry
    obtain ⟨row, member, isFound⟩ := List.mem_flatMap.mp isEntry
    obtain ⟨finding, isFinding, rfl⟩ := List.mem_map.mp isFound
    exact (sameFound row member).2 finding isFinding
  rw [evaluateValue, checkTable_eq_done finishesLenient, ← findingsIn, sameFindings]
  simp only [conclude, Change.done, logOf_eq_nil messages]

/-- The conditions on a field and the checks that run on it come to an answer. -/
def AnswersOn (engine : Engine) (record : Fields Value) (row : Name × List RuleEntry) : Prop :=
  ∃ tokens, RuleEntry.resolve engine.closures record row.2 = .ok tokens ∧
    let call := callOn record row.1 tokens
    ∀ token ∈ tokens, ∀ check, engine.checks.get? (Rule.parse token).name = some check →
      engine.Asks (runsOn record row.1 call.ruleNames) (Rule.parse token) →
        Call.Answers check { call with parameters := (Rule.parse token).parameters }

def BailsOn (engine : Engine) (record : Fields Value) (row : Name × List RuleEntry) : Prop :=
  ∃ tokens, RuleEntry.resolve engine.closures record row.2 = .ok tokens ∧
    "bail" ∈ (callOn record row.1 tokens).ruleNames

/-- A field that does not stop at the first failure and is checked to the end has no unknown
rules. -/
theorem not_unknownOn_of_finishes (goesOn : engine.stopsEarly = false)
    {row : Name × List RuleEntry} (unmarked : ¬ engine.BailsOn record row)
    (finishes : { engine with strict := true }.Finishes wording record row) :
    ¬ engine.UnknownOn record row := by
  rintro ⟨tokens, resolved, token, member, unknown⟩
  obtain ⟨found, isFound⟩ := finishes
  obtain ⟨others, resolvedAgain, walked⟩ := findingsOn_eq_ok_iff.mp isFound
  cases resolved.symm.trans resolvedAgain
  have continues : ¬ engine.Stops (callOn record row.1 tokens) := by
    rintro (stops | marked)
    · rw [goesOn] at stops
      cases stops
    · exact unmarked ⟨tokens, resolved, marked⟩
  have known := knows_of_walk continues walked _ (List.mem_map_of_mem member)
  rw [unknown] at known
  cases known

/-- Where all checks and conditions have an answer, a field ends in an error only because of an
unknown rule. -/
theorem unknown_of_findingsOn (engine : Engine) (texts : wording.IsTexts)
    (templates : engine.templates.AreTexts)
    {row : Name × List RuleEntry} {name : String} (named : row.1 = .text name)
    (answers : engine.AnswersOn record row) {error : Error}
    (failed : engine.findingsOn wording record row = .error error) :
    ∃ rule field, error = .ruleUnknown rule field := by
  obtain ⟨tokens, resolved, answersTokens⟩ := answers
  rw [findingsOn, resolved, Outcome.ok_bind] at failed
  dsimp only at failed
  split at failed
  · cases failed
  · next error failure =>
      cases failed
      refine unknown_of_answers texts templates named ?_ failure
      intro rule member
      obtain ⟨token, isToken, rfl⟩ := List.mem_map.mp member
      exact answersTokens token isToken

/-- Where no field stops at the first failure and nothing else goes wrong, an unknown rule that
applies to some field keeps a strict engine from a report. -/
theorem complains_of_unknownOn (goesOn : engine.stopsEarly = false)
    (unmarked : ∀ row ∈ table, ¬ engine.BailsOn record row)
    (onlyUnknown : ∀ error,
      { engine with strict := true }.evaluate wording record table = .error error →
        ∃ rule field, error = .ruleUnknown rule field)
    (unknown : ∃ row ∈ table, engine.UnknownOn record row) :
    ∃ rule field, { engine with strict := true }.evaluate wording record table =
      .error (.ruleUnknown rule field) := by
  obtain ⟨row, member, unknown⟩ := unknown
  cases evaluated : { engine with strict := true }.evaluate wording record table with
  | ok report =>
      have finishes := (evaluate_eq_ok_iff.mp evaluated).1 row member
      exact absurd unknown (not_unknownOn_of_finishes goesOn (unmarked row member) finishes)
  | error error =>
      obtain ⟨rule, field, rfl⟩ := onlyUnknown error evaluated
      exact ⟨rule, field, rfl⟩

/-- Strict and lenient engines with the standard checks differ on unknown rules only.  A lenient
engine does what a strict one does without the tokens of unknown rules; in particular it never
complains about these, unless a closure does.  Where a strict engine gives a report, a lenient one
gives the same and logs nothing.  Where no field stops at the first failure and nothing else goes
wrong, a strict engine complains exactly if a rule that applies to some field is unknown, and
nothing else goes wrong where all checks and conditions have an answer. -/
theorem evaluate_strictness (standard : engine.checks = Check.standard)
    (wording : Message.Wording) (record : Fields Value) (table : RuleTable) :
    let strict := { engine with strict := true }
    let lenient := { engine with strict := false }
    (engine.closures.KnowRules record →
      ∀ rule field, lenient.evaluate wording record table ≠ .error (.ruleUnknown rule field)) ∧
    lenient.evaluate wording record table =
      strict.evaluate wording record (table.restrict engine.knowsToken) ∧
    (∀ report, strict.evaluate wording record table = .ok report →
      lenient.evaluateValue wording (.map record) table = (.ok report, [])) ∧
    (engine.closures.KnowRules record → engine.stopsEarly = false →
      (∀ row ∈ table, ¬ engine.BailsOn record row) →
      (∀ error, strict.evaluate wording record table = .error error →
        ∃ rule field, error = .ruleUnknown rule field) →
      ((∃ rule field, strict.evaluate wording record table = .error (.ruleUnknown rule field)) ↔
        ∃ row ∈ table, engine.UnknownOn record row)) ∧
    (wording.IsTexts → engine.templates.AreTexts → (∀ row ∈ table, ∃ name, row.1 = .text name) →
      (∀ row ∈ table, engine.AnswersOn record row) →
      (∀ error, strict.evaluate wording record table = .error error →
        ∃ rule field, error = .ruleUnknown rule field) ∧
      (engine.stopsEarly = false → (∀ row ∈ table, ¬ engine.BailsOn record row) →
        ((∃ rule field, strict.evaluate wording record table =
            .error (.ruleUnknown rule field)) ↔
          ∃ row ∈ table, engine.UnknownOn record row))) := by
  intro strict lenient
  refine ⟨?_, evaluate_lenient standard, fun report => evaluateValue_lenient, ?_, ?_⟩
  · intro closures rule field evaluated
    obtain ⟨isStrict, _⟩ := unknown_of_evaluate lenient standard closures evaluated
    cases isStrict
  · intro closures goesOn unmarked onlyUnknown
    refine ⟨?_, complains_of_unknownOn goesOn unmarked onlyUnknown⟩
    rintro ⟨rule, field, evaluated⟩
    exact (unknown_of_evaluate strict standard closures evaluated).2
  · intro texts templates named answers
    have onlyUnknown : ∀ error, strict.evaluate wording record table = .error error →
        ∃ rule field, error = .ruleUnknown rule field := by
      intro error evaluated
      obtain ⟨row, member, failed⟩ := findingsOn_of_evaluate evaluated
      obtain ⟨name, isName⟩ := named row member
      exact unknown_of_findingsOn strict texts templates isName (answers row member) failed
    refine ⟨onlyUnknown, fun goesOn unmarked => ?_⟩
    refine ⟨?_, complains_of_unknownOn goesOn unmarked onlyUnknown⟩
    rintro ⟨rule, field, evaluated⟩
    obtain ⟨row, member, failed⟩ := findingsOn_of_evaluate evaluated
    obtain ⟨tokens, resolved, _⟩ := answers row member
    exact ⟨row, member, (unknownOn_of_findingsOn strict standard resolved failed).2⟩

/-- A rule that is misspelt keeps a strict engine from a report, and is no rule to a lenient one. -/
theorem evaluate_strictness_misspelt :
    let record : Fields Value := [("age", .int 3)]
    let table : RuleTable := .ofTokens [("age", ["integr", "required"])]
    ({} : Engine).checks = Check.standard ∧
      (∃ rule field, evaluate { strict := true } {} record table =
        .error (.ruleUnknown rule field)) ∧
      evaluate { strict := false } {} record table = .ok { data := [("age", .int 3)] } := by
  intro record table
  obtain ⟨_, restricted, _, _, whereAnswered⟩ :=
    @evaluate_strictness {} rfl {} record table
  have isRow : table = [(.text "age", ["integr", "required"].map .token)] := rfl
  have resolved :
      RuleEntry.resolve ({} : Engine).closures record (["integr", "required"].map .token) =
        .ok ["integr", "required"] :=
    RuleEntry.resolve_tokens _ record ["integr", "required"]
  have unmarked : ∀ row ∈ table, ¬ BailsOn {} record row := by
    rw [isRow, List.forall_mem_singleton]
    rintro ⟨tokens, isTokens, marked⟩
    cases resolved.symm.trans isTokens
    exact absurd marked (by decide)
  have answers : ∀ row ∈ table, AnswersOn {} record row := by
    rw [isRow, List.forall_mem_singleton]
    refine ⟨_, resolved, ?_⟩
    rw [List.forall_mem_cons, List.forall_mem_singleton]
    constructor
    · intro check known
      cases known
    · intro check known _
      cases known
      exact ⟨true, rfl⟩
  have unknown : ∃ row ∈ table, UnknownOn {} record row :=
    ⟨_, List.mem_singleton_self _, _, resolved, "integr", by simp, rfl⟩
  refine ⟨rfl, ?_, ?_⟩
  · have named : ∀ row ∈ table, ∃ name, row.1 = .text name := by
      rw [isRow, List.forall_mem_singleton]
      exact ⟨"age", rfl⟩
    have complains_iff := (whereAnswered Message.Wording.isTexts_empty
      (keepsStandard true false).templates named answers).2 rfl unmarked
    exact complains_iff.mpr unknown
  · exact restricted.trans rfl

end RecordSchema.Engine
