import RecordSchema.Proofs.Check.RuleNames
import RecordSchema.Proofs.Rule.Resolution

/-!
# From rules to reports

What a rule comes to depends on the other rules of its field in two ways only: through the rules
about numbers, and through `nullable`.  A walk is quiet exactly if each of its rules settles, and
without an early stop it reports each rule that is not met.  So a record is valid exactly if every
rule that applies settles.
-/

namespace RecordSchema.Engine

/-- The message about a rule that is not met. -/
def Verdict.message? : Verdict → Option Value
  | .fails message => some (.text message)
  | _ => none

/-- A rule is met or not looked at, or it is unknown and the engine is lenient. -/
def Settles (engine : Engine) (verdict : Verdict) : Prop :=
  verdict = .passes ∨ verdict = .unknown ∧ engine.strict = false

variable {engine : Engine} {wording : Message.Wording} {call : Call} {runs : Bool}
  {record : Fields Value}

theorem not_settles_of_fails {rule : Rule.Invocation}
    (standard : engine.checks.get? rule.name = Check.standard.get? rule.name)
    (failed : engine.Fails call runs rule) :
    ¬ engine.Settles (engine.verdict wording call runs rule) := by
  obtain ⟨⟨unmarked, runsHere⟩, check, known, answer⟩ := failed
  have busy : ¬ (!runs && !engine.implicit.contains rule.name) = true := by
    rcases runsHere with running | implicit
    · simp [running]
    · simp [implicit]
  rw [verdict, if_neg (by simpa using unmarked), standard, known]
  simp only [if_neg busy, answer]
  split <;> simp [Settles]

/-! ## Walks -/

/-- A walk through rules that settle is quiet. -/
theorem walk_of_settles {rules : List Rule.Invocation}
    (settles : ∀ rule ∈ rules, engine.Settles (engine.verdict wording call runs rule)) :
    ∃ found, engine.walk wording call runs rules = .done found ∧
      found.filterMap Finding.message? = [] := by
  induction rules with
  | nil =>
      exact ⟨[], rfl, rfl⟩
  | cons rule rest inductionHypothesis =>
      obtain ⟨settlesHere, settlesRest⟩ := List.forall_mem_cons.mp settles
      obtain ⟨found, walked, quiet⟩ := inductionHypothesis settlesRest
      rw [walk_cons]
      rcases settlesHere with passes | ⟨unknown, lenient⟩
      · rw [passes]
        exact ⟨found, walked, quiet⟩
      · rw [unknown, lenient, walked]
        exact ⟨.skipped rule.name :: found, rfl, quiet⟩

/-- One step of a walk that comes to an end: a rule settles, or it is not met, and the walk ends
there or goes on. -/
theorem walk_cons_done {rule : Rule.Invocation} {rest : List Rule.Invocation}
    {found : List Finding} (finished : engine.walk wording call runs (rule :: rest) = .done found) :
    (engine.Settles (engine.verdict wording call runs rule) ∧
        ∃ others, engine.walk wording call runs rest = .done others ∧
          found.filterMap Finding.message? = others.filterMap Finding.message?) ∨
      ∃ message, engine.verdict wording call runs rule = .fails message ∧
        (engine.Stops call ∧ found = [.failed message] ∨
          ¬ engine.Stops call ∧ ∃ others, engine.walk wording call runs rest = .done others ∧
            found = .failed message :: others) := by
  rw [walk_cons] at finished
  cases isVerdict : engine.verdict wording call runs rule with
  | passes =>
      rw [isVerdict] at finished
      exact Or.inl ⟨Or.inl rfl, found, finished, rfl⟩
  | unknown =>
      simp only [isVerdict] at finished
      by_cases strict : engine.strict = true
      · rw [if_pos strict] at finished
        cases finished
      · rw [if_neg strict] at finished
        obtain ⟨others, rfl, walked⟩ := lift_cons_eq_done finished
        exact Or.inl ⟨Or.inr ⟨rfl, Bool.of_not_eq_true strict⟩, others, walked, rfl⟩
  | fails message =>
      simp only [isVerdict] at finished
      refine Or.inr ⟨message, rfl, ?_⟩
      have stopping : (engine.stopsEarly || call.ruleNames.contains "bail") = true ↔
          engine.Stops call := by
        simp [Stops]
      by_cases stops : engine.Stops call
      · rw [if_pos (stopping.mpr stops)] at finished
        cases finished
        exact Or.inl ⟨stops, rfl⟩
      · rw [if_neg fun ends => stops (stopping.mp ends)] at finished
        obtain ⟨others, rfl, walked⟩ := lift_cons_eq_done finished
        exact Or.inr ⟨stops, others, walked, rfl⟩
  | breaks error =>
      rw [isVerdict] at finished
      cases finished

/-- A walk that comes to an end is quiet and each of its rules settles, or it is not and one of them
is not met. -/
theorem walk_done_cases {rules : List Rule.Invocation} {found : List Finding}
    (finished : engine.walk wording call runs rules = .done found) :
    (found.filterMap Finding.message? = [] ∧
        ∀ rule ∈ rules, engine.Settles (engine.verdict wording call runs rule)) ∨
      (found.filterMap Finding.message? ≠ [] ∧
        ∃ rule ∈ rules, ∃ message, engine.verdict wording call runs rule = .fails message) := by
  induction rules generalizing found with
  | nil =>
      cases finished
      exact Or.inl ⟨rfl, List.forall_mem_nil _⟩
  | cons rule rest inductionHypothesis =>
      rcases walk_cons_done finished with ⟨settles, others, walked, same⟩ | ⟨message, fails, ends⟩
      · rw [same]
        rcases inductionHypothesis walked with ⟨quiet, settlesRest⟩ | ⟨loud, later, member, fails⟩
        · exact Or.inl ⟨quiet, List.forall_mem_cons.mpr ⟨settles, settlesRest⟩⟩
        · exact Or.inr ⟨loud, later, List.mem_cons_of_mem _ member, fails⟩
      · refine Or.inr ⟨?_, rule, List.mem_cons_self, message, fails⟩
        rcases ends with ⟨_, rfl⟩ | ⟨_, others, _, rfl⟩ <;> simp [Finding.message?]

/-- A walk that does not stop early reports each rule that is not met. -/
theorem filterMap_walk (goesOn : ¬ engine.Stops call) {rules : List Rule.Invocation}
    {found : List Finding} (finished : engine.walk wording call runs rules = .done found) :
    found.filterMap Finding.message? =
      rules.filterMap fun rule => (engine.verdict wording call runs rule).message? := by
  induction rules generalizing found with
  | nil =>
      cases finished
      rfl
  | cons rule rest inductionHypothesis =>
      rcases walk_cons_done finished with ⟨settles, others, walked, same⟩ | ⟨message, fails, ends⟩
      · rw [same, inductionHypothesis walked]
        rcases settles with passes | ⟨unknown, _⟩
        · simp [passes, Verdict.message?]
        · simp [unknown, Verdict.message?]
      · rcases ends with ⟨stops, _⟩ | ⟨_, others, walked, rfl⟩
        · exact absurd stops goesOn
        · simp [fails, Verdict.message?, Finding.message?, inductionHypothesis walked]

/-- In a walk that comes to an end and does not stop early, each rule settles or is not met. -/
theorem settles_or_fails (goesOn : ¬ engine.Stops call) {rules : List Rule.Invocation}
    {found : List Finding} (finished : engine.walk wording call runs rules = .done found) :
    ∀ rule ∈ rules, engine.Settles (engine.verdict wording call runs rule) ∨
      ∃ message, engine.verdict wording call runs rule = .fails message := by
  induction rules generalizing found with
  | nil =>
      exact List.forall_mem_nil _
  | cons rule rest inductionHypothesis =>
      rcases walk_cons_done finished with ⟨settles, others, walked, _⟩ | ⟨message, fails, ends⟩
      · exact List.forall_mem_cons.mpr ⟨Or.inl settles, inductionHypothesis walked⟩
      · rcases ends with ⟨stops, _⟩ | ⟨_, others, walked, _⟩
        · exact absurd stops goesOn
        · exact List.forall_mem_cons.mpr ⟨Or.inr ⟨message, fails⟩, inductionHypothesis walked⟩

/-- The messages of a walk are about rules that are not met. -/
theorem fails_of_mem_walk {rules : List Rule.Invocation} {found : List Finding}
    (finished : engine.walk wording call runs rules = .done found) {message : Value}
    (reported : message ∈ found.filterMap Finding.message?) :
    ∃ rule ∈ rules, ∃ text, message = .text text ∧
      engine.verdict wording call runs rule = .fails text := by
  induction rules generalizing found with
  | nil =>
      cases finished
      cases reported
  | cons rule rest inductionHypothesis =>
      have later {others : List Finding}
          (walked : engine.walk wording call runs rest = .done others)
          (member : message ∈ others.filterMap Finding.message?) :
          ∃ other ∈ rule :: rest, ∃ text, message = .text text ∧
            engine.verdict wording call runs other = .fails text := by
        obtain ⟨other, isLater, failed⟩ := inductionHypothesis walked member
        exact ⟨other, List.mem_cons_of_mem _ isLater, failed⟩
      rcases walk_cons_done finished with ⟨_, others, walked, same⟩ | ⟨text, fails, ends⟩
      · exact later walked (same ▸ reported)
      · rcases ends with ⟨_, rfl⟩ | ⟨_, others, walked, rfl⟩
        · exact ⟨rule, List.mem_cons_self, text, List.mem_singleton.mp reported, fails⟩
        · rcases List.mem_cons.mp reported with here | member
          · exact ⟨rule, List.mem_cons_self, text, here, fails⟩
          · exact later walked member

/-! ## Tokens -/

def namesOf (tokens : List String) : List String :=
  (tokens.map Rule.parse).map (·.name)

theorem mem_namesOf {tokens : List String} {name : String} :
    name ∈ namesOf tokens ↔ ∃ token ∈ tokens, (Rule.parse token).name = name := by
  simp [namesOf]

def verdictOn (engine : Engine) (wording : Message.Wording) (record : Fields Value) (field : Name)
    (tokens : List String) (token : String) : Verdict :=
  engine.verdict wording (callOn record field tokens) (runsOn record field (namesOf tokens))
    (Rule.parse token)

/-- The rules that other rules look for. -/
def consulted : List String :=
  "nullable" :: Call.numericRules

/-- What has been added to tokens are no rules that others look for. -/
structure Extends (tokens others : List String) : Prop where
  subset : tokens ⊆ others
  extra : ∀ token ∈ others, token ∈ tokens ∨ (Rule.parse token).name ∉ consulted

theorem extends_of_perm {tokens others : List String} (shuffle : others.Perm tokens) :
    Extends tokens others where
  subset _ member := shuffle.mem_iff.mpr member
  extra _ member := Or.inl (shuffle.mem_iff.mp member)

private theorem Extends.mem_namesOf_iff {tokens others : List String} (more : Extends tokens others)
    {name : String} (isConsulted : name ∈ consulted) :
    name ∈ namesOf others ↔ name ∈ namesOf tokens := by
  rw [mem_namesOf, mem_namesOf]
  constructor
  · rintro ⟨token, member, rfl⟩
    exact ⟨token, (more.extra token member).resolve_right (not_not_intro isConsulted), rfl⟩
  · rintro ⟨token, member, named⟩
    exact ⟨token, more.subset member, named⟩

/-- A token comes to the same among more tokens, if no other rule looks for these. -/
theorem verdictOn_extends (standard : engine.checks = Check.standard) {tokens others : List String}
    (more : Extends tokens others) (field : Name) (token : String) :
    engine.verdictOn wording record field others token =
      engine.verdictOn wording record field tokens token := by
  have sameNumeric : Call.AnyNumeric (namesOf others) ↔ Call.AnyNumeric (namesOf tokens) :=
    exists_congr fun name => and_congr_left fun numeric =>
      more.mem_namesOf_iff (List.mem_cons_of_mem _ numeric)
  have sameNullable : (namesOf others).contains "nullable" =
      (namesOf tokens).contains "nullable" := by
    rw [Bool.eq_iff_iff, List.contains_iff_mem, List.contains_iff_mem]
    exact more.mem_namesOf_iff List.mem_cons_self
  have sameRuns : runsOn record field (namesOf others) = runsOn record field (namesOf tokens) := by
    simp only [runsOn, sameNullable]
  rw [verdictOn, verdictOn, sameRuns]
  exact @verdict_renamed engine wording (callOn record field tokens) _ standard (namesOf others)
    sameNumeric (Rule.parse token)

/-! ## Rows -/

/-- The tokens of a field have been walked through to the end. -/
theorem walked_of_finishes {row : Name × List RuleEntry}
    (finishes : engine.Finishes wording record row) :
    ∃ tokens, RuleEntry.resolve engine.closures record row.2 = .ok tokens ∧
      engine.walk wording (callOn record row.1 tokens) (runsOn record row.1 (namesOf tokens))
        (tokens.map Rule.parse) = .done (engine.foundOn wording record row) := by
  obtain ⟨found, isFound⟩ := finishes
  obtain ⟨tokens, resolved, checked⟩ := findingsOn_eq_ok_iff.mp isFound
  refine ⟨tokens, resolved, ?_⟩
  rw [foundOn, isFound]
  exact checked

def messagesOn (engine : Engine) (wording : Message.Wording) (record : Fields Value)
    (row : Name × List RuleEntry) : List Value :=
  (engine.foundOn wording record row).filterMap Finding.message?

/-- There are no messages about a field exactly if each of its rules settles. -/
theorem messagesOn_eq_nil_iff {row : Name × List RuleEntry} :
    engine.Finishes wording record row ∧ engine.messagesOn wording record row = [] ↔
      ∃ tokens, RuleEntry.resolve engine.closures record row.2 = .ok tokens ∧
        ∀ token ∈ tokens, engine.Settles (engine.verdictOn wording record row.1 tokens token) := by
  constructor
  · rintro ⟨finishes, quiet⟩
    obtain ⟨tokens, resolved, walked⟩ := walked_of_finishes finishes
    refine ⟨tokens, resolved, ?_⟩
    rcases walk_done_cases walked with ⟨_, settles⟩ | ⟨loud, _⟩
    · exact fun token member => settles (Rule.parse token) (List.mem_map_of_mem member)
    · exact absurd quiet loud
  · rintro ⟨tokens, resolved, settles⟩
    have settlesRules : ∀ rule ∈ tokens.map Rule.parse, engine.Settles (engine.verdict wording
        (callOn record row.1 tokens) (runsOn record row.1 (namesOf tokens)) rule) :=
      List.forall_mem_map.mpr settles
    obtain ⟨found, walked, quiet⟩ := walk_of_settles settlesRules
    have isFound : engine.findingsOn wording record row = .ok found :=
      findingsOn_eq_ok_iff.mpr ⟨tokens, resolved, walked⟩
    exact ⟨⟨found, isFound⟩, by rw [messagesOn, foundOn, isFound, quiet]⟩

/-- Where a field does not stop early, the messages about it are those about its rules. -/
theorem messagesOn_eq {row : Name × List RuleEntry} (finishes : engine.Finishes wording record row)
    {tokens : List String} (resolved : RuleEntry.resolve engine.closures record row.2 = .ok tokens)
    (goesOn : ¬ engine.Stops (callOn record row.1 tokens)) :
    engine.messagesOn wording record row =
      tokens.filterMap fun token =>
        (engine.verdictOn wording record row.1 tokens token).message? := by
  obtain ⟨others, resolvedAgain, walked⟩ := walked_of_finishes finishes
  cases resolved.symm.trans resolvedAgain
  rw [messagesOn, filterMap_walk goesOn walked, List.filterMap_map]
  rfl

/-! ## Tables -/

/-- The messages of a report are about rules that are not met. -/
theorem fails_of_mem_messagesOf {table : RuleTable} {report : Report}
    (evaluated : engine.evaluate wording record table = .ok report) {field : Name} {message : Value}
    (reported : message ∈ report.messagesOf field) :
    ∃ row ∈ table, (field == row.1) = true ∧
      ∃ tokens, RuleEntry.resolve engine.closures record row.2 = .ok tokens ∧
      ∃ token ∈ tokens, ∃ text, message = .text text ∧
        engine.verdictOn wording record row.1 tokens token = .fails text := by
  obtain ⟨finishes, rfl⟩ := evaluate_eq_ok_iff.mp evaluated
  rw [(lists_reportOf engine wording record table).messagesOf_eq] at reported
  obtain ⟨row, member, isListed⟩ := List.mem_flatMap.mp reported
  by_cases same : (field == row.1) = true
  · rw [if_pos same] at isListed
    obtain ⟨tokens, resolved, walked⟩ := walked_of_finishes (finishes row member)
    obtain ⟨rule, isRule, failed⟩ := fails_of_mem_walk walked isListed
    obtain ⟨token, isToken, rfl⟩ := List.mem_map.mp isRule
    exact ⟨row, member, same, tokens, resolved, token, isToken, failed⟩
  · rw [if_neg same] at isListed
    cases isListed

/-- Where a field does not stop early, a report has the messages about all rules that are not met,
and each rule settles or is not met. -/
theorem settles_or_reported {table : RuleTable} {report : Report}
    (evaluated : engine.evaluate wording record table = .ok report) {row : Name × List RuleEntry}
    (member : row ∈ table) {tokens : List String}
    (resolved : RuleEntry.resolve engine.closures record row.2 = .ok tokens)
    (goesOn : ¬ engine.Stops (callOn record row.1 tokens)) {token : String}
    (isToken : token ∈ tokens) :
    engine.Settles (engine.verdictOn wording record row.1 tokens token) ∨
      ∃ text, engine.verdictOn wording record row.1 tokens token = .fails text ∧
        .text text ∈ report.messagesOf row.1 := by
  obtain ⟨finishes, rfl⟩ := evaluate_eq_ok_iff.mp evaluated
  obtain ⟨others, resolvedAgain, walked⟩ := walked_of_finishes (finishes row member)
  cases resolved.symm.trans resolvedAgain
  rcases settles_or_fails goesOn walked _ (List.mem_map_of_mem isToken) with settles | ⟨text, fails⟩
  · exact Or.inl settles
  · refine Or.inr ⟨text, fails, ?_⟩
    rw [(lists_reportOf engine wording record table).messagesOf_eq]
    refine List.mem_flatMap.mpr ⟨row, member, ?_⟩
    have isMessage : (engine.verdictOn wording record row.1 tokens token).message? =
        some (.text text) := by
      rw [verdictOn, fails, Verdict.message?]
    rw [if_pos BEq.rfl]
    change Value.text text ∈ engine.messagesOn wording record row
    rw [messagesOn_eq (finishes row member) resolved goesOn]
    exact List.mem_filterMap.mpr ⟨token, isToken, isMessage⟩

/-- A table gives a valid report exactly if each rule that applies settles. -/
theorem evaluate_valid_iff {table : RuleTable} :
    (∃ report, engine.evaluate wording record table = .ok report ∧ report.valid = true) ↔
      ∀ row ∈ table, ∃ tokens, RuleEntry.resolve engine.closures record row.2 = .ok tokens ∧
        ∀ token ∈ tokens, engine.Settles (engine.verdictOn wording record row.1 tokens token) := by
  simp only [← messagesOn_eq_nil_iff]
  constructor
  · rintro ⟨report, evaluated, isValid⟩ row member
    obtain ⟨finishes, rfl⟩ := evaluate_eq_ok_iff.mp evaluated
    have nothing := (lists_reportOf engine wording record table).valid.mp isValid row.1
    have quiet := List.flatMap_eq_nil_iff.mp nothing row member
    rw [if_pos BEq.rfl] at quiet
    exact ⟨finishes row member, quiet⟩
  · intro settles
    have finishes : ∀ row ∈ table, engine.Finishes wording record row :=
      fun row member => (settles row member).1
    refine ⟨_, evaluate_eq_ok_iff.mpr ⟨finishes, rfl⟩, ?_⟩
    refine (lists_reportOf engine wording record table).valid.mpr fun field => ?_
    refine List.flatMap_eq_nil_iff.mpr fun row member => ?_
    split
    · exact (settles row member).2
    · rfl

end RecordSchema.Engine
