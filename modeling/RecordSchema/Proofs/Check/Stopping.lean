import Mathlib
import RecordSchema.Proofs.Check.Restriction
import RecordSchema.Proofs.Check.RuleNames

/-!
# Stopping at the first failure

An engine that stops early, or a field with `bail` among its rules, leaves out all messages about a
field behind the first.  The verdict, the data and the fields that fail stay the same.
-/

namespace RecordSchema

/-! ## Reports row by row -/

namespace Report

/-- Messages about the field that a report lists last go behind those that are there. -/
theorem addErrors_last {report : Report} {errors : Fields (List Value) Name} {field : Name}
    {listed : List Value} (fresh : errors.get? field = none) (invalid : report.valid = false)
    (last : report.errors = errors ++ [(field, listed)]) (added : List Value) :
    report.addErrors field added =
      { report with errors := errors ++ [(field, listed ++ added)] } := by
  induction added generalizing report listed with
  | nil =>
      simp [addErrors, ← last]
  | cons message rest inductionHypothesis =>
      have about : report.messagesOf field = listed := by
        simp [messagesOf, last, fresh, Fields.get?_cons]
      have put : (report.addError field message).errors =
          errors ++ [(field, listed ++ [message])] := by
        simp [addError, about, last, Fields.put_append fresh, Fields.put]
      have later := @inductionHypothesis (report.addError field message) _ rfl put
      simpa [addErrors, addError, invalid] using later

/-- Messages about a field that a report does not list yet are listed at its end, if there are
any. -/
theorem addErrors_fresh {report : Report} {field : Name}
    (fresh : report.errors.get? field = none) (added : List Value) :
    report.addErrors field added =
      match added with
      | [] => report
      | added => { report with valid := false, errors := report.errors ++ [(field, added)] } := by
  cases added with
  | nil =>
      rfl
  | cons message rest =>
      have nothing : report.messagesOf field = [] := by
        simp [messagesOf, fresh]
      have put : (report.addError field message).errors =
          report.errors ++ [(field, [message])] := by
        rw [addError, nothing, Fields.put_of_get?_eq_none _ fresh]
        rfl
      exact addErrors_last fresh rfl put rest

end Report

namespace Engine

variable {engine : Engine} {wording : Message.Wording} {record : Fields Value} {table : RuleTable}

/-- The messages in the rows of a table, under the names of the rows that have any. -/
def errorsIn (engine : Engine) (wording : Message.Wording) (record : Fields Value)
    (table : RuleTable) : Fields (List Value) Name :=
  table.filterMap fun row =>
    match (engine.foundOn wording record row).filterMap Finding.message? with
    | [] => none
    | messages => some (row.1, messages)

theorem of_mem_errorsIn {entry : Name × List Value}
    (member : entry ∈ engine.errorsIn wording record table) :
    ∃ row ∈ table, row.1 = entry.1 ∧
      (engine.foundOn wording record row).filterMap Finding.message? = entry.2 ∧ entry.2 ≠ [] := by
  obtain ⟨row, isRow, isEntry⟩ := List.mem_filterMap.mp member
  split at isEntry
  · cases isEntry
  · next nonempty =>
      cases isEntry
      exact ⟨row, isRow, rfl, rfl, nonempty⟩

private theorem get?_errorsIn_of_mem {field : Name}
    (listed : field ∈ (engine.errorsIn wording record table).names) :
    ∃ message more,
      (engine.errorsIn wording record table).get? field = some (message :: more) := by
  cases found : (engine.errorsIn wording record table).get? field with
  | none =>
      have absent := Fields.get?_eq_none_iff.mp found field listed
      simp at absent
  | some messages =>
      obtain ⟨key, _, member⟩ := Fields.mem_of_get?_eq_some found
      obtain ⟨_, _, _, _, nonempty⟩ := of_mem_errorsIn member
      obtain ⟨message, more, isCons⟩ := List.exists_cons_of_ne_nil nonempty
      exact ⟨message, more, congrArg some isCons⟩

/-- Where no two rows are about the same field, a report lists the messages row by row. -/
theorem foldl_note_rows (report : Report) (distinct : table.Distinct)
    (fresh : ∀ field ∈ table.names, report.errors.get? field = none) :
    (engine.findingsIn wording record table).foldl note report =
      { report with
        valid := report.valid && (engine.errorsIn wording record table).isEmpty
        errors := report.errors ++ engine.errorsIn wording record table } := by
  induction table generalizing report with
  | nil =>
      simp [findingsIn, errorsIn]
  | cons row rest inductionHypothesis =>
      obtain ⟨alone, restDistinct⟩ := Fields.distinct_cons.mp distinct
      have freshRow := fresh row.1 (by simp)
      have freshRest : ∀ field ∈ Fields.names rest, report.errors.get? field = none :=
        fun field member => fresh field (by simp [member])
      rw [findingsIn, List.flatMap_cons, List.foldl_append, foldl_note_row,
        Report.addErrors_fresh freshRow, ← findingsIn]
      cases messages : (engine.foundOn wording record row).filterMap Finding.message? with
      | nil =>
          rw [inductionHypothesis _ restDistinct freshRest]
          simp [errorsIn, messages]
      | cons message more =>
          have freshNow : ∀ field ∈ Fields.names rest,
              Fields.get? (report.errors ++ [(row.1, message :: more)]) field = none := by
            intro field member
            have differs : (field == row.1) = false := by
              rw [BEq.comm]
              exact alone field member
            simp [freshRest field member, Fields.get?_cons, differs]
          rw [inductionHypothesis _ restDistinct freshNow]
          simp [errorsIn, messages]

/-- The report on a table in which no two rows are about the same field. -/
theorem reportOf_eq (distinct : table.Distinct) :
    reportOf record table (engine.findingsIn wording record table) =
      { valid := (engine.errorsIn wording record table).isEmpty
        errors := engine.errorsIn wording record table
        data := if (engine.errorsIn wording record table).isEmpty then covered record table
          else record } := by
  have noted := @foldl_note_rows engine wording record table {} distinct fun _ _ => rfl
  simp [reportOf, noted]

/-! ## Walks that stop -/

/-- What is found up to the first rule that is not met. -/
def upToFirst : List Finding → List Finding
  | [] => []
  | .skipped rule :: rest => .skipped rule :: upToFirst rest
  | .failed message :: _ => [.failed message]

private theorem filterMap_upToFirst (found : List Finding) :
    (upToFirst found).filterMap Finding.message? =
      (found.filterMap Finding.message?).take 1 := by
  induction found with
  | nil =>
      rfl
  | cons finding rest inductionHypothesis =>
      cases finding with
      | skipped rule =>
          exact inductionHypothesis
      | failed message =>
          simp [upToFirst, Finding.message?]

private theorem walk_stopsEarly {call : Call} {runs : Bool} {rules : List Rule.Invocation}
    {found : List Finding}
    (finished : { engine with stopsEarly := false }.walk wording call runs rules = .done found) :
    { engine with stopsEarly := true }.walk wording call runs rules = .done (upToFirst found) := by
  induction rules generalizing found with
  | nil =>
      cases finished
      rfl
  | cons rule rest inductionHypothesis =>
      have same : { engine with stopsEarly := true }.verdict wording call runs rule =
          { engine with stopsEarly := false }.verdict wording call runs rule := rfl
      rw [walk_cons] at finished ⊢
      rw [same]
      cases isVerdict : { engine with stopsEarly := false }.verdict wording call runs rule with
      | passes =>
          rw [isVerdict] at finished
          exact inductionHypothesis finished
      | unknown =>
          simp only [isVerdict] at finished ⊢
          by_cases strict : engine.strict = true
          · rw [if_pos strict] at finished
            cases finished
          · rw [if_neg strict] at finished ⊢
            obtain ⟨others, rfl, walked⟩ := lift_cons_eq_done finished
            rw [inductionHypothesis walked]
            rfl
      | fails text =>
          simp only [isVerdict] at finished
          by_cases bails : (false || call.ruleNames.contains "bail") = true
          · rw [if_pos bails] at finished
            cases finished
            rfl
          · rw [if_neg bails] at finished
            obtain ⟨others, rfl, _⟩ := lift_cons_eq_done finished
            rfl
      | breaks error =>
          rw [isVerdict] at finished
          cases finished

/-! ## Rows and tables -/

private theorem findingsOn_stopsEarly {row : Name × List RuleEntry} {found : List Finding}
    (finished : { engine with stopsEarly := false }.findingsOn wording record row = .ok found) :
    { engine with stopsEarly := true }.findingsOn wording record row = .ok (upToFirst found) := by
  obtain ⟨tokens, resolved, walked⟩ := findingsOn_eq_ok_iff.mp finished
  exact findingsOn_eq_ok_iff.mpr ⟨tokens, resolved, walk_stopsEarly walked⟩

/-- An engine that stops early reports the first message about each field that fails. -/
theorem errorsIn_stopsEarly
    (finishes : ∀ row ∈ table, { engine with stopsEarly := false }.Finishes wording record row) :
    { engine with stopsEarly := true }.errorsIn wording record table =
      ({ engine with stopsEarly := false }.errorsIn wording record table).map
        fun entry : Name × List Value => (entry.1, entry.2.take 1) := by
  induction table with
  | nil =>
      rfl
  | cons row rest inductionHypothesis =>
      obtain ⟨⟨found, isFound⟩, restFinishes⟩ := List.forall_mem_cons.mp finishes
      have later := inductionHypothesis restFinishes
      simp only [errorsIn] at later ⊢
      rw [List.filterMap_cons, List.filterMap_cons, foundOn, foundOn, isFound,
        findingsOn_stopsEarly isFound, later]
      simp only [filterMap_upToFirst]
      cases found.filterMap Finding.message? with
      | nil =>
          rfl
      | cons message more =>
          rfl

/-! ## The mark that makes a field stop early -/

/-- A field stops at the first failure with `bail`, and an engine that stops early does so without
it. -/
theorem checkField_withoutBail (standard : engine.checks = Check.standard) {field : Name}
    {tokens : List String} (stops : engine.Stops (callOn record field tokens)) :
    { engine with stopsEarly := true }.checkField wording record field
        (tokens.filter (· != "bail")) =
      engine.checkField wording record field tokens := by
  have stays (token : String) (other : (Rule.parse token).name ≠ "bail") :
      (token != "bail") = true := by
    rw [bne_iff_ne]
    rintro rfl
    exact other rfl
  have sameRuns := runsOn_filter record field tokens
    fun token named => stays token (by simp [named])
  have sameNumeric := anyNumeric_filter record field tokens
    fun token numeric => stays token fun isBail => by
      rw [isBail] at numeric
      exact absurd numeric (by decide)
  have sameRules : ((tokens.filter (· != "bail")).map Rule.parse).filter
        (fun rule => !markers.contains rule.name) =
      (tokens.map Rule.parse).filter fun rule => !markers.contains rule.name := by
    rw [List.filter_map, List.filter_map, List.filter_filter]
    congr 1
    refine List.filter_congr fun token _ => ?_
    by_cases isBail : token = "bail"
    · subst isBail
      rfl
    · simp [isBail]
  calc { engine with stopsEarly := true }.checkField wording record field
        (tokens.filter (· != "bail"))
    _ = { engine with stopsEarly := true }.walk wording
          (callOn record field (tokens.filter (· != "bail")))
          (runsOn record field (callOn record field tokens).ruleNames)
          (tokens.map Rule.parse) := by
        rw [← sameRuns, ← walk_filter_markers (tokens.map Rule.parse), ← sameRules,
          walk_filter_markers]
        rfl
    _ = engine.checkField wording record field tokens :=
        walk_renamed standard (callOn record field tokens) sameNumeric
          (iff_of_true (Or.inl rfl) stops) _

private theorem findingsOn_withoutBail (standard : engine.checks = Check.standard)
    {row : Name × List RuleEntry} (stops : engine.stopsEarly = true ∨ .token "bail" ∈ row.2) :
    { engine with stopsEarly := true }.findingsOn wording record
        (row.1, row.2.filterMap (RuleEntry.restrict? (· != "bail"))) =
      engine.findingsOn wording record row := by
  rw [findingsOn, findingsOn, RuleEntry.resolve_restrict]
  cases resolved : RuleEntry.resolve engine.closures record row.2 with
  | error error =>
      rfl
  | ok tokens =>
      have stopsHere : engine.Stops (callOn record row.1 tokens) := by
        refine stops.imp_right fun marked => ?_
        have member := RuleEntry.mem_resolve resolved marked
        rw [callOn, List.map_map]
        exact List.mem_map.mpr ⟨"bail", member, rfl⟩
      simp only [Outcome.map_ok, Outcome.ok_bind, checkField_withoutBail standard stopsHere]

/-- Where every field stops at the first failure, `bail` makes no difference to an engine that stops
early. -/
theorem evaluate_withoutBail (engine : Engine) (standard : engine.checks = Check.standard)
    (stops : ∀ row ∈ table, engine.stopsEarly = true ∨ .token "bail" ∈ row.2) :
    { engine with stopsEarly := true }.evaluate wording record (table.restrict (· != "bail")) =
      engine.evaluate wording record table :=
  evaluate_mapRows _ fun row member =>
    congrArg _ (findingsOn_withoutBail standard (stops row member))

/-- Somewhere among the entries of each field `bail` has been added. -/
inductive BailAdded : RuleTable → RuleTable → Prop
  | nil : BailAdded [] []
  | cons {field : Name} {before after : List RuleEntry} {rest added : RuleTable} :
      BailAdded rest added →
      BailAdded ((field, before ++ after) :: rest)
        ((field, before ++ .token "bail" :: after) :: added)

private theorem BailAdded.mem {added : RuleTable} (isAdded : BailAdded table added) :
    ∀ row ∈ added, .token "bail" ∈ row.2 := by
  induction isAdded with
  | nil =>
      exact List.forall_mem_nil _
  | cons _ inductionHypothesis =>
      exact List.forall_mem_cons.mpr ⟨by simp, inductionHypothesis⟩

private theorem BailAdded.restrict_eq {added : RuleTable} (isAdded : BailAdded table added) :
    added.restrict (· != "bail") = table.restrict (· != "bail") := by
  induction isAdded with
  | nil =>
      rfl
  | cons _ inductionHypothesis =>
      simp only [RuleTable.restrict, List.map_cons] at inductionHypothesis ⊢
      rw [inductionHypothesis]
      simp [RuleEntry.restrict?]

private theorem evaluate_bailAdded (engine : Engine) (standard : engine.checks = Check.standard)
    {added : RuleTable} (isAdded : BailAdded table added) :
    engine.evaluate wording record added =
      { engine with stopsEarly := true }.evaluate wording record table := by
  rw [← evaluate_withoutBail engine standard fun row member => Or.inr (isAdded.mem row member),
    isAdded.restrict_eq]
  exact evaluate_withoutBail { engine with stopsEarly := true } standard
    fun _ _ => Or.inl rfl

/-- Where a table is checked to the end, an engine that stops early gives the same verdict and the
same data, and lists the same fields with the first message about each.  With the standard checks,
`bail` on every field leads to just this report. -/
theorem evaluate_stopsEarly (engine : Engine) (distinct : table.Distinct) {whole : Report}
    (evaluated : { engine with stopsEarly := false }.evaluate wording record table = .ok whole) :
    ∃ first, { engine with stopsEarly := true }.evaluate wording record table = .ok first ∧
      first.valid = whole.valid ∧ first.data = whole.data ∧
      first.errors.names = whole.errors.names ∧
      (∀ field ∈ whole.errors.names, ∃ message,
        whole.firstError? field = some message ∧ first.messagesOf field = [message]) ∧
      (engine.checks = Check.standard → ∀ added, BailAdded table added →
        ∀ stops,
          { engine with stopsEarly := stops }.evaluate wording record added = .ok first) := by
  obtain ⟨finishes, rfl⟩ := evaluate_eq_ok_iff.mp evaluated
  have finishesEarly : ∀ row ∈ table,
      { engine with stopsEarly := true }.Finishes wording record row := by
    intro row member
    obtain ⟨found, isFound⟩ := finishes row member
    exact ⟨upToFirst found, findingsOn_stopsEarly isFound⟩
  have stopped := evaluate_eq_ok_iff.mpr ⟨finishesEarly, rfl⟩
  refine ⟨_, stopped, ?_⟩
  have bailed (standard : engine.checks = Check.standard) (added : RuleTable)
      (isAdded : BailAdded table added) (stops : Bool) :=
    (evaluate_bailAdded { engine with stopsEarly := stops } standard isAdded).trans stopped
  simp only [reportOf_eq distinct, errorsIn_stopsEarly finishes] at bailed ⊢
  refine ⟨by simp, by simp, by simp, ?_, bailed⟩
  intro field listed
  obtain ⟨message, more, found⟩ := get?_errorsIn_of_mem listed
  refine ⟨message, ?_, ?_⟩
  · simp [Report.firstError?, Report.messagesOf, found]
  · rw [Report.messagesOf, Fields.get?_map_values _ (List.take 1), found]
    rfl

/-- A list where a text that is a number is wanted. -/
theorem evaluate_stopsEarly_code :
    let wording : Message.Wording :=
      { messages := .map [("string", .text "No text"), ("numeric", .text "No number")] }
    let table : RuleTable := [(.text "code", [.token "string", .token "numeric"])]
    table.Distinct ∧
      ∃ whole, evaluate { stopsEarly := false } wording [("code", .list [])] table = .ok whole ∧
        whole.errors = [(.text "code", [.text "No text", .text "No number"])] ∧
        ∃ first, evaluate { stopsEarly := true } wording [("code", .list [])] table = .ok first ∧
          first.valid = whole.valid ∧ first.data = whole.data ∧
          first.errors.names = whole.errors.names ∧
          (∀ field ∈ whole.errors.names, ∃ message,
            whole.firstError? field = some message ∧ first.messagesOf field = [message]) ∧
          (Check.standard = Check.standard → ∀ added, BailAdded table added → ∀ stops,
            evaluate { stopsEarly := stops } wording [("code", .list [])] added = .ok first) := by
  intro wording table
  have distinct : table.Distinct := by
    simp [table, Fields.Distinct]
  have whole : evaluate { stopsEarly := false } wording [("code", .list [])] table = .ok {
      valid := false
      errors := [(.text "code", [.text "No text", .text "No number"])]
      data := [("code", .list [])] } := by
    cbv
  exact ⟨distinct, _, whole, rfl, evaluate_stopsEarly {} distinct whole⟩

end Engine
end RecordSchema
