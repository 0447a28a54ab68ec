import RecordSchema.Check.Engine
import RecordSchema.Proofs.Name
import RecordSchema.Proofs.Outcome
import RecordSchema.Proofs.Report.Messages

/-!
# Findings row by row

A walk through a rule table is a walk through each of its rows.  It comes to an end exactly if all
of these do, and what it finds is what they find, one behind the other.  So a report lists about
each field what has been found there, and its data are what the record holds under the names in
the table, or the record.
-/

namespace RecordSchema

def Finding.message? : Finding → Option Value
  | .skipped _ => none
  | .failed message => some (.text message)

namespace Engine

/-- What is found on a field that has these entries. -/
def findingsOn (engine : Engine) (wording : Message.Wording) (record : Fields Value)
    (row : Name × List RuleEntry) : Except Error (List Finding) := do
  let tokens ← RuleEntry.resolve engine.closures record row.2
  let found := engine.checkField wording record row.1 tokens
  match found.failure with
  | none => return found.state
  | some error => throw error

/-- What is found on a field, or nothing if checking it ends in an error. -/
def foundOn (engine : Engine) (wording : Message.Wording) (record : Fields Value)
    (row : Name × List RuleEntry) : List Finding :=
  match engine.findingsOn wording record row with
  | .ok found => found
  | .error _ => []

/-- Checking a field ends in no error. -/
def Finishes (engine : Engine) (wording : Message.Wording) (record : Fields Value)
    (row : Name × List RuleEntry) : Prop :=
  ∃ found, engine.findingsOn wording record row = .ok found

variable {engine : Engine} {wording : Message.Wording} {record : Fields Value}

theorem findingsOn_eq_ok_iff {row : Name × List RuleEntry} {found : List Finding} :
    engine.findingsOn wording record row = .ok found ↔
      ∃ tokens, RuleEntry.resolve engine.closures record row.2 = .ok tokens ∧
        engine.checkField wording record row.1 tokens = .done found := by
  rw [findingsOn, Outcome.bind_eq_ok_iff]
  refine exists_congr fun tokens => and_congr_right fun _ => ?_
  obtain ⟨state, failure⟩ := engine.checkField wording record row.1 tokens
  cases failure <;> simp [Change.done]

/-- One step of the walk: the first row is checked, and the others if it finishes. -/
theorem checkTable_cons (row : Name × List RuleEntry) (rest : RuleTable) :
    (∃ found, engine.findingsOn wording record row = .ok found ∧
        engine.checkTable wording record (row :: rest) =
          (engine.checkTable wording record rest).lift (found.map (row.1, ·) ++ ·)) ∨
      ∃ error, engine.findingsOn wording record row = .error error ∧
        (engine.checkTable wording record (row :: rest)).failure = some error := by
  obtain ⟨field, entries⟩ := row
  simp only [findingsOn, checkTable]
  cases resolved : RuleEntry.resolve engine.closures record entries with
  | error error =>
      exact Or.inr ⟨error, rfl, rfl⟩
  | ok tokens =>
      cases failed : (engine.checkField wording record field tokens).failure with
      | none =>
          left
          refine ⟨(engine.checkField wording record field tokens).state, ?_, ?_⟩
          · simp [failed]
          · simp [Change.andThen, Change.lift, failed]
      | some error =>
          right
          refine ⟨error, ?_, ?_⟩
          · simp [failed]
          · simp [Change.andThen, Change.lift, failed]

private theorem finishes_of_checkTable {table : RuleTable}
    (finished : (engine.checkTable wording record table).failure = none) :
    ∀ row ∈ table, engine.Finishes wording record row := by
  induction table with
  | nil =>
      exact List.forall_mem_nil _
  | cons first rest inductionHypothesis =>
      intro row member
      rcases checkTable_cons first rest with ⟨found, here, walked⟩ | ⟨error, _, failed⟩
      · rw [walked] at finished
        rcases List.mem_cons.mp member with same | later
        · rw [same]
          exact ⟨found, here⟩
        · exact inductionHypothesis finished row later
      · rw [failed] at finished
        cases finished

theorem checkTable_eq_done {table : RuleTable}
    (finishes : ∀ row ∈ table, engine.Finishes wording record row) :
    engine.checkTable wording record table =
      .done (table.flatMap fun row => (engine.foundOn wording record row).map (row.1, ·)) := by
  induction table with
  | nil =>
      rfl
  | cons first rest inductionHypothesis =>
      have others := inductionHypothesis fun row member =>
        finishes row (List.mem_cons_of_mem _ member)
      obtain ⟨found, here⟩ := finishes first List.mem_cons_self
      rcases checkTable_cons first rest with ⟨same, isFound, walked⟩ | ⟨error, failed, _⟩
      · rw [walked, others]
        simp [foundOn, isFound, Change.lift, Change.done]
      · rw [failed] at here
        cases here

/-! ## Messages -/

def messagesAbout (field : Name) (found : Fields Finding Name) : List Value :=
  found.filterMap fun entry => if field == entry.1 then entry.2.message? else none

private theorem lists_foldl_note {report : Report} {messages : Name → List Value}
    (lists : report.Lists messages) (found : Fields Finding Name) :
    (found.foldl note report).Lists fun field => messages field ++ messagesAbout field found := by
  induction found generalizing report messages with
  | nil =>
      simpa [messagesAbout] using lists
  | cons entry rest inductionHypothesis =>
      obtain ⟨name, finding⟩ := entry
      cases finding with
      | skipped rule =>
          simpa [messagesAbout, note, Finding.message?] using inductionHypothesis lists
      | failed message =>
          have later := inductionHypothesis (lists.addError name (.text message))
          have joined : (fun field => (messages field ++
              if field == name then [Value.text message] else []) ++ messagesAbout field rest) =
                fun field => messages field ++
                  messagesAbout field ((name, Finding.failed message) :: rest) := by
            funext field
            by_cases same : field == name
            · simp [messagesAbout, Finding.message?, same]
            · simp [messagesAbout, Finding.message?, same]
          rw [joined] at later
          exact later

def messagesIn (engine : Engine) (wording : Message.Wording) (record : Fields Value)
    (table : RuleTable) (field : Name) : List Value :=
  table.flatMap fun row =>
    if field == row.1 then (engine.foundOn wording record row).filterMap Finding.message? else []

private theorem messagesAbout_flatMap (table : RuleTable) (field : Name) :
    messagesAbout field
        (table.flatMap fun row => (engine.foundOn wording record row).map (row.1, ·)) =
      engine.messagesIn wording record table field := by
  induction table with
  | nil =>
      rfl
  | cons row rest inductionHypothesis =>
      simp only [messagesAbout, messagesIn, List.flatMap_cons, List.filterMap_append,
        List.filterMap_map] at inductionHypothesis ⊢
      rw [inductionHypothesis]
      congr 1
      by_cases same : field == row.1
      · rw [if_pos same]
        refine congrArg (List.filterMap · _) (funext fun finding => ?_)
        exact if_pos same
      · rw [if_neg same]
        exact List.filterMap_eq_nil_iff.mpr fun finding _ => if_neg same

/-! ## Reports -/

/-- The findings of a walk that finishes on each row. -/
def findingsIn (engine : Engine) (wording : Message.Wording) (record : Fields Value)
    (table : RuleTable) : Fields Finding Name :=
  table.flatMap fun row => (engine.foundOn wording record row).map (row.1, ·)

theorem evaluate_eq_ok_iff {table : RuleTable} {report : Report} :
    engine.evaluate wording record table = .ok report ↔
      (∀ row ∈ table, engine.Finishes wording record row) ∧
        report = reportOf record table (engine.findingsIn wording record table) := by
  unfold evaluate conclude
  constructor
  · intro evaluated
    cases finished : (engine.checkTable wording record table).failure with
    | some error =>
        simp [finished] at evaluated
    | none =>
        have finishes := finishes_of_checkTable finished
        rw [checkTable_eq_done finishes] at evaluated
        exact ⟨finishes, (Except.ok.inj evaluated).symm⟩
  · rintro ⟨finishes, rfl⟩
    rw [checkTable_eq_done finishes]
    rfl

theorem lists_reportOf (engine : Engine) (wording : Message.Wording) (record : Fields Value)
    (table : RuleTable) :
    (reportOf record table (engine.findingsIn wording record table)).Lists
      (engine.messagesIn wording record table) := by
  have noted := lists_foldl_note Report.lists_nothing (engine.findingsIn wording record table)
  have sameMessages : (fun field => [] ++
      messagesAbout field (engine.findingsIn wording record table)) =
        engine.messagesIn wording record table := by
    funext field
    rw [List.nil_append, findingsIn, messagesAbout_flatMap]
  rw [sameMessages] at noted
  exact noted.withData _

theorem data_reportOf (table : RuleTable) (found : Fields Finding Name) :
    (reportOf record table found).data =
      if (reportOf record table found).valid then covered record table else record := rfl

/-- A row covers the field that it is about, if the record has it. -/
theorem covered_cons (row : Name × List RuleEntry) (rest : RuleTable) :
    (covered record (row :: rest) = covered record rest ∧
        ∀ name, Name.text name = row.1 → record.get? name = none) ∨
      ∃ name value, row.1 = Name.text name ∧ record.get? name = some value ∧
        covered record (row :: rest) = (name, value) :: covered record rest := by
  cases named : row.1.text? with
  | none =>
      left
      refine ⟨by simp [covered, named], ?_⟩
      intro name same
      rw [← same] at named
      cases named
  | some text =>
      have isText := Name.text?_eq_some_iff.mp named
      cases held : record.get? text with
      | none =>
          left
          refine ⟨by simp [covered, named, held], ?_⟩
          intro name same
          rw [isText] at same
          cases same
          exact held
      | some value =>
          right
          exact ⟨text, value, isText, held, by simp [covered, named, held]⟩

private theorem has_cons (row : Name × List RuleEntry) (rest : RuleTable) (name : Name) :
    Fields.has (row :: rest) name = (name == row.1 || Fields.has rest name) := by
  rw [Fields.has, Fields.get?_cons]
  by_cases same : name == row.1
  · simp [same]
  · simp [same, Fields.has]

/-- What is covered by a table is what the record holds under the names in the table. -/
theorem get?_covered (table : RuleTable) (name : String) :
    (covered record table).get? name =
      if table.has (.text name) then record.get? name else none := by
  induction table with
  | nil =>
      rfl
  | cons row rest inductionHypothesis =>
      rw [has_cons]
      rcases covered_cons row rest with ⟨same, absent⟩ | ⟨field, value, isField, held, isCovered⟩
      · rw [same, inductionHypothesis]
        by_cases here : Name.text name == row.1
        · have isRow := Name.eq_text_of_beq (BEq.symm here)
          simp [here, absent name isRow.symm]
        · simp [here]
      · rw [isCovered, Fields.get?_cons, inductionHypothesis, isField, Name.text_beq_text]
        by_cases here : name = field
        · simp [here, held]
        · simp [here]

/-- No name is covered twice. -/
theorem distinct_covered {table : RuleTable} (distinct : table.Distinct) :
    (covered record table).Distinct := by
  induction table with
  | nil =>
      exact Fields.distinct_nil
  | cons row rest inductionHypothesis =>
      obtain ⟨fresh, restDistinct⟩ := Fields.distinct_cons.mp distinct
      rcases covered_cons row rest with ⟨same, _⟩ | ⟨field, value, isField, held, isCovered⟩
      · rw [same]
        exact inductionHypothesis restDistinct
      · rw [isCovered]
        refine Fields.distinct_cons.mpr ⟨?_, inductionHypothesis restDistinct⟩
        have unlisted : Fields.get? rest (.text field) = none := by
          apply Fields.get?_eq_none_iff.mpr
          intro other member
          rw [BEq.comm, ← isField]
          exact fresh other member
        have absent : (covered record rest).get? field = none := by
          rw [get?_covered, Fields.has, unlisted]
          rfl
        intro other member
        rw [BEq.comm]
        exact Fields.get?_eq_none_iff.mp absent other member

end Engine
end RecordSchema
