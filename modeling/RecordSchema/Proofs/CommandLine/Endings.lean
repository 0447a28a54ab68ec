import RecordSchema.Proofs.CommandLine.Arguments

/-!
# How commands end

Checking a record and showing a compiled schema end with a code, or with an error that the program
does not handle.  Which of these happens is decided by the inputs that the files stand for, by the
report on the record and by whether the writer takes it.  Whatever is compiled can be written.
-/

namespace RecordSchema.CommandLine

/-! ## Writing -/

private theorem writeDocument_isOk {document : Value} (plain : document.Plain) :
    ∃ text, Schema.writeDocument document (.int 2) = .ok text := by
  obtain ⟨text, written⟩ := Json.write_isOk plain
    (Json.documentStyle (some "  ")) 0
  refine ⟨text, ?_⟩
  simp [Schema.writeDocument, Schema.indentation, written]

private theorem writeCompiled_isOk {loaded : Schema} (plain : loaded.Plain) :
    ∃ text, (do
      let document ← loaded.toDocument
      Schema.writeDocument
        (.map [("schema", document), ("rules", Schema.describe loaded.rules)]) (.int 2)) =
      (.ok text : Except Error String) := by
  obtain ⟨document, isDocument, documentPlain⟩ := plain.toDocument
  rw [isDocument]
  exact writeDocument_isOk (.map (Fields.arePlain_cons.mpr ⟨documentPlain,
    Fields.arePlain_cons.mpr ⟨plain.describe, Fields.arePlain_nil⟩⟩))

/-! ## Outcomes -/

private theorem outcome_runLogged (setting : Setting) (command : Command) :
    (command.runLogged setting).outcome = (command.run setting).outcome := by
  unfold Command.runLogged
  generalize threshold setting = found
  rfl

def loadedOutcome {α : Type} (next : α → Outcome) : Except Error α → Outcome
  | .error error => if isLoadingError error then .exited 2 else .failed error
  | .ok loaded => next loaded

private theorem outcome_loadingFailed (setting : Setting) (what : String) (log : List LogRecord)
    (error : Error) :
    (loadingFailed setting what log error).outcome =
      if isLoadingError error then .exited 2 else .failed error := by
  unfold loadingFailed
  split <;> rfl

def reportedOutcome (setting : Setting) (report : Report) : Outcome :=
  match setting.print report 2 with
  | .error error => .failed error
  | .ok _ => .exited (if report.valid then 0 else 1)

private theorem outcome_showReport (setting : Setting) (report : Report) (log : List LogRecord) :
    (showReport setting report (.int 2) log).outcome = reportedOutcome setting report := by
  unfold showReport reportedOutcome
  dsimp only
  cases setting.print report 2 with
  | error error =>
      rfl
  | ok text =>
      cases report.valid <;> rfl

def checkedOutcome (setting : Setting) : Except Error Report → Outcome
  | .error (.ruleUnknown _ _) => .exited 2
  | .error error => .failed error
  | .ok report => reportedOutcome setting report

private theorem checkedOutcome_error {setting : Setting} {error : Error}
    (notUnknown : ∀ rule field, error ≠ .ruleUnknown rule field) :
    checkedOutcome setting (.error error) = .failed error := by
  cases error
  case ruleUnknown rule field =>
    exact absurd rfl (notUnknown rule field)
  all_goals rfl

section

variable {setting : Setting} {schema record : String} {messages labels : Option String}

private theorem outcome_validate (lawful : setting.Lawful) :
    (validate setting (.text schema) (.text record) (optionValue messages) (optionValue labels)
        (.int 2)).outcome =
      loadedOutcome
        (fun found =>
          checkedOutcome setting (found.1.evaluate (engine setting.environment) found.2))
        (inputs setting schema record messages labels) := by
  unfold validate inputs
  rw [← loadSchema_eq lawful]
  generalize loadSchema setting (.text schema) (optionValue messages) (optionValue labels) = found
  obtain ⟨result, log⟩ := found
  cases result with
  | error error =>
      exact outcome_loadingFailed setting _ log error
  | ok loaded =>
      dsimp only [Outcome.ok_bind]
      cases read : readObject setting.files (.text record) "Record" with
      | error error =>
          exact outcome_loadingFailed setting _ log error
      | ok fields =>
          obtain ⟨entries, rfl, _⟩ := plain_readObject read
          simp only [Outcome.ok_bind, Outcome.pure_eq_ok, loadedOutcome, Schema.evaluate]
          cases checked : (engine setting.environment).evaluateValue loaded.wording
              (.map entries) loaded.rules with
          | mk report checkLog =>
              cases report with
              | ok report =>
                  exact outcome_showReport setting report _
              | error error =>
                  cases error <;> rfl

private theorem outcome_compile (lawful : setting.Lawful) :
    (compile setting (.text schema) (.int 2)).outcome =
      loadedOutcome (fun _ => .exited 0) (schemaIn setting schema none none) := by
  have loading : (loadSchema setting (.text schema) .null .null).1 =
      schemaIn setting schema none none := @loadSchema_eq setting schema none none lawful
  unfold compile
  cases found : loadSchema setting (.text schema) .null .null with
  | mk result log =>
      rw [found] at loading
      rw [← loading]
      cases result with
      | error error =>
          exact outcome_loadingFailed setting _ log error
      | ok loaded =>
          obtain ⟨text, written⟩ := writeCompiled_isOk (plain_schemaIn lawful loading.symm)
          dsimp only
          rw [written]
          rfl

end

/-! ## Endings -/

variable (setting : Setting) (schema record : String) (messages labels : Option String)

/-- A report on the record, after all files have been loaded. -/
def Reports (report : Report) : Prop :=
  ∃ loaded fields, inputs setting schema record messages labels = .ok (loaded, fields) ∧
    loaded.evaluate (engine setting.environment) fields = .ok report

/-- How `validate` ends.  Its last three endings are those that it does not handle. -/
inductive ValidateEnds : Outcome → Prop
  | accepted {report : Report} {text : String} :
      Reports setting schema record messages labels report → setting.print report 2 = .ok text →
      report.valid = true → ValidateEnds (.exited 0)
  | rejected {report : Report} {text : String} :
      Reports setting schema record messages labels report → setting.print report 2 = .ok text →
      report.valid = false → ValidateEnds (.exited 1)
  /-- A file cannot be loaded. -/
  | notLoaded {error : Error} :
      inputs setting schema record messages labels = .error error →
      isLoadingError error = true → ValidateEnds (.exited 2)
  /-- The schema has a rule that the engine does not know. -/
  | ruleUnknown {loaded : Schema} {fields : Value} {rule field : String} :
      inputs setting schema record messages labels = .ok (loaded, fields) →
      loaded.evaluate (engine setting.environment) fields = .error (.ruleUnknown rule field) →
      ValidateEnds (.exited 2)
  | escapesLoading {error : Error} :
      EscapesLoading setting schema (inputs setting schema record messages labels) error →
      ValidateEnds (.failed error)
  /-- A rule of the schema cannot be checked on the record, or its message cannot be worded. -/
  | escapesChecking {loaded : Schema} {fields : Value} {error : Error} :
      inputs setting schema record messages labels = .ok (loaded, fields) →
      loaded.evaluate (engine setting.environment) fields = .error error →
      (∀ rule field, error ≠ .ruleUnknown rule field) → ValidateEnds (.failed error)
  /-- The report cannot be written. -/
  | escapesWriting {report : Report} {error : Error} :
      Reports setting schema record messages labels report →
      setting.print report 2 = .error error → ValidateEnds (.failed error)

/-- How `compile` ends: it shows whatever schema has been loaded. -/
inductive CompileEnds : Outcome → Prop
  | shown {loaded : Schema} :
      schemaIn setting schema none none = .ok loaded → CompileEnds (.exited 0)
  /-- The file cannot be loaded. -/
  | notLoaded {error : Error} :
      schemaIn setting schema none none = .error error → isLoadingError error = true →
      CompileEnds (.exited 2)
  | escapesLoading {error : Error} :
      EscapesLoading setting schema (schemaIn setting schema none none) error →
      CompileEnds (.failed error)

variable {setting schema record messages labels}

private theorem validateEnds_checkedOutcome {loaded : Schema} {fields : Value}
    (loading : inputs setting schema record messages labels = .ok (loaded, fields)) :
    ValidateEnds setting schema record messages labels
      (checkedOutcome setting (loaded.evaluate (engine setting.environment) fields)) := by
  cases checked : loaded.evaluate (engine setting.environment) fields with
  | error error =>
      by_cases unknown : ∃ rule field, error = .ruleUnknown rule field
      · obtain ⟨rule, field, rfl⟩ := unknown
        exact .ruleUnknown loading checked
      · have notUnknown (rule field : String) : error ≠ .ruleUnknown rule field :=
          fun same => unknown ⟨rule, field, same⟩
        rw [checkedOutcome_error notUnknown]
        exact .escapesChecking loading checked notUnknown
  | ok report =>
      have reports : Reports setting schema record messages labels report :=
        ⟨loaded, fields, loading, checked⟩
      rw [checkedOutcome, reportedOutcome]
      cases written : setting.print report 2 with
      | error error =>
          exact .escapesWriting reports written
      | ok text =>
          cases valid : report.valid with
          | true =>
              exact .accepted reports written valid
          | false =>
              exact .rejected reports written valid

private theorem validateEnds_outcome (lawful : setting.Lawful) :
    ValidateEnds setting schema record messages labels
      (validate setting (.text schema) (.text record) (optionValue messages)
        (optionValue labels) (.int 2)).outcome := by
  rw [outcome_validate lawful]
  cases loading : inputs setting schema record messages labels with
  | error error =>
      rw [loadedOutcome]
      split
      · next caught =>
          exact .notLoaded loading caught
      · next uncaught =>
          exact .escapesLoading
            ((escapesLoading_inputs_iff lawful).mpr ⟨loading, eq_false_of_ne_true uncaught⟩)
  | ok found =>
      exact validateEnds_checkedOutcome loading

private theorem ValidateEnds.outcome_eq (lawful : setting.Lawful) {ending : Outcome}
    (ends : ValidateEnds setting schema record messages labels ending) :
    (validate setting (.text schema) (.text record) (optionValue messages) (optionValue labels)
        (.int 2)).outcome = ending := by
  rw [outcome_validate lawful]
  cases ends with
  | accepted reports written valid =>
      obtain ⟨loaded, fields, loading, checked⟩ := reports
      simp [loading, checked, loadedOutcome, checkedOutcome, reportedOutcome, written, valid]
  | rejected reports written valid =>
      obtain ⟨loaded, fields, loading, checked⟩ := reports
      simp [loading, checked, loadedOutcome, checkedOutcome, reportedOutcome, written, valid]
  | notLoaded loading caught =>
      rw [loading, loadedOutcome, if_pos caught]
  | ruleUnknown loading checked =>
      rw [loading, loadedOutcome, checked, checkedOutcome]
  | escapesLoading escapes =>
      obtain ⟨loading, uncaught⟩ := (escapesLoading_inputs_iff lawful).mp escapes
      simp [loading, loadedOutcome, uncaught]
  | escapesChecking loading checked notUnknown =>
      rw [loading, loadedOutcome, checked, checkedOutcome_error notUnknown]
  | escapesWriting reports failed =>
      obtain ⟨loaded, fields, loading, checked⟩ := reports
      rw [loading, loadedOutcome, checked, checkedOutcome, reportedOutcome, failed]

private theorem validate_ends (lawful : setting.Lawful) (ending : Outcome) :
    (validate setting (.text schema) (.text record) (optionValue messages) (optionValue labels)
        (.int 2)).outcome = ending ↔
      ValidateEnds setting schema record messages labels ending := by
  constructor
  · rintro rfl
    exact validateEnds_outcome lawful
  · exact ValidateEnds.outcome_eq lawful

private theorem compile_ends (lawful : setting.Lawful) (ending : Outcome) :
    (compile setting (.text schema) (.int 2)).outcome = ending ↔
      CompileEnds setting schema ending := by
  rw [outcome_compile lawful]
  constructor
  · rintro rfl
    cases loading : schemaIn setting schema none none with
    | error error =>
        rw [loadedOutcome]
        split
        · next caught =>
            exact .notLoaded loading caught
        · next uncaught =>
            exact .escapesLoading
              ((escapesLoading_schemaIn_iff lawful).mpr ⟨loading, eq_false_of_ne_true uncaught⟩)
    | ok loaded =>
        exact .shown loading
  · intro ends
    cases ends with
    | shown loading =>
        rw [loading, loadedOutcome]
    | notLoaded loading caught =>
        rw [loading, loadedOutcome, if_pos caught]
    | escapesLoading escapes =>
        obtain ⟨loading, uncaught⟩ := (escapesLoading_schemaIn_iff lawful).mp escapes
        simp [loading, loadedOutcome, uncaught]

/-- Run on arguments in their usual order, the two commands end as described. -/
theorem run_ends (setting : Setting) (lawful : setting.Lawful) :
    (∀ schema record messages labels, IsWord schema → IsWord record →
      (∀ path ∈ messages, IsWord path) → (∀ path ∈ labels, IsWord path) → ∀ ending,
        (run setting (validateArguments schema record messages labels)).outcome = ending ↔
          ValidateEnds setting schema record messages labels ending) ∧
    (∀ schema, IsWord schema → ∀ ending,
      (run setting (compileArguments schema)).outcome = ending ↔
        CompileEnds setting schema ending) := by
  constructor
  · intro schema record messages labels schemaWord recordWord messagesWord labelsWord ending
    rw [run, readCommand_validate schemaWord recordWord messagesWord labelsWord]
    dsimp only
    rw [outcome_runLogged, Command.run]
    exact validate_ends lawful ending
  · intro schema schemaWord ending
    rw [run, readCommand_compile schemaWord]
    dsimp only
    rw [outcome_runLogged, Command.run]
    exact compile_ends lawful ending

/-! ## Errors that are not handled -/

/-- What to show for the error that a command does not handle. -/
def Outcome.unhandled? : Outcome → Option String
  | .failed error => error.message?
  | _ => none

private theorem Outcome.failed_of_unhandled {outcome : Outcome} {text : String}
    (unhandled : outcome.unhandled? = some text) :
    ∃ error, outcome = .failed error ∧ error.message? = some text := by
  cases outcome with
  | failed error =>
      exact ⟨error, rfl, unhandled⟩
  | _ =>
      cases unhandled

/-- A setting in which nothing but the given files can be read. -/
def settingOf (files : Fields String) : Setting where
  environment := []
  files path := (files.get? path).elim (.error .missingFile) .ok
  parse := SchemaDocument.ofValue
  print report _ := Json.write (Json.reportStyle (some "  ")) 0 report.toDocument
  shown := Error.description

/-- Files that hold JSON are read as they should be. -/
theorem lawful_settingOf {files : Fields String}
    (areRead : ∀ path text, (path, text) ∈ files → (Json.read text).isOk) :
    (settingOf files).Lawful where
  parse := SchemaDocument.lawful_ofValue
  files path error failed := by
    dsimp only [settingOf] at failed
    cases found : files.get? path with
    | none =>
        rw [found] at failed
        cases failed
        rfl
    | some text =>
        rw [found] at failed
        cases failed
  readable path text read half := by
    dsimp only [settingOf] at read
    cases found : files.get? path with
    | none =>
        rw [found] at read
        cases read
    | some content =>
        rw [found] at read
        cases read
        obtain ⟨key, _, member⟩ := Fields.mem_of_get?_eq_some found
        have isRead := areRead key text member
        rw [half] at isRead
        cases isRead

/-- A schema with a rule that lacks its bound, and a record to check against it. -/
def boundless : Setting :=
  settingOf
    [("schema.json", "\x7b\"properties\": \x7b\"age\": \x7b\"rules\": [\"min\"]\x7d\x7d\x7d"),
      ("record.json", "\x7b\"age\": 3\x7d")]

def numberForRule : Setting :=
  settingOf
    [("schema.json", "\x7b\"properties\": \x7b\"age\": \x7b\"rules\": [5]\x7d\x7d\x7d")]

private theorem lawful_boundless : boundless.Lawful := by
  refine lawful_settingOf fun path text member => ?_
  simp only [List.mem_cons, List.not_mem_nil, or_false] at member
  rcases member with isSchema | isRecord
  · cases isSchema
    decide +kernel
  · cases isRecord
    decide +kernel

private theorem lawful_numberForRule : numberForRule.Lawful := by
  refine lawful_settingOf fun path text member => ?_
  cases List.mem_singleton.mp member
  decide +kernel

private theorem unhandled_boundless :
    (run boundless (validateArguments "schema.json" "record.json" none none)).outcome.unhandled? =
      some "Validation rule min requires at least 1 parameters." := by
  decide +kernel

private theorem unhandled_numberForRule :
    (run numberForRule (compileArguments "schema.json")).outcome.unhandled? =
      some "Rule tokens must be strings, got int" := by
  decide +kernel

theorem run_ends_boundless :
    (boundless.Lawful ∧ numberForRule.Lawful ∧ IsWord "schema.json" ∧ IsWord "record.json") ∧
    (∃ error, error.message? = some "Validation rule min requires at least 1 parameters." ∧
      ValidateEnds boundless "schema.json" "record.json" none none (.failed error)) ∧
    ∃ error, error.message? = some "Rule tokens must be strings, got int" ∧
      CompileEnds numberForRule "schema.json" (.failed error) := by
  have schemaWord : IsWord "schema.json" := by
    intro second rest same
    simp at same
  have recordWord : IsWord "record.json" := by
    intro second rest same
    simp at same
  refine ⟨⟨lawful_boundless, lawful_numberForRule, schemaWord, recordWord⟩, ?_, ?_⟩
  · obtain ⟨error, failed, shown⟩ := Outcome.failed_of_unhandled unhandled_boundless
    have ends := (run_ends boundless lawful_boundless).1 "schema.json" "record.json" none none
      schemaWord recordWord (fun _ member => nomatch member) (fun _ member => nomatch member)
    exact ⟨error, shown, (ends _).mp failed⟩
  · obtain ⟨error, failed, shown⟩ := Outcome.failed_of_unhandled unhandled_numberForRule
    have ends := (run_ends numberForRule lawful_numberForRule).2 "schema.json" schemaWord
    exact ⟨error, shown, (ends _).mp failed⟩

/-- Neither command ends with a code on every input. -/
theorem run_unhandled :
    (∃ error, (run boundless
        (validateArguments "schema.json" "record.json" none none)).outcome = .failed error) ∧
    ∃ error, (run numberForRule (compileArguments "schema.json")).outcome = .failed error := by
  constructor
  · obtain ⟨error, failed, _⟩ := Outcome.failed_of_unhandled unhandled_boundless
    exact ⟨error, failed⟩
  · obtain ⟨error, failed, _⟩ := Outcome.failed_of_unhandled unhandled_numberForRule
    exact ⟨error, failed⟩

end RecordSchema.CommandLine
