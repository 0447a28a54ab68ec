import RecordSchema.Proofs.Check.Verdicts
import RecordSchema.Proofs.Check.Wording

/-!
# Checking in other words

Messages and labels say how failures are put, and nothing else.  What is found with one wording is
what is found with another once the messages are left out, error by error and failure by failure,
so the reports have the same verdict, the same data and as many messages about each field.
-/

namespace RecordSchema

/-! ## Leaving out the messages -/

def Finding.unworded : Finding → Finding
  | .skipped rule => .skipped rule
  | .failed _ => .failed ""

namespace Report

def unworded (report : Report) : Report :=
  { report with
    errors := report.errors.map fun entry => (entry.1, entry.2.map fun _ => Value.text "") }

private theorem messagesOf_unworded (report : Report) (field : Name) :
    report.unworded.messagesOf field = (report.messagesOf field).map fun _ => Value.text "" := by
  rw [messagesOf, unworded, Fields.get?_map_values _ (List.map fun _ => Value.text ""), messagesOf]
  cases report.errors.get? field with
  | none =>
      rfl
  | some messages =>
      rfl

private theorem unworded_addError (report : Report) (field : Name) (message : Value) :
    (report.addError field message).unworded = report.unworded.addError field (.text "") := by
  have put := Fields.map_put report.errors field (report.messagesOf field ++ [message])
    (List.map fun _ => Value.text "")
  rw [addError, addError, messagesOf_unworded, unworded, put, List.map_append]
  rfl

/-- Reports that differ in their messages alone have the same verdict and data, and as many
messages about the same fields. -/
theorem same_of_unworded_eq {report other : Report} (same : other.unworded = report.unworded) :
    other.valid = report.valid ∧ other.data = report.data ∧
      other.errors.names = report.errors.names ∧
      ∀ field, (other.messagesOf field).length = (report.messagesOf field).length := by
  have sameValid : other.unworded.valid = report.unworded.valid := by rw [same]
  have sameData : other.unworded.data = report.unworded.data := by rw [same]
  have sameNames := congrArg (fun done : Report => done.errors.names) same
  simp only [unworded, Fields.names_map_values] at sameNames
  refine ⟨sameValid, sameData, sameNames, ?_⟩
  intro field
  have sameMessages := congrArg (fun done : Report => (done.messagesOf field).length) same
  simpa only [messagesOf_unworded, List.length_map] using sameMessages

end Report

/-! ## Messages -/

namespace Message.Wording

variable {wording other : Wording} {known : Fields Value}

private theorem IsTexts.label_of_text?_eq_none (texts : wording.IsTexts) {field : Name}
    (unnamed : field.text? = none) :
    wording.label field = .error field.value.notReplaceable := by
  obtain ⟨labels, isMap, _⟩ := texts.labels
  obtain ⟨value, isKey⟩ := field
  cases value with
  | text name =>
      cases unnamed
  | _ =>
      simp only [Wording.label, isMap, Value.entry, Value.lookupField, isKey]
      rfl

private theorem IsTexts.message_of_text?_eq_none (texts : wording.IsTexts)
    (areKnown : known.AreTexts)
    (call : Call) (unnamed : call.field.text? = none) (rule : String) :
    wording.message known call rule = .error call.field.value.notReplaceable := by
  obtain ⟨template, isTemplate, _⟩ := texts.template areKnown call rule
  rw [Wording.message, isTemplate, texts.label_of_text?_eq_none unnamed]
  rfl

private theorem IsTexts.message_same (texts : wording.IsTexts) (otherTexts : other.IsTexts)
    (areKnown : known.AreTexts) (call : Call) (rule : String) :
    (∃ text otherText, wording.message known call rule = .ok text ∧
        other.message known call rule = .ok otherText) ∨
      ∃ error, wording.message known call rule = .error error ∧
        other.message known call rule = .error error := by
  cases isText : call.field.text? with
  | none =>
      exact Or.inr ⟨_, texts.message_of_text?_eq_none areKnown call isText rule,
        otherTexts.message_of_text?_eq_none areKnown call isText rule⟩
  | some name =>
      have named := Name.text?_eq_some_iff.mp isText
      obtain ⟨text, isMessage⟩ := texts.message areKnown call named rule
      obtain ⟨otherText, isOther⟩ := otherTexts.message areKnown call named rule
      exact Or.inl ⟨text, otherText, isMessage, isOther⟩

end Message.Wording

namespace Engine

variable {engine : Engine} {wording other : Message.Wording} {record : Fields Value}

/-! ## Walks -/

/-- What a rule comes to, without the message. -/
def Verdict.unworded : Verdict → Verdict
  | .fails _ => .fails ""
  | verdict => verdict

private theorem verdict_unworded (templates : engine.templates.AreTexts) (texts : wording.IsTexts)
    (otherTexts : other.IsTexts) (call : Call) (runs : Bool) (rule : Rule.Invocation) :
    (engine.verdict wording call runs rule).unworded =
      (engine.verdict other call runs rule).unworded := by
  rw [verdict, verdict]
  by_cases marked : markers.contains rule.name = true
  · rw [if_pos marked, if_pos marked]
  rw [if_neg marked, if_neg marked]
  cases engine.checks.get? rule.name with
  | none =>
      rfl
  | some check =>
      dsimp only
      by_cases idle : (!runs && !engine.implicit.contains rule.name) = true
      · rw [if_pos idle, if_pos idle]
      rw [if_neg idle, if_neg idle]
      cases check { call with parameters := rule.parameters } with
      | error error =>
          rfl
      | ok met =>
          cases met with
          | true =>
              rfl
          | false =>
              rcases texts.message_same otherTexts templates
                  { call with parameters := rule.parameters } rule.name with
                ⟨text, otherText, isMessage, isOther⟩ | ⟨error, isError, isOther⟩
              · simp only [isMessage, isOther, Verdict.unworded]
              · simp only [isError, isOther]

/-- One step of a walk whose messages are left out. -/
theorem walk_cons_unworded (call : Call) (runs : Bool) (rule : Rule.Invocation)
    (rest : List Rule.Invocation) :
    (engine.walk wording call runs (rule :: rest)).lift (List.map Finding.unworded) =
      match (engine.verdict wording call runs rule).unworded with
      | .passes => (engine.walk wording call runs rest).lift (List.map Finding.unworded)
      | .unknown =>
        if engine.strict then .failed [] (.ruleUnknown rule.name call.field.toText)
        else ((engine.walk wording call runs rest).lift (List.map Finding.unworded)).lift
          (.skipped rule.name :: ·)
      | .fails text =>
        if engine.stopsEarly || call.ruleNames.contains "bail" then .done [.failed text]
        else ((engine.walk wording call runs rest).lift (List.map Finding.unworded)).lift
          (.failed text :: ·)
      | .breaks error => .failed [] error := by
  rw [walk_cons]
  cases engine.verdict wording call runs rule with
  | passes =>
      rfl
  | unknown =>
      simp only [Verdict.unworded]
      split
      · rfl
      · rfl
  | fails text =>
      simp only [Verdict.unworded]
      split
      · rfl
      · rfl
  | breaks error =>
      rfl

private theorem walk_unworded (templates : engine.templates.AreTexts) (texts : wording.IsTexts)
    (otherTexts : other.IsTexts) (call : Call) (runs : Bool) (rules : List Rule.Invocation) :
    (engine.walk wording call runs rules).lift (List.map Finding.unworded) =
      (engine.walk other call runs rules).lift (List.map Finding.unworded) := by
  induction rules with
  | nil =>
      rfl
  | cons rule rest inductionHypothesis =>
      rw [walk_cons_unworded, walk_cons_unworded, inductionHypothesis,
        verdict_unworded templates texts otherTexts]

/-! ## Tables -/

def unwordedIn (found : Fields Finding Name) : Fields Finding Name :=
  found.map fun entry => (entry.1, entry.2.unworded)

/-- One row of a table whose messages are left out. -/
theorem checkTable_cons_unworded (row : Name × List RuleEntry) (rest : RuleTable) :
    (engine.checkTable wording record (row :: rest)).lift unwordedIn =
      match RuleEntry.resolve engine.closures record row.2 with
      | .error error => .failed [] error
      | .ok tokens =>
        (((engine.checkField wording record row.1 tokens).lift (List.map Finding.unworded)).lift
          (List.map (row.1, ·))).andThen fun earlier =>
            ((engine.checkTable wording record rest).lift unwordedIn).lift (earlier ++ ·) := by
  rw [checkTable]
  cases RuleEntry.resolve engine.closures record row.2 with
  | error error =>
      rfl
  | ok tokens =>
      cases failed : (engine.checkField wording record row.1 tokens).failure with
      | none =>
          simp [Change.lift, Change.andThen, unwordedIn, failed]
      | some error =>
          simp [Change.lift, Change.andThen, unwordedIn, failed]

private theorem checkTable_unworded (templates : engine.templates.AreTexts)
    (texts : wording.IsTexts)
    (otherTexts : other.IsTexts) (record : Fields Value) (table : RuleTable) :
    (engine.checkTable wording record table).lift unwordedIn =
      (engine.checkTable other record table).lift unwordedIn := by
  induction table with
  | nil =>
      rfl
  | cons row rest inductionHypothesis =>
      have sameField (tokens : List String) :
          (engine.checkField wording record row.1 tokens).lift (List.map Finding.unworded) =
            (engine.checkField other record row.1 tokens).lift (List.map Finding.unworded) :=
        walk_unworded templates texts otherTexts _ _ _
      simp only [checkTable_cons_unworded, inductionHypothesis, sameField]

/-! ## Reports -/

private theorem foldl_note_unworded (report : Report) (found : Fields Finding Name) :
    (found.foldl note report).unworded = (unwordedIn found).foldl note report.unworded := by
  induction found generalizing report with
  | nil =>
      rfl
  | cons entry rest inductionHypothesis =>
      obtain ⟨field, finding⟩ := entry
      rw [List.foldl_cons, inductionHypothesis]
      cases finding with
      | skipped rule =>
          rfl
      | failed message =>
          rw [note, Report.unworded_addError]
          rfl

private theorem conclude_unworded (table : RuleTable) (found : Change (Fields Finding Name)) :
    (conclude record table found).map Report.unworded =
      conclude record table (found.lift unwordedIn) := by
  obtain ⟨state, failure⟩ := found
  cases failure with
  | some error =>
      rfl
  | none =>
      have noted : (state.foldl note {}).unworded = (unwordedIn state).foldl note {} :=
        foldl_note_unworded {} state
      have sameVerdict := congrArg Report.valid noted
      simp only [conclude, Change.lift, reportOf, Outcome.map_ok, ← noted]
      rfl

/-- Checking in other words comes to the same, once the messages are left out. -/
theorem evaluate_unworded (templates : engine.templates.AreTexts) (texts : wording.IsTexts)
    (otherTexts : other.IsTexts) (record : Fields Value) (table : RuleTable) :
    (engine.evaluate wording record table).map Report.unworded =
      (engine.evaluate other record table).map Report.unworded := by
  rw [evaluate, evaluate, conclude_unworded, conclude_unworded,
    checkTable_unworded templates texts otherTexts]

/-- Messages and labels have no influence on the verdict.  Where checking gives a report with some
messages and labels, it gives one with any others, and the two have the same verdict, the same data
and the same fields that fail, with as many messages about each; and where it ends in an error, it
does so with any others. -/
theorem evaluate_inOtherWords (templates : engine.templates.AreTexts) (texts : wording.IsTexts)
    (otherTexts : other.IsTexts) (record : Fields Value) (table : RuleTable) :
    (∀ report, engine.evaluate wording record table = .ok report →
      ∃ again, engine.evaluate other record table = .ok again ∧
        again.valid = report.valid ∧ again.data = report.data ∧
        again.errors.names = report.errors.names ∧
        ∀ field, (again.messagesOf field).length = (report.messagesOf field).length) ∧
    ∀ error, engine.evaluate wording record table = .error error →
      engine.evaluate other record table = .error error := by
  have same := evaluate_unworded templates texts otherTexts record table
  constructor
  · intro report evaluated
    rw [evaluated, Outcome.map_ok] at same
    obtain ⟨again, evaluatedAgain, sameReport⟩ := Outcome.map_eq_ok_iff.mp same.symm
    exact ⟨again, evaluatedAgain, Report.same_of_unworded_eq sameReport⟩
  · intro error failed
    rw [failed, Outcome.map_error] at same
    cases outcome : engine.evaluate other record table with
    | error otherError =>
        rw [outcome, Outcome.map_error] at same
        exact same.symm
    | ok report =>
        rw [outcome, Outcome.map_ok] at same
        cases same

/-- An age that is no even number, in other words and in the standing ones. -/
theorem evaluate_inOtherWords_age :
    let even : Check := fun call => .ok (call.value.toText.length % 2 = 0)
    let engine : Engine := Engine.register {} "even" even (.text ":attribute is odd") false
    let wording : Message.Wording :=
      { messages := .map [("age.integer", .text ":attribute?"), ("even", .text "")]
        labels := .map [("age", .text "Age in years")] }
    let table : RuleTable := [(.text "age", [.token "integer", .token "even"])]
    engine.templates.AreTexts ∧ wording.IsTexts ∧ Message.Wording.IsTexts {} ∧
      ∃ report, engine.evaluate wording [("age", .text "old")] table = .ok report ∧
        report.errors = [(.text "age", [.text "Age in years?", .text ""])] ∧
        ∃ again, engine.evaluate {} [("age", .text "old")] table = .ok again ∧
          again.valid = report.valid ∧ again.data = report.data ∧
          again.errors.names = report.errors.names ∧
          ∀ field, (again.messagesOf field).length = (report.messagesOf field).length := by
  intro even engine wording table
  have templates : engine.templates.AreTexts :=
    ((keepsStandard true false).register rfl even (Or.inr ⟨_, rfl⟩) false).templates
  have texts : wording.IsTexts := by
    constructor
    · exact ⟨_, rfl, by simp [Fields.AreTexts, Value.IsText]⟩
    · exact ⟨_, rfl, by simp [Fields.AreTexts, Value.IsText]⟩
  have evaluated : engine.evaluate wording [("age", .text "old")] table = .ok {
      valid := false
      errors := [(.text "age", [.text "Age in years?", .text ""])]
      data := [("age", .text "old")] } := by
    have resolved : RuleEntry.resolve engine.closures [("age", .text "old")]
        [.token "integer", .token "even"] = .ok ["integer", "even"] :=
      RuleEntry.resolve_tokens _ _ ["integer", "even"]
    rw [evaluate, checkTable, resolved]
    with_unfolding_all rfl
  exact ⟨templates, texts, Message.Wording.isTexts_empty, _, evaluated, rfl,
    (evaluate_inOtherWords templates texts Message.Wording.isTexts_empty _ table).1 _ evaluated⟩

end Engine
end RecordSchema
