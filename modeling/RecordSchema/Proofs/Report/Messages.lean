import RecordSchema.Report
import RecordSchema.Proofs.Fields

/-!
# What reports say

A report that has been filled message by message, or merged from such reports, lists each field
that has messages once, with all of them in order, and is valid exactly when there are none.
-/

namespace RecordSchema.Report

/-- A report lists these messages about each field, and is valid exactly if there are none. -/
structure Lists (report : Report) (messages : Name → List Value) : Prop where
  distinct : report.errors.Distinct
  listed : ∀ field, report.errors.get? field =
    if messages field = [] then none else some (messages field)
  valid : report.valid = true ↔ ∀ field, messages field = []

/-- Two reports have the same verdict, the same messages about each field, and the same data. -/
structure Agrees (first second : Report) : Prop where
  valid : first.valid = second.valid
  errors : ∀ field, first.errors.get? field = second.errors.get? field
  data : ∀ name, first.data.get? name = second.data.get? name

theorem Agrees.symm {first second : Report} (agrees : first.Agrees second) :
    second.Agrees first where
  valid := agrees.valid.symm
  errors := fun field => (agrees.errors field).symm
  data := fun name => (agrees.data name).symm

theorem Agrees.trans {first second third : Report} (agrees : first.Agrees second)
    (further : second.Agrees third) : first.Agrees third where
  valid := agrees.valid.trans further.valid
  errors := fun field => (agrees.errors field).trans (further.errors field)
  data := fun name => (agrees.data name).trans (further.data name)

variable {report : Report} {messages : Name → List Value}

theorem Lists.messagesOf_eq (lists : report.Lists messages) (field : Name) :
    report.messagesOf field = messages field := by
  rw [messagesOf, lists.listed]
  split
  · next nothing =>
      rw [nothing]
      rfl
  · rfl

theorem Lists.congr (lists : report.Lists messages) {field other : Name}
    (same : (field == other) = true) : messages field = messages other := by
  rw [← lists.messagesOf_eq field, ← lists.messagesOf_eq other, messagesOf, messagesOf,
    Fields.get?_of_equivalent _ same]

theorem Lists.withData (lists : report.Lists messages) (data : Fields Value) :
    ({ report with data := data } : Report).Lists messages :=
  ⟨lists.distinct, lists.listed, lists.valid⟩

theorem lists_nothing : ({} : Report).Lists fun _ => [] where
  distinct := Fields.distinct_nil
  listed := by
    simp
  valid := by
    simp

theorem Lists.addError (lists : report.Lists messages) (field : Name) (message : Value) :
    (report.addError field message).Lists fun other =>
      messages other ++ if other == field then [message] else [] where
  distinct := lists.distinct.put _ _
  listed := by
    intro other
    by_cases same : other == field
    · rw [Report.addError, Fields.get?_of_equivalent _ same, Fields.get?_put_self,
        lists.messagesOf_eq, lists.congr same]
      simp [same]
    · have differs : (other == field) = false := by
        simpa using same
      rw [Report.addError, Fields.get?_put_of_ne _ _ differs, lists.listed]
      simp [differs]
  valid := by
    constructor
    · intro impossible
      cases impossible
    · intro nothing
      have here := nothing field
      simp at here

theorem Lists.addErrors (lists : report.Lists messages) (field : Name) (added : List Value) :
    (report.addErrors field added).Lists fun other =>
      messages other ++ if other == field then added else [] := by
  induction added generalizing report messages with
  | nil =>
      simpa [Report.addErrors] using lists
  | cons message rest inductionHypothesis =>
      have later := inductionHypothesis (lists.addError field message)
      have joined : (fun other => (messages other ++ if other == field then [message] else []) ++
          if other == field then rest else []) =
            fun other => messages other ++ if other == field then message :: rest else [] := by
        funext other
        by_cases same : other == field
        · simp [same]
        · simp [same]
      rw [joined] at later
      exact later

/-- Adding the messages of fields, none of which is listed twice, adds to each field its own. -/
theorem Lists.addAll (lists : report.Lists messages) {fields : Fields (List Value) Name}
    (distinct : fields.Distinct) :
    (fields.foldl (fun done entry => done.addErrors entry.1 entry.2) report).Lists fun field =>
      messages field ++ (fields.get? field).getD [] := by
  induction fields generalizing report messages with
  | nil =>
      simpa using lists
  | cons entry rest inductionHypothesis =>
      obtain ⟨fresh, restDistinct⟩ := Fields.distinct_cons.mp distinct
      have later := inductionHypothesis (lists.addErrors entry.1 entry.2) restDistinct
      have joined : (fun field => (messages field ++ if field == entry.1 then entry.2 else []) ++
          (Fields.get? rest field).getD []) =
            fun field => messages field ++ (Fields.get? (entry :: rest) field).getD [] := by
        funext field
        rw [Fields.get?_cons]
        by_cases same : field == entry.1
        · have absent : Fields.get? rest field = none := by
            rw [Fields.get?_of_equivalent _ same]
            apply Fields.get?_eq_none_iff.mpr
            intro other member
            rw [BEq.comm]
            exact fresh other member
          simp [same, absent]
        · simp [same]
      rw [joined] at later
      exact later

/-- A merged report lists about each field what the one report lists, and behind it what the other
lists. -/
theorem Lists.merge {other : Report} {others : Name → List Value} (lists : report.Lists messages)
    (otherLists : other.Lists others) :
    (report.merge other).Lists fun field => messages field ++ others field := by
  have joined := lists.addAll otherLists.distinct
  have sameMessages : (fun field => messages field ++ (other.errors.get? field).getD []) =
      fun field => messages field ++ others field := by
    funext field
    rw [← otherLists.messagesOf_eq field, messagesOf]
  rw [sameMessages] at joined
  refine ⟨joined.distinct, joined.listed, ?_⟩
  simp only [Report.merge, Bool.and_eq_true, joined.valid, otherLists.valid]
  constructor
  · exact And.left
  · intro nothing
    refine ⟨nothing, ?_⟩
    intro field
    exact (List.append_eq_nil_iff.mp (nothing field)).2

theorem Lists.valid_merge {other : Report} {others : Name → List Value}
    (lists : report.Lists messages) (otherLists : other.Lists others) :
    (report.merge other).valid = (report.valid && other.valid) := by
  rw [Bool.eq_iff_iff, (lists.merge otherLists).valid, Bool.and_eq_true, lists.valid,
    otherLists.valid]
  simp only [List.append_eq_nil_iff, forall_and]

@[simp]
theorem addErrors_data (report : Report) (field : Name) (added : List Value) :
    (report.addErrors field added).data = report.data := by
  induction added generalizing report with
  | nil =>
      rfl
  | cons message rest inductionHypothesis =>
      exact inductionHypothesis (report.addError field message)

theorem merge_data (report other : Report) :
    (report.merge other).data = report.data.putAll other.data := by
  have kept : ∀ (fields : Fields (List Value) Name) (start : Report),
      (fields.foldl (fun done entry => done.addErrors entry.1 entry.2) start).data =
        start.data := by
    intro fields
    induction fields with
    | nil =>
        intro start
        rfl
    | cons entry rest inductionHypothesis =>
        intro start
        rw [List.foldl_cons, inductionHypothesis, addErrors_data]
  rw [Report.merge, kept]

/-- Reports that say the same and hold the same data agree. -/
theorem Lists.agrees {other : Report} (lists : report.Lists messages)
    (otherLists : other.Lists messages)
    (data : ∀ name, report.data.get? name = other.data.get? name) : report.Agrees other where
  valid := by
    rw [Bool.eq_iff_iff, lists.valid, otherLists.valid]
  errors := by
    intro field
    rw [lists.listed, otherLists.listed]
  data := data

end RecordSchema.Report
