import RecordSchema.Proofs.Check.Stopping

/-!
# What a report contains

Whatever the checks of an engine are, a report lists the fields that fail in the order of the table,
each with its messages, and nothing is listed exactly if the report is valid.  Its data are what the
record holds under the names in the table, and the record itself if something is listed.
-/

namespace RecordSchema

/-- What is kept of some fields stands in the order in which they stood. -/
theorem Fields.sublist_names_filterMap {α β κ μ : Type} {keep : κ × α → Option (μ × β)}
    {name : μ → κ} (keepsName : ∀ field kept, keep field = some kept → name kept.1 = field.1)
    (fields : Fields α κ) :
    ((Fields.names (fields.filterMap keep)).map name).Sublist fields.names := by
  induction fields with
  | nil =>
      exact List.Sublist.slnil
  | cons field rest inductionHypothesis =>
      rw [List.filterMap_cons]
      cases isKept : keep field with
      | none =>
          exact inductionHypothesis.cons field.1
      | some kept =>
          rw [names_cons, List.map_cons, keepsName field kept isKept]
          exact inductionHypothesis.cons_cons field.1

/-- A report as it may come out of checking a record with a table. -/
structure Report.IsOn (report : Report) (record : Fields Value) (table : RuleTable) : Prop where
  /-- The report is valid exactly if it lists no field. -/
  valid : report.valid = true ↔ report.errors = []
  /-- The fields that it lists are fields of the table, in its order. -/
  fields : report.errors.names.Sublist table.names
  /-- No field is listed without a message. -/
  messages : ∀ entry ∈ report.errors, entry.2 ≠ []
  /-- The data of a valid report are what the record holds under the names in the table. -/
  data : report.valid = true → ∀ name : String,
    report.data.get? name = if table.has (.text name) then record.get? name else none
  /-- The data of a valid report stand in the order of the table. -/
  order : report.valid = true → (report.data.names.map Name.text).Sublist table.names
  /-- The data of any other report are the whole record. -/
  whole : report.valid = false → report.data = record

namespace Engine

variable {engine : Engine} {wording : Message.Wording} {record : Fields Value} {table : RuleTable}

private theorem sublist_names_errorsIn :
    (engine.errorsIn wording record table).names.Sublist table.names := by
  have inOrder :
      ((engine.errorsIn wording record table).names.map id).Sublist table.names := by
    refine Fields.sublist_names_filterMap ?_ table
    intro row kept isKept
    split at isKept
    · cases isKept
    · cases isKept
      rfl
  rwa [List.map_id] at inOrder

private theorem sublist_names_covered :
    ((covered record table).names.map Name.text).Sublist table.names := by
  refine Fields.sublist_names_filterMap ?_ table
  intro row kept isKept
  obtain ⟨field, isText, holds⟩ := Option.bind_eq_some_iff.mp isKept
  obtain ⟨value, _, isPair⟩ := Option.bind_eq_some_iff.mp holds
  cases isPair
  exact (Name.text?_eq_some_iff.mp isText).symm

/-- A walk that ends with the first rule that is not met comes upon one such rule at most. -/
theorem length_messages_le_one {call : Call} {runs : Bool} {rules : List Rule.Invocation}
    {found : List Finding} (stops : engine.Stops call)
    (finished : engine.walk wording call runs rules = .done found) :
    (found.filterMap Finding.message?).length ≤ 1 := by
  induction rules generalizing found with
  | nil =>
      cases finished
      exact Nat.zero_le 1
  | cons rule rest inductionHypothesis =>
      rw [walk_cons] at finished
      cases isVerdict : engine.verdict wording call runs rule with
      | passes =>
          rw [isVerdict] at finished
          exact inductionHypothesis finished
      | unknown =>
          simp only [isVerdict] at finished
          by_cases strict : engine.strict = true
          · rw [if_pos strict] at finished
            cases finished
          · rw [if_neg strict] at finished
            obtain ⟨others, rfl, walked⟩ := lift_cons_eq_done finished
            have later := inductionHypothesis walked
            exact later
      | fails text =>
          have endsHere : (engine.stopsEarly || call.ruleNames.contains "bail") = true := by
            simpa [Stops] using stops
          simp only [isVerdict, if_pos endsHere] at finished
          cases finished
          exact Nat.le_refl 1
      | breaks error =>
          rw [isVerdict] at finished
          cases finished

private theorem length_messages_foundOn_le_one (stops : engine.stopsEarly = true)
    (row : Name × List RuleEntry) :
    ((engine.foundOn wording record row).filterMap Finding.message?).length ≤ 1 := by
  rw [foundOn]
  cases isFound : engine.findingsOn wording record row with
  | error error =>
      exact Nat.zero_le 1
  | ok found =>
      obtain ⟨tokens, _, checked⟩ := findingsOn_eq_ok_iff.mp isFound
      exact length_messages_le_one (Or.inl stops) checked

/-- Checking gives a report on the record and the table, whatever the checks and the messages are.
If the engine stops early, there is one message about each field that is listed. -/
theorem evaluate_isOn (distinct : table.Distinct) {report : Report}
    (evaluated : engine.evaluate wording record table = .ok report) :
    report.IsOn record table ∧
      (engine.stopsEarly = true → ∀ entry ∈ report.errors, entry.2.length = 1) := by
  obtain ⟨_, rfl⟩ := evaluate_eq_ok_iff.mp evaluated
  rw [reportOf_eq distinct]
  constructor
  · constructor
    case valid =>
      exact List.isEmpty_iff
    case fields =>
      exact sublist_names_errorsIn
    case messages =>
      intro entry member
      obtain ⟨_, _, _, _, nonempty⟩ := of_mem_errorsIn member
      exact nonempty
    case data =>
      intro isValid name
      simp only at isValid ⊢
      rw [if_pos isValid, get?_covered]
    case order =>
      intro isValid
      simp only at isValid ⊢
      rw [if_pos isValid]
      exact sublist_names_covered
    case whole =>
      intro isInvalid
      simp only at isInvalid ⊢
      rw [if_neg (by simp [isInvalid])]
  · intro stops entry member
    obtain ⟨row, _, _, areMessages, nonempty⟩ := of_mem_errorsIn member
    have atMostOne :
        ((engine.foundOn wording record row).filterMap Finding.message?).length ≤ 1 :=
      length_messages_foundOn_le_one stops row
    have atLeastOne := List.length_pos_iff.mpr nonempty
    rw [areMessages] at atMostOne
    omega

/-- A check of one's own, a field that no rule is about, and an order that is not that of the
record. -/
theorem evaluate_isOn_even :
    let even : Check := fun call => .ok (call.value.toText.length % 2 = 0)
    let engine : Engine := Engine.register { stopsEarly := true } "even" even .null false
    let table : RuleTable := [(.text "b", [.token "even"]), (.text "a", [.token "even"])]
    table.Distinct ∧
      (∃ report, engine.evaluate {} [("a", .text "xy"), ("c", .null), ("b", .text "uv")] table =
          .ok report ∧
        report.IsOn [("a", .text "xy"), ("c", .null), ("b", .text "uv")] table ∧
        report.data = [("b", .text "uv"), ("a", .text "xy")]) ∧
      ∃ report, engine.evaluate {} [("a", .text "x"), ("c", .null), ("b", .text "u")] table =
          .ok report ∧
        report.IsOn [("a", .text "x"), ("c", .null), ("b", .text "u")] table ∧
        (∀ entry ∈ report.errors, entry.2.length = 1) ∧
        report.errors.names = [.text "b", .text "a"] := by
  intro even engine table
  have distinct : table.Distinct := by
    simp [table, Fields.Distinct]
  have valid : engine.evaluate {} [("a", .text "xy"), ("c", .null), ("b", .text "uv")] table =
      .ok { valid := true, errors := [], data := [("b", .text "uv"), ("a", .text "xy")] } := by
    with_unfolding_all rfl
  have invalid : engine.evaluate {} [("a", .text "x"), ("c", .null), ("b", .text "u")] table =
      .ok {
        valid := false
        errors := [(.text "b", [.text "The b field is invalid."]),
          (.text "a", [.text "The a field is invalid."])]
        data := [("a", .text "x"), ("c", .null), ("b", .text "u")] } := by
    with_unfolding_all rfl
  obtain ⟨onInvalid, oneEach⟩ := evaluate_isOn distinct invalid
  exact ⟨distinct, ⟨_, valid, (evaluate_isOn distinct valid).1, rfl⟩,
    _, invalid, onInvalid, oneEach rfl, rfl⟩

end Engine
end RecordSchema
