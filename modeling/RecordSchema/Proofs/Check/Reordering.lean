import RecordSchema.Proofs.Check.Stopping
import RecordSchema.Proofs.Check.Tightening

/-!
# The order of the rules of a field

The entries of a field may stand in any order.  The same fields fail, and the verdict and the data
are the same; where a field does not stop early, the same messages are given, in another order.
-/

namespace RecordSchema

/-- Entries in another order come to the same tokens in another order. -/
theorem RuleEntry.resolve_of_perm {entries shuffled : List RuleEntry} {closures : Rule.Closures}
    {record : Fields Value}
    (shuffle : shuffled.Perm entries) {others : List String}
    (resolved : RuleEntry.resolve closures record shuffled = .ok others) :
    ∃ tokens, RuleEntry.resolve closures record entries = .ok tokens ∧ others.Perm tokens := by
  have addsTokens := resolve_isOk_iff.mp ⟨others, resolved⟩
  obtain ⟨tokens, resolvedEntries⟩ :
      ∃ tokens, RuleEntry.resolve closures record entries = .ok tokens :=
    resolve_isOk_iff.mpr fun entry member => addsTokens entry (shuffle.mem_iff.mpr member)
  refine ⟨tokens, resolvedEntries, ?_⟩
  rw [List.perm_ext_iff_of_nodup (nodup_of_resolve resolved) (nodup_of_resolve resolvedEntries)]
  intro token
  simp only [mem_resolve_iff resolved, mem_resolve_iff resolvedEntries, shuffle.mem_iff]

namespace Engine

variable {engine : Engine} {wording : Message.Wording} {record : Fields Value}
  {table reordered : RuleTable}

/-- The entries of each field stand in another order. -/
abbrev Reordered (table reordered : RuleTable) : Prop :=
  List.Forall₂ (fun row other => other.1 = row.1 ∧ other.2.Perm row.2) table reordered

theorem Reordered.symm (reorder : Reordered table reordered) : Reordered reordered table :=
  (reorder.imp fun _ _ ⟨sameField, shuffle⟩ => ⟨sameField.symm, shuffle.symm⟩).flip

/-- What applies in one order extends what applies in any other. -/
theorem Reordered.extends (reorder : Reordered table reordered) (engine : Engine)
    (record : Fields Value) : engine.TableExtends record table reordered := by
  refine reorder.imp fun row other ⟨sameField, shuffle⟩ => ⟨sameField, fun others resolved => ?_⟩
  obtain ⟨tokens, resolvedEntries, shuffled⟩ := RuleEntry.resolve_of_perm shuffle resolved
  exact ⟨tokens, resolvedEntries, extends_of_perm shuffled⟩

theorem Reordered.exists_of_mem (reorder : Reordered table reordered) :
    ∀ other ∈ reordered, ∃ row ∈ table, other.1 = row.1 ∧ other.2.Perm row.2 := by
  induction reorder with
  | nil =>
      exact List.forall_mem_nil _
  | cons here _ inductionHypothesis =>
      refine List.forall_mem_cons.mpr ⟨⟨_, List.mem_cons_self, here⟩, fun other member => ?_⟩
      obtain ⟨row, isRow, same⟩ := inductionHypothesis other member
      exact ⟨row, List.mem_cons_of_mem _ isRow, same⟩

/-- A field that does not stop early in one order does not do so in any other. -/
theorem GoesOn.of_reordered {field : Name} (goesOn : engine.GoesOn record table field)
    (reorder : Reordered table reordered) : engine.GoesOn record reordered field := by
  refine ⟨goesOn.1, fun other member same others resolved => ?_⟩
  obtain ⟨row, isRow, sameField, shuffle⟩ := reorder.exists_of_mem other member
  obtain ⟨tokens, resolvedEntries, shuffled⟩ := RuleEntry.resolve_of_perm shuffle resolved
  have noBail := goesOn.2 row isRow (sameField ▸ same) tokens resolvedEntries
  have sameNames : (namesOf others).Perm (namesOf tokens) := (shuffled.map _).map _
  exact fun isBail => noBail (sameNames.mem_iff.mp isBail)

theorem Reordered.names (reorder : Reordered table reordered) : reordered.names = table.names := by
  induction reorder with
  | nil =>
      rfl
  | cons here _ inductionHypothesis =>
      rw [Fields.names_cons, Fields.names_cons, here.1, inductionHypothesis]

/-- A table covers what its fields cover. -/
theorem covered_of_names (same : reordered.names = table.names) :
    covered record reordered = covered record table := by
  have byNames (rows : RuleTable) : covered record rows = rows.names.filterMap fun field => do
      let text ← field.text?
      return (text, ← record.get? text) := by
    rw [Fields.names, List.filterMap_map]
    rfl
  rw [byNames, byNames, same]

/-- A row is listed if there are messages about its field. -/
theorem names_errorsIn_cons (row : Name × List RuleEntry) (rest : RuleTable) :
    (engine.errorsIn wording record (row :: rest)).names =
      if engine.messagesOn wording record row = [] then (engine.errorsIn wording record rest).names
      else row.1 :: (engine.errorsIn wording record rest).names := by
  rw [errorsIn, List.filterMap_cons, messagesOn]
  cases (engine.foundOn wording record row).filterMap Finding.message? with
  | nil =>
      rfl
  | cons message more =>
      rfl

/-- The fields that fail are the same if no row is quiet in one order only. -/
theorem names_errorsIn_of_extends (standard : engine.checks = Check.standard)
    (more : engine.TableExtends record table reordered)
    (fewer : engine.TableExtends record reordered table)
    (finishes : ∀ row ∈ table, engine.Finishes wording record row)
    (finishesAgain : ∀ row ∈ reordered, engine.Finishes wording record row) :
    (engine.errorsIn wording record reordered).names =
      (engine.errorsIn wording record table).names := by
  induction more with
  | nil =>
      rfl
  | @cons row other rest restReordered here _ inductionHypothesis =>
      obtain ⟨finishesHere, finishesRest⟩ := List.forall_mem_cons.mp finishes
      obtain ⟨finishesAgainHere, finishesAgainRest⟩ := List.forall_mem_cons.mp finishesAgain
      obtain ⟨back, backRest⟩ := List.forall₂_cons.mp fewer
      have later := inductionHypothesis backRest finishesRest finishesAgainRest
      have sameQuiet : engine.messagesOn wording record other = [] ↔
          engine.messagesOn wording record row = [] := by
        constructor
        · exact fun quiet => (here.quiet standard ⟨finishesAgainHere, quiet⟩).2
        · exact fun quiet => (back.quiet standard ⟨finishesHere, quiet⟩).2
      simp only [names_errorsIn_cons, sameQuiet, later, here.sameField]

/-- The order of the entries of a field has no influence on the verdict and on the data, and the
same fields fail.  Where a field does not stop early, it has the same messages in another order. -/
theorem evaluate_of_reordered (standard : engine.checks = Check.standard)
    (wording : Message.Wording) (distinct : table.Distinct) (reorder : Reordered table reordered)
    {report again : Report} (evaluated : engine.evaluate wording record table = .ok report)
    (evaluatedAgain : engine.evaluate wording record reordered = .ok again) :
    again.valid = report.valid ∧ again.data = report.data ∧
      again.errors.names = report.errors.names ∧
      ∀ field, engine.GoesOn record table field →
        (again.messagesOf field).Perm (report.messagesOf field) := by
  have more : engine.TableExtends record table reordered := reorder.extends engine record
  have fewer : engine.TableExtends record reordered table := reorder.symm.extends engine record
  have sameNames : (engine.errorsIn wording record reordered).names =
      (engine.errorsIn wording record table).names :=
    names_errorsIn_of_extends standard more fewer (evaluate_eq_ok_iff.mp evaluated).1
      (evaluate_eq_ok_iff.mp evaluatedAgain).1
  have sameValid : (engine.errorsIn wording record reordered).isEmpty =
      (engine.errorsIn wording record table).isEmpty := by
    have byNames := congrArg List.isEmpty sameNames
    simpa [Fields.names] using byNames
  have sameMessages (field : Name) (goesOn : engine.GoesOn record table field) :
      (again.messagesOf field).Perm (report.messagesOf field) :=
    (fewer.subperm standard evaluatedAgain evaluated goesOn).antisymm
      (more.subperm standard evaluated evaluatedAgain (goesOn.of_reordered reorder))
  obtain ⟨_, rfl⟩ := evaluate_eq_ok_iff.mp evaluated
  obtain ⟨_, rfl⟩ := evaluate_eq_ok_iff.mp evaluatedAgain
  have distinctAgain : reordered.Distinct := by
    rw [Fields.Distinct, reorder.names]
    exact distinct
  rw [reportOf_eq distinct, reportOf_eq distinctAgain] at sameMessages ⊢
  simp only [sameValid, covered_of_names reorder.names]
  exact ⟨trivial, trivial, sameNames, sameMessages⟩

/-- A field that is required and one that is to be a list, where one order asks for the list
first. -/
theorem evaluate_of_reordered_tags :
    let always : RuleEntry := .ruleSet ⟨.fields [], ["array", "required"], "array"⟩
    let table : RuleTable := [(.text "tags", [.token "string", always, .token "array"])]
    let reordered : RuleTable := [(.text "tags", [.token "array", always, .token "string"])]
    let record : Fields Value := [("tags", .int 3)]
    let standing : Engine := {}
    standing.checks = Check.standard ∧ table.Distinct ∧ Reordered table reordered ∧
      ∃ report again, standing.evaluate {} record table = .ok report ∧
        standing.evaluate {} record reordered = .ok again ∧
        report.errors = [(.text "tags", [.text "The tags field must be a string.",
          .text "The tags field must be an array."])] ∧
        again.errors = [(.text "tags", [.text "The tags field must be an array.",
          .text "The tags field must be a string."])] ∧
        again.valid = report.valid ∧ again.data = report.data ∧
        again.errors.names = report.errors.names ∧
        ∀ field, standing.GoesOn record table field →
          (again.messagesOf field).Perm (report.messagesOf field) := by
  intro always table reordered record standing
  have distinct : table.Distinct := by
    simp [table, Fields.Distinct]
  have reorder : Reordered table reordered := by
    refine .cons ⟨rfl, ?_⟩ .nil
    exact (List.reverse_perm [.token "string", always, .token "array"])
  have resolved : RuleEntry.resolve standing.closures record
      [.token "string", always, .token "array"] = .ok ["string", "array", "required"] :=
    RuleEntry.resolve_of_contributions ["string", "array", "required", "array"] rfl
  have resolvedAgain : RuleEntry.resolve standing.closures record
      [.token "array", always, .token "string"] = .ok ["array", "required", "string"] :=
    RuleEntry.resolve_of_contributions ["array", "array", "required", "string"] rfl
  have evaluated : standing.evaluate {} record table = .ok {
      valid := false
      errors := [(.text "tags", [.text "The tags field must be a string.",
        .text "The tags field must be an array."])]
      data := record } := by
    rw [evaluate, checkTable, resolved]
    with_unfolding_all rfl
  have evaluatedAgain : standing.evaluate {} record reordered = .ok {
      valid := false
      errors := [(.text "tags", [.text "The tags field must be an array.",
        .text "The tags field must be a string."])]
      data := record } := by
    rw [evaluate, checkTable, resolvedAgain]
    with_unfolding_all rfl
  exact ⟨rfl, distinct, reorder, _, _, evaluated, evaluatedAgain, rfl, rfl,
    evaluate_of_reordered rfl {} distinct reorder evaluated evaluatedAgain⟩

end Engine
end RecordSchema
