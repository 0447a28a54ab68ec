import RecordSchema.Proofs.Report.Messages

/-!
# Reports under merging

A report that begins empty and grows by messages and by merging lists every field once, with at
least one message, and is valid exactly if it lists no field.  Such reports are a monoid under
merging: the order of the fields, their messages and the data come out the same however the merges
are nested, and the empty report changes nothing on either side.
-/

namespace RecordSchema.Report

variable {report other third : Report}

/-! ## The verdict -/

/-- The reports that come from an empty one, with any data, by adding messages and by merging. -/
inductive Gathered : Report → Prop
  | start {data : Fields Value} (distinct : data.Distinct) : Gathered { data := data }
  | addError {report : Report} (gathered : Gathered report) (field : Name) (message : Value) :
      Gathered (report.addError field message)
  | merge {report other : Report} (gathered : Gathered report) (otherGathered : Gathered other) :
      Gathered (report.merge other)

private theorem Gathered.exists_lists (gathered : report.Gathered) :
    ∃ messages, report.Lists messages := by
  induction gathered with
  | start distinct =>
      exact ⟨_, lists_nothing.withData _⟩
  | addError gathered field message inductionHypothesis =>
      obtain ⟨messages, lists⟩ := inductionHypothesis
      exact ⟨_, lists.addError field message⟩
  | merge gathered otherGathered inductionHypothesis otherHypothesis =>
      obtain ⟨messages, lists⟩ := inductionHypothesis
      obtain ⟨others, otherLists⟩ := otherHypothesis
      exact ⟨_, lists.merge otherLists⟩

private theorem Gathered.distinct_data (gathered : report.Gathered) : report.data.Distinct := by
  induction gathered with
  | start distinct =>
      exact distinct
  | addError gathered field message inductionHypothesis =>
      exact inductionHypothesis
  | merge gathered otherGathered inductionHypothesis otherHypothesis =>
      rw [merge_data]
      exact inductionHypothesis.putAll _

variable {messages others : Name → List Value}

/-- What is listed about a field is not empty. -/
theorem Lists.ne_nil (lists : report.Lists messages) {field : Name} {listed : List Value}
    (member : (field, listed) ∈ report.errors) : listed ≠ [] := by
  have found := Fields.get?_of_mem lists.distinct member
  rw [lists.listed] at found
  split at found
  · cases found
  · next something =>
      cases found
      exact something

private theorem Lists.valid_iff (lists : report.Lists messages) :
    report.valid = true ↔ report.errors = [] := by
  rw [lists.valid]
  constructor
  · intro nothing
    refine List.eq_nil_iff_forall_not_mem.mpr fun entry member => ?_
    have found := Fields.get?_of_mem lists.distinct member
    rw [lists.listed, if_pos (nothing entry.1)] at found
    cases found
  · intro empty field
    rw [← lists.messagesOf_eq, messagesOf, empty]
    rfl

/-! ## The laws -/

private theorem names_addErrors_of_has {field : Name} (known : report.errors.has field = true)
    (added : List Value) : (report.addErrors field added).errors.names = report.errors.names := by
  induction added generalizing report with
  | nil =>
      rfl
  | cons message rest inductionHypothesis =>
      have sameNames : (report.addError field message).errors.names = report.errors.names := by
        rw [addError, Fields.names_put, if_pos known]
      have stillKnown : (report.addError field message).errors.has field = true := by
        rw [Fields.has_of_names sameNames, known]
      exact (inductionHypothesis stillKnown).trans sameNames

/-- Messages about a field bring in its name, unless it is there. -/
theorem names_addErrors (report : Report) (field : Name) {added : List Value}
    (something : added ≠ []) : (report.addErrors field added).errors.names =
      if report.errors.has field then report.errors.names else report.errors.names ++ [field] := by
  obtain ⟨message, rest, rfl⟩ := List.exists_cons_of_ne_nil something
  have known : (report.addError field message).errors.has field = true := by
    simp [addError, Fields.has]
  exact (names_addErrors_of_has known rest).trans (Fields.names_put _ _ _)

/-- Merging leaves the fields that are listed in their places, and appends the others. -/
theorem names_merge (report : Report) (otherLists : other.Lists others) :
    (report.merge other).errors.names = report.errors.names ++
      other.errors.names.filter fun field => !report.errors.has field :=
  Fields.names_foldl errors
    (fun done entry member => names_addErrors done entry.1 (otherLists.ne_nil member))
    otherLists.distinct report

private theorem Lists.has_eq (lists : report.Lists messages) (field : Name) :
    report.errors.has field = !(messages field).isEmpty := by
  rw [Fields.has, lists.listed]
  split
  · next nothing =>
      simp [nothing]
  · next something =>
      simp [something]

private theorem Lists.errors_merge_assoc {thirds : Name → List Value}
    (lists : report.Lists messages)
    (otherLists : other.Lists others) (thirdLists : third.Lists thirds) :
    ((report.merge other).merge third).errors = (report.merge (other.merge third)).errors := by
  have leftLists := (lists.merge otherLists).merge thirdLists
  have rightLists := lists.merge (otherLists.merge thirdLists)
  refine Fields.eq_of_get?_eq leftLists.distinct ?_ ?_
  · rw [names_merge _ thirdLists, names_merge _ otherLists,
      names_merge _ (otherLists.merge thirdLists), names_merge _ thirdLists]
    refine Fields.append_new_assoc (fun field => ?_) _ _ _
    rw [(lists.merge otherLists).has_eq, lists.has_eq, otherLists.has_eq]
    cases messages field with
    | nil =>
        simp
    | cons message rest =>
        simp
  · intro field
    rw [leftLists.listed, rightLists.listed, List.append_assoc]

private theorem eq_of_parts (sameValid : report.valid = other.valid)
    (sameErrors : report.errors = other.errors) (sameData : report.data = other.data) :
    report = other := by
  obtain ⟨valid, errors, data⟩ := report
  cases sameValid
  cases sameErrors
  cases sameData
  rfl

private theorem Gathered.empty_merge (gathered : report.Gathered) :
    Report.merge {} report = report := by
  obtain ⟨messages, lists⟩ := gathered.exists_lists
  have merged := lists_nothing.merge lists
  refine eq_of_parts ?_ ?_ ?_
  · rw [lists_nothing.valid_merge lists, Bool.true_and]
  · refine Fields.eq_of_get?_eq merged.distinct ?_ ?_
    · rw [names_merge _ lists]
      simp [Fields.has]
    · intro field
      rw [merged.listed, lists.listed, List.nil_append]
  · rw [merge_data]
    exact Fields.ofPairs_of_distinct gathered.distinct_data

private theorem merge_empty (report : Report) : report.merge {} = report := by
  refine eq_of_parts ?_ rfl rfl
  exact Bool.and_true report.valid

private theorem Gathered.merge_assoc (gathered : report.Gathered) (otherGathered : other.Gathered)
    (thirdGathered : third.Gathered) :
    (report.merge other).merge third = report.merge (other.merge third) := by
  obtain ⟨_, lists⟩ := gathered.exists_lists
  obtain ⟨_, otherLists⟩ := otherGathered.exists_lists
  obtain ⟨_, thirdLists⟩ := thirdGathered.exists_lists
  refine eq_of_parts ?_ (lists.errors_merge_assoc otherLists thirdLists) ?_
  · rw [(lists.merge otherLists).valid_merge thirdLists, lists.valid_merge otherLists,
      lists.valid_merge (otherLists.merge thirdLists), otherLists.valid_merge thirdLists,
      Bool.and_assoc]
  · simp only [merge_data]
    exact Fields.putAll_assoc gathered.distinct_data otherGathered.distinct_data
      thirdGathered.distinct_data

/-- Reports that grow by messages and by merging are valid exactly if they list no field, list no
field without messages, and are a monoid under merging: the messages of the first come in front of
those of the second, and the data of the second win. -/
theorem Gathered.monoid_laws (gathered : report.Gathered) (otherGathered : other.Gathered)
    (thirdGathered : third.Gathered) :
    (report.valid = true ↔ report.errors = []) ∧
      (∀ field listed, (field, listed) ∈ report.errors → listed ≠ []) ∧
      (report.merge other).Gathered ∧
      (report.merge other).merge third = report.merge (other.merge third) ∧
      Report.merge {} report = report ∧
      report.merge {} = report ∧
      (∀ field, (report.merge other).messagesOf field =
        report.messagesOf field ++ other.messagesOf field) ∧
      ∀ name, (report.merge other).data.get? name =
        (other.data.get? name).or (report.data.get? name) := by
  obtain ⟨messages, lists⟩ := gathered.exists_lists
  obtain ⟨others, otherLists⟩ := otherGathered.exists_lists
  refine ⟨lists.valid_iff, fun _ _ => lists.ne_nil, gathered.merge otherGathered,
    gathered.merge_assoc otherGathered thirdGathered, gathered.empty_merge, merge_empty report,
    fun field => ?_, fun name => ?_⟩
  · rw [(lists.merge otherLists).messagesOf_eq, lists.messagesOf_eq, otherLists.messagesOf_eq]
  · rw [merge_data, Fields.get?_putAll otherGathered.distinct_data]

/-- Two reports on one field, the second with newer data, and a valid one. -/
theorem monoid_laws_age :
    let first := addError { data := [("age", .int 3)] } (.text "age") (.text "too young")
    let second := addError { data := [("age", .int 4), ("name", .null)] } (.text "age")
      (.text "not even")
    let third : Report := { data := [("name", .text "Ada")] }
    first.Gathered ∧ second.Gathered ∧ third.Gathered ∧
      (first.valid = true ↔ first.errors = []) ∧
      (first.merge second).merge third = first.merge (second.merge third) ∧
      merge {} first = first ∧
      (first.merge second).messagesOf (.text "age") =
        [.text "too young", .text "not even"] ∧
      (first.merge second).data.get? "age" = some (.int 4) := by
  intro first second third
  have distinct (data : Fields Value) (apart : data.names.Nodup) : data.Distinct :=
    Fields.distinct_iff_nodup.mpr apart
  have gathered : first.Gathered :=
    .addError (.start (distinct _ (by decide))) _ _
  have otherGathered : second.Gathered :=
    .addError (.start (distinct _ (by decide))) _ _
  have thirdGathered : third.Gathered :=
    .start (distinct _ (by decide))
  obtain ⟨valid, _, _, assoc, empty, _, listed, held⟩ :=
    gathered.monoid_laws otherGathered thirdGathered
  exact ⟨gathered, otherGathered, thirdGathered, valid, assoc, empty, listed _, held _⟩

end RecordSchema.Report
