import RecordSchema.Proofs.Check.Totality

/-!
# Fields that fail

A walk that comes to an end reports a failure exactly if one of its rules runs and is not met, no
matter where the walk stopped.  So a report has messages about a field exactly if one of the rules
that the entries of the field come to is not met.
-/

namespace RecordSchema

namespace Text

/-- An element that no other equals is left among the distinct ones. -/
theorem mem_distinct {α : Type} [BEq α] {item : α}
    (only : ∀ other, (item == other) = true → other = item) {items : List α}
    (member : item ∈ items) : item ∈ distinct items := by
  induction items with
  | nil =>
      cases member
  | cons first rest inductionHypothesis =>
      rw [distinct]
      rcases List.mem_cons.mp member with here | later
      · exact here ▸ List.mem_cons_self
      · by_cases same : (item == first) = true
        · rw [only first same]
          exact List.mem_cons_self
        · apply List.mem_cons_of_mem
          exact List.mem_filter.mpr ⟨inductionHypothesis later, by simpa using same⟩

end Text

theorem Value.eq_text_of_agrees {token : String} {other : Value}
    (same : (Value.text token).agrees other = true) : other = .text token := by
  cases other with
  | text found =>
      have equal : token = found := by
        simpa using same
      rw [equal]
  | _ =>
      simp [agrees, isSameNan, equals, numeral?] at same

namespace RuleEntry

variable {closures : Rule.Closures} {record : Fields Value}

private theorem mem_contributions {entries : List RuleEntry} {values : List Value}
    (collected : contributions closures record entries = .ok values) {token : String}
    (member : .token token ∈ entries) : .text token ∈ values := by
  induction entries generalizing values with
  | nil =>
      cases member
  | cons entry rest inductionHypothesis =>
      obtain ⟨first, isFirst, afterFirst⟩ := Outcome.bind_eq_ok_iff.mp collected
      obtain ⟨others, areOthers, isWhole⟩ := Outcome.bind_eq_ok_iff.mp afterFirst
      cases isWhole
      rcases List.mem_cons.mp member with here | later
      · cases here
        cases isFirst
        exact List.mem_append_left _ List.mem_cons_self
      · exact List.mem_append_right _ (inductionHypothesis areOthers later)

private theorem tokensOf_eq_ok {values : List Value} {tokens : List String}
    (read : tokensOf values = .ok tokens) : values = tokens.map .text := by
  induction values generalizing tokens with
  | nil =>
      cases read
      rfl
  | cons value rest inductionHypothesis =>
      cases value with
      | text first =>
          obtain ⟨others, areOthers, rfl⟩ := Outcome.map_eq_ok_iff.mp read
          rw [inductionHypothesis areOthers, List.map_cons]
      | _ =>
          cases read

/-- The tokens that apply to a record are what the entries contribute, without what is there
already. -/
theorem resolve_eq_ok {entries : List RuleEntry} {tokens : List String}
    (resolved : resolve closures record entries = .ok tokens) :
    ∃ values, contributions closures record entries = .ok values ∧
      @Text.distinct Value ⟨Value.agrees⟩ values = tokens.map .text := by
  obtain ⟨distinct, areDistinct, read⟩ := Outcome.bind_eq_ok_iff.mp resolved
  obtain ⟨values, collected, isDistinct⟩ := Outcome.bind_eq_ok_iff.mp areDistinct
  unfold distinctValues at isDistinct
  split at isDistinct
  · cases isDistinct
    exact ⟨values, collected, tokensOf_eq_ok read⟩
  · cases isDistinct

/-- A token that always applies is among those that apply to a record. -/
theorem mem_resolve {entries : List RuleEntry} {tokens : List String}
    (resolved : resolve closures record entries = .ok tokens) {token : String}
    (member : .token token ∈ entries) : token ∈ tokens := by
  obtain ⟨values, collected, areDistinct⟩ := resolve_eq_ok resolved
  have kept : .text token ∈ @Text.distinct Value ⟨Value.agrees⟩ values :=
    @Text.mem_distinct Value ⟨Value.agrees⟩ _
      (fun _ same => Value.eq_text_of_agrees same) _ (mem_contributions collected member)
  rw [areDistinct] at kept
  simpa using kept

end RuleEntry

namespace Engine

variable {engine : Engine} {wording : Message.Wording} {call : Call} {runs : Bool}
  {record : Fields Value}

/-! ## Walks -/

/-- Some rule is reported not to be met. -/
def Reports (found : List Finding) : Prop :=
  ∃ message, Finding.failed message ∈ found

private theorem not_reports_nil : ¬ Reports [] := by
  rintro ⟨_, member⟩
  cases member

private theorem reports_skipped_iff {rule : String} {found : List Finding} :
    Reports (.skipped rule :: found) ↔ Reports found := by
  simp [Reports]

private theorem reports_failed (message : String) (found : List Finding) :
    Reports (.failed message :: found) :=
  ⟨message, List.mem_cons_self⟩

private theorem filterMap_message?_ne_nil_iff {found : List Finding} :
    found.filterMap Finding.message? ≠ [] ↔ Reports found := by
  induction found with
  | nil =>
      simp [not_reports_nil]
  | cons finding rest inductionHypothesis =>
      cases finding with
      | skipped rule =>
          rw [reports_skipped_iff, ← inductionHypothesis]
          simp [Finding.message?]
      | failed message =>
          simp [Finding.message?, reports_failed]

/-- One step of a walk that ends in no error: a rule that fails is reported, and any other leaves
the verdict to the rest of the walk. -/
theorem walk_cons_reports (standard : engine.checks = Check.standard) {rule : Rule.Invocation}
    {rest : List Rule.Invocation}
    (finished : (engine.walk wording call runs (rule :: rest)).failure = none) :
    (engine.Fails call runs rule ∧ Reports (engine.walk wording call runs (rule :: rest)).state) ∨
      (¬ engine.Fails call runs rule ∧ (engine.walk wording call runs rest).failure = none ∧
        (Reports (engine.walk wording call runs (rule :: rest)).state ↔
          Reports (engine.walk wording call runs rest).state)) := by
  rw [walk, standard] at finished ⊢
  by_cases marked : rule.name ∈ markers
  · have passes : ¬ engine.Fails call runs rule := fun fails => fails.1.1 marked
    simp only [List.contains_iff_mem, marked, if_true] at finished ⊢
    exact Or.inr ⟨passes, finished, trivial⟩
  simp only [List.contains_iff_mem, marked, if_false] at finished ⊢
  cases known : Check.standard.get? rule.name with
  | none =>
      have passes : ¬ engine.Fails call runs rule := by
        rintro ⟨_, check, isKnown, _⟩
        rw [known] at isKnown
        cases isKnown
      simp only [known] at finished ⊢
      by_cases strict : engine.strict = true
      · simp [strict, Change.failed] at finished
      · simp only [strict, Bool.false_eq_true, if_false, Change.lift] at finished ⊢
        exact Or.inr ⟨passes, finished, reports_skipped_iff⟩
  | some check =>
      simp only [known] at finished ⊢
      by_cases asks : engine.Asks runs rule
      · have asked : (!runs && !engine.implicit.contains rule.name) = false := by
          rcases asks.2 with running | implicit
          · simp [running]
          · simp [implicit]
        simp only [asked, Bool.false_eq_true, if_false] at finished ⊢
        cases outcome : check { call with parameters := rule.parameters } with
        | error error =>
            simp [outcome, Change.failed] at finished
        | ok met =>
            cases met with
            | true =>
                have passes : ¬ engine.Fails call runs rule := by
                  rintro ⟨_, other, isOther, failed⟩
                  cases known.symm.trans isOther
                  rw [outcome] at failed
                  cases failed
                simp only [outcome] at finished ⊢
                exact Or.inr ⟨passes, finished, trivial⟩
            | false =>
                refine Or.inl ⟨⟨asks, check, known, outcome⟩, ?_⟩
                simp only [outcome] at finished ⊢
                cases message : wording.message engine.templates
                    { call with parameters := rule.parameters } rule.name with
                | error error =>
                    simp [message, Change.failed] at finished
                | ok text =>
                    simp only
                    split
                    · exact reports_failed text []
                    · exact reports_failed text _
      · have idle : (!runs && !engine.implicit.contains rule.name) = true := by
          simpa [Asks, marked] using asks
        simp only [idle, if_true] at finished ⊢
        exact Or.inr ⟨fun fails => asks fails.1, finished, trivial⟩

/-- A walk that ends in no error reports a failure exactly if some rule runs and is not met. -/
theorem walk_reports_iff (standard : engine.checks = Check.standard)
    {rules : List Rule.Invocation}
    (finished : (engine.walk wording call runs rules).failure = none) :
    Reports (engine.walk wording call runs rules).state ↔
      ∃ rule ∈ rules, engine.Fails call runs rule := by
  induction rules with
  | nil =>
      simp [walk, Change.done, not_reports_nil]
  | cons rule rest inductionHypothesis =>
      simp only [List.mem_cons, exists_eq_or_imp]
      rcases walk_cons_reports standard finished with
        ⟨fails, reports⟩ | ⟨passes, restFinished, sameVerdict⟩
      · exact iff_of_true reports (Or.inl fails)
      · rw [sameVerdict, inductionHypothesis restFinished, or_iff_right passes]

/-! ## Reports -/

/-- The call that a field with these tokens is checked with, before a rule brings its
parameters. -/
def callOn (record : Fields Value) (field : Name) (tokens : List String) : Call :=
  ⟨field, (record.under? field).getD .null, [], record, (tokens.map Rule.parse).map (·.name)⟩

/-- A rule of a field with these tokens runs and is not met. -/
def FailsOn (engine : Engine) (record : Fields Value) (field : Name) (tokens : List String) :
    Prop :=
  let call := callOn record field tokens
  ∃ token ∈ tokens, engine.Fails call (runsOn record field call.ruleNames) (Rule.parse token)

private theorem reports_foundOn_iff (standard : engine.checks = Check.standard)
    {row : Name × List RuleEntry} (finishes : engine.Finishes wording record row) :
    Reports (engine.foundOn wording record row) ↔
      ∃ tokens, RuleEntry.resolve engine.closures record row.2 = .ok tokens ∧
        engine.FailsOn record row.1 tokens := by
  obtain ⟨found, isFound⟩ := finishes
  obtain ⟨tokens, resolved, checked⟩ := findingsOn_eq_ok_iff.mp isFound
  have finished : (engine.checkField wording record row.1 tokens).failure = none ∧
      (engine.checkField wording record row.1 tokens).state = found := by
    rw [checked]
    exact ⟨rfl, rfl⟩
  have unique : (∃ other, RuleEntry.resolve engine.closures record row.2 = .ok other ∧
      engine.FailsOn record row.1 other) ↔ engine.FailsOn record row.1 tokens := by
    simp [resolved]
  rw [unique, foundOn, isFound, ← finished.2, checkField, walk_reports_iff standard finished.1]
  constructor
  · rintro ⟨_, member, fails⟩
    obtain ⟨token, isToken, rfl⟩ := List.mem_map.mp member
    exact ⟨token, isToken, fails⟩
  · rintro ⟨token, isToken, fails⟩
    exact ⟨Rule.parse token, List.mem_map_of_mem isToken, fails⟩

/-- A report has messages about a field exactly if a rule of the field is not met. -/
theorem messagesOf_ne_nil_iff (standard : engine.checks = Check.standard) {table : RuleTable}
    {report : Report} (evaluated : engine.evaluate wording record table = .ok report)
    (field : Name) :
    report.messagesOf field ≠ [] ↔ ∃ row ∈ table, (field == row.1) = true ∧
      ∃ tokens, RuleEntry.resolve engine.closures record row.2 = .ok tokens ∧
        engine.FailsOn record row.1 tokens := by
  obtain ⟨finishes, rfl⟩ := evaluate_eq_ok_iff.mp evaluated
  rw [(lists_reportOf engine wording record table).messagesOf_eq, messagesIn, Ne,
    List.flatMap_eq_nil_iff]
  constructor
  · intro found
    refine Classical.byContradiction fun passes => found fun row member => ?_
    by_cases same : (field == row.1) = true
    · rw [if_pos same]
      refine Classical.byContradiction fun listed => passes ⟨row, member, same, ?_⟩
      exact (reports_foundOn_iff standard (finishes row member)).mp
        (filterMap_message?_ne_nil_iff.mp listed)
    · rw [if_neg same]
  · rintro ⟨row, member, same, fails⟩ quiet
    have reports := (reports_foundOn_iff standard (finishes row member)).mpr fails
    have unlisted := quiet row member
    rw [if_pos same] at unlisted
    exact filterMap_message?_ne_nil_iff.mpr reports unlisted

/-- A report is invalid exactly if it has messages about some field. -/
theorem valid_eq_false_iff {table : RuleTable} {report : Report}
    (evaluated : engine.evaluate wording record table = .ok report) :
    report.valid = false ↔ ∃ field, report.messagesOf field ≠ [] := by
  obtain ⟨_, rfl⟩ := evaluate_eq_ok_iff.mp evaluated
  have lists := lists_reportOf engine wording record table
  rw [← Bool.not_eq_true, lists.valid, Classical.not_forall]
  simp only [lists.messagesOf_eq]

end Engine
end RecordSchema
