import Mathlib.Data.List.Forall2
import RecordSchema.Proofs.Check.Locality
import RecordSchema.Proofs.Check.Outcomes

/-!
# Further rules

Rules that no other rule looks for can be added to a field at any place.  The messages about the
field stay, and others may come: a record that is valid with further rules is valid without them.
-/

namespace RecordSchema

namespace RuleEntry

/-- An entry that adds nothing but tokens of rules that no other rule looks for. -/
def IsFurther : RuleEntry → Prop
  | .stray _ => False
  | entry => ∀ token ∈ entry.tokens, (Rule.parse token).name ∉ Engine.consulted

/-- Further entries have been inserted among the entries of a field. -/
inductive Inserted : List RuleEntry → List RuleEntry → Prop
  | nil : Inserted [] []
  | keep {entries more : List RuleEntry} (entry : RuleEntry) :
      Inserted entries more → Inserted (entry :: entries) (entry :: more)
  | insert {entries more : List RuleEntry} {entry : RuleEntry} :
      entry.IsFurther → Inserted entries more → Inserted entries (entry :: more)

variable {entry : RuleEntry} {entries more : List RuleEntry} {closures : Rule.Closures}
  {record : Fields Value}

private theorem IsFurther.name_of_adds (further : entry.IsFurther) {token : String}
    (adds : entry.Adds closures record token) : (Rule.parse token).name ∉ Engine.consulted := by
  obtain ⟨values, contributed, member⟩ := adds
  have isToken := mem_tokens_of_contribution contributed member
  cases entry with
  | stray value =>
      cases further
  | token text =>
      exact further token isToken
  | ruleSet set =>
      exact further token isToken

theorem Inserted.subset (inserted : Inserted entries more) : entries ⊆ more := by
  induction inserted with
  | nil =>
      exact List.Subset.refl _
  | keep entry _ inductionHypothesis =>
      exact List.cons_subset_cons entry inductionHypothesis
  | insert _ _ inductionHypothesis =>
      exact List.subset_cons_of_subset _ inductionHypothesis

private theorem Inserted.further_of_mem (inserted : Inserted entries more) :
    ∀ entry ∈ more, entry ∈ entries ∨ entry.IsFurther := by
  induction inserted with
  | nil =>
      exact List.forall_mem_nil _
  | keep entry _ inductionHypothesis =>
      refine List.forall_mem_cons.mpr ⟨Or.inl List.mem_cons_self, fun other member => ?_⟩
      exact (inductionHypothesis other member).imp_left (List.mem_cons_of_mem _)
  | insert further _ inductionHypothesis =>
      exact List.forall_mem_cons.mpr ⟨Or.inr further, inductionHypothesis⟩

/-- Where further entries come to tokens, the others do so without them. -/
theorem Inserted.resolve (inserted : Inserted entries more) {others : List String}
    (resolved : RuleEntry.resolve closures record more = .ok others) :
    ∃ tokens, RuleEntry.resolve closures record entries = .ok tokens ∧
      Engine.Extends tokens others := by
  have addsTokens := resolve_isOk_iff.mp ⟨others, resolved⟩
  obtain ⟨tokens, resolvedFewer⟩ :
      ∃ tokens, RuleEntry.resolve closures record entries = .ok tokens :=
    resolve_isOk_iff.mpr fun entry member => addsTokens entry (inserted.subset member)
  refine ⟨tokens, resolvedFewer, ?_, ?_⟩
  · intro token member
    obtain ⟨entry, isEntry, adds⟩ := (mem_resolve_iff resolvedFewer).mp member
    exact (mem_resolve_iff resolved).mpr ⟨entry, inserted.subset isEntry, adds⟩
  · intro token member
    obtain ⟨entry, isEntry, adds⟩ := (mem_resolve_iff resolved).mp member
    rcases inserted.further_of_mem entry isEntry with old | further
    · exact Or.inl ((mem_resolve_iff resolvedFewer).mpr ⟨entry, old, adds⟩)
    · exact Or.inr (further.name_of_adds adds)

end RuleEntry

namespace Engine

variable {engine : Engine} {wording : Message.Wording} {record : Fields Value}
  {row other : Name × List RuleEntry} {table tighter : RuleTable}

/-! ## Rows -/

/-- What applies to a record by one row extends what applies by another about the same field. -/
structure RowExtends (engine : Engine) (record : Fields Value)
    (row other : Name × List RuleEntry) : Prop where
  sameField : other.1 = row.1
  resolve : ∀ others, RuleEntry.resolve engine.closures record other.2 = .ok others →
    ∃ tokens, RuleEntry.resolve engine.closures record row.2 = .ok tokens ∧ Extends tokens others

/-- Where there are no messages with more rules, there are none with fewer. -/
theorem RowExtends.quiet (standard : engine.checks = Check.standard)
    (more : engine.RowExtends record row other)
    (quiet : engine.Finishes wording record other ∧ engine.messagesOn wording record other = []) :
    engine.Finishes wording record row ∧ engine.messagesOn wording record row = [] := by
  obtain ⟨others, resolved, settles⟩ := messagesOn_eq_nil_iff.mp quiet
  obtain ⟨tokens, resolvedFewer, extended⟩ := more.resolve others resolved
  refine messagesOn_eq_nil_iff.mpr ⟨tokens, resolvedFewer, fun token member => ?_⟩
  rw [← verdictOn_extends standard extended, ← more.sameField]
  exact settles token (extended.subset member)

/-- The messages about a field that does not stop early are among those with more rules. -/
theorem RowExtends.subperm (standard : engine.checks = Check.standard)
    (more : engine.RowExtends record row other) (finishes : engine.Finishes wording record row)
    (finishesMore : engine.Finishes wording record other) (goesOn : engine.stopsEarly = false)
    (noBail : ∀ others, RuleEntry.resolve engine.closures record other.2 = .ok others →
      "bail" ∉ namesOf others) :
    (engine.messagesOn wording record row).Subperm (engine.messagesOn wording record other) := by
  obtain ⟨others, resolved, _⟩ := walked_of_finishes finishesMore
  obtain ⟨tokens, resolvedFewer, extended⟩ := more.resolve others resolved
  have continues (names : List String) (none : "bail" ∉ names) :
      ¬ (engine.stopsEarly = true ∨ "bail" ∈ names) := by
    simp [goesOn, none]
  have noBailFewer : "bail" ∉ namesOf tokens := by
    rw [mem_namesOf]
    rintro ⟨token, member, isBail⟩
    exact noBail others resolved (mem_namesOf.mpr ⟨token, extended.subset member, isBail⟩)
  rw [messagesOn_eq finishes resolvedFewer (continues _ noBailFewer),
    messagesOn_eq finishesMore resolved (continues _ (noBail others resolved))]
  simp only [more.sameField, verdictOn_extends standard extended]
  obtain ⟨part, shuffle, sublist⟩ :=
    List.subperm_of_subset (RuleEntry.nodup_of_resolve resolvedFewer) extended.subset
  exact ⟨_, shuffle.filterMap _, sublist.filterMap _⟩

/-! ## Tables -/

/-- What applies to a record by each row of a table extends what applies by that of another. -/
abbrev TableExtends (engine : Engine) (record : Fields Value) (table tighter : RuleTable) : Prop :=
  List.Forall₂ (engine.RowExtends record) table tighter

/-- A record that is valid with more rules is valid with fewer. -/
theorem TableExtends.valid (standard : engine.checks = Check.standard)
    (more : engine.TableExtends record table tighter)
    (isValid : ∃ report, engine.evaluate wording record tighter = .ok report ∧
      report.valid = true) :
    ∃ report, engine.evaluate wording record table = .ok report ∧ report.valid = true := by
  simp only [evaluate_valid_iff, ← messagesOn_eq_nil_iff] at isValid ⊢
  induction more with
  | nil =>
      exact List.forall_mem_nil _
  | cons here _ inductionHypothesis =>
      obtain ⟨quiet, quietRest⟩ := List.forall_mem_cons.mp isValid
      exact List.forall_mem_cons.mpr ⟨here.quiet standard quiet, inductionHypothesis quietRest⟩

/-- No rule that applies to a field stops it at the first failure, and neither does the engine. -/
def GoesOn (engine : Engine) (record : Fields Value) (table : RuleTable) (field : Name) : Prop :=
  engine.stopsEarly = false ∧ ∀ row ∈ table, (field == row.1) = true →
    ∀ tokens, RuleEntry.resolve engine.closures record row.2 = .ok tokens → "bail" ∉ namesOf tokens

/-- The messages about a field that does not stop early are among those with more rules. -/
theorem TableExtends.subperm (standard : engine.checks = Check.standard)
    (more : engine.TableExtends record table tighter) {report tighterReport : Report}
    (evaluated : engine.evaluate wording record table = .ok report)
    (evaluatedTighter : engine.evaluate wording record tighter = .ok tighterReport) {field : Name}
    (goesOn : engine.GoesOn record tighter field) :
    (report.messagesOf field).Subperm (tighterReport.messagesOf field) := by
  obtain ⟨finishes, rfl⟩ := evaluate_eq_ok_iff.mp evaluated
  obtain ⟨finishesMore, rfl⟩ := evaluate_eq_ok_iff.mp evaluatedTighter
  rw [(lists_reportOf engine wording record table).messagesOf_eq,
    (lists_reportOf engine wording record tighter).messagesOf_eq]
  clear evaluated evaluatedTighter
  obtain ⟨neverStops, noBail⟩ := goesOn
  induction more with
  | nil =>
      exact List.Subperm.refl _
  | @cons row other rest restTighter here _ inductionHypothesis =>
      obtain ⟨finishesHere, finishesRest⟩ := List.forall_mem_cons.mp finishes
      obtain ⟨finishesMoreHere, finishesMoreRest⟩ := List.forall_mem_cons.mp finishesMore
      obtain ⟨noBailHere, noBailRest⟩ := List.forall_mem_cons.mp noBail
      have later := inductionHypothesis finishesRest finishesMoreRest noBailRest
      rw [messagesIn, messagesIn, List.flatMap_cons, List.flatMap_cons, here.sameField]
      refine ((List.subperm_append_right _).mpr ?_).trans ((List.subperm_append_left _).mpr later)
      split
      · next same =>
          exact here.subperm standard finishesHere finishesMoreHere neverStops
            (noBailHere (here.sameField ▸ same))
      · exact List.Subperm.refl _

/-- Further entries have been inserted among those of each field. -/
abbrev Tightened (table tighter : RuleTable) : Prop :=
  List.Forall₂ (fun row other => other.1 = row.1 ∧ RuleEntry.Inserted row.2 other.2) table tighter

/-- Further rules can only tighten the verdict.  A record that is valid with them is valid without
them, and where a field does not stop early, the messages about it are, in some order, among those
with further rules. -/
theorem evaluate_of_tightened (standard : engine.checks = Check.standard)
    (wording : Message.Wording) (record : Fields Value) (tightened : Tightened table tighter) :
    ((∃ report, engine.evaluate wording record tighter = .ok report ∧ report.valid = true) →
      ∃ report, engine.evaluate wording record table = .ok report ∧ report.valid = true) ∧
    ∀ report tighterReport, engine.evaluate wording record table = .ok report →
      engine.evaluate wording record tighter = .ok tighterReport →
      ∀ field, engine.GoesOn record tighter field →
        (report.messagesOf field).Subperm (tighterReport.messagesOf field) := by
  have more : engine.TableExtends record table tighter :=
    tightened.imp fun row other ⟨sameField, inserted⟩ =>
      ⟨sameField, fun others resolved => inserted.resolve resolved⟩
  refine ⟨more.valid standard, ?_⟩
  intro report tighterReport evaluated evaluatedTighter field goesOn
  exact more.subperm standard evaluated evaluatedTighter goesOn

/-- Tags that are to be a list, and that are not to be there at all where there is a country. -/
theorem evaluate_of_tightened_tags :
    let extra : RuleEntry :=
      .ruleSet ⟨.fields [(.text "country", .text "US")], ["prohibited", "array"], "array"⟩
    let table : RuleTable := [(.text "tags", [.token "array"])]
    let tighter : RuleTable := [(.text "tags", [extra, .token "array"])]
    let record : Fields Value := [("tags", .int 3), ("country", .text "US")]
    let standing : Engine := {}
    standing.checks = Check.standard ∧ Tightened table tighter ∧
      ((∃ report, standing.evaluate {} record tighter = .ok report ∧ report.valid = true) →
        ∃ report, standing.evaluate {} record table = .ok report ∧ report.valid = true) ∧
      ∃ report tighterReport, standing.evaluate {} record table = .ok report ∧
        standing.evaluate {} record tighter = .ok tighterReport ∧
        report.errors = [(.text "tags", [.text "The tags field must be an array."])] ∧
        tighterReport.errors = [(.text "tags", [.text "The tags field is prohibited.",
          .text "The tags field must be an array."])] ∧
        standing.GoesOn record tighter (.text "tags") ∧
        (report.messagesOf (.text "tags")).Subperm (tighterReport.messagesOf (.text "tags")) := by
  intro extra table tighter record standing
  have further : extra.IsFurther := by
    have names : extra.tokens.map (fun token => (Rule.parse token).name) =
        ["prohibited", "array"] := rfl
    have unconsulted : ∀ name ∈ ["prohibited", "array"], name ∉ consulted := by
      decide
    exact fun token member => unconsulted _ (names ▸ List.mem_map_of_mem member)
  have tightened : Tightened table tighter := .cons ⟨rfl, .insert further (.keep _ .nil)⟩ .nil
  have resolved : RuleEntry.resolve standing.closures record [.token "array"] = .ok ["array"] :=
    RuleEntry.resolve_tokens _ _ ["array"]
  have resolvedTighter : RuleEntry.resolve standing.closures record [extra, .token "array"] =
      .ok ["prohibited", "array"] := by
    refine RuleEntry.resolve_of_contributions ["prohibited", "array", "array"] ?_
    simp [extra, record, RuleEntry.contributions, RuleEntry.contribution, RuleSet.resolve,
      Rule.Condition.holds, Rule.Condition.fieldMatches, Rule.Condition.presentAndEqual,
      Value.strictlyEquals, Value.sameType, Fields.under?, Fields.get?_cons]
  have evaluated : standing.evaluate {} record table = .ok {
      valid := false
      errors := [(.text "tags", [.text "The tags field must be an array."])]
      data := record } := by
    rw [evaluate, checkTable, resolved]
    with_unfolding_all rfl
  have evaluatedTighter : standing.evaluate {} record tighter = .ok {
      valid := false
      errors := [(.text "tags", [.text "The tags field is prohibited.",
        .text "The tags field must be an array."])]
      data := record } := by
    rw [evaluate, checkTable, resolvedTighter]
    with_unfolding_all rfl
  have goesOn : standing.GoesOn record tighter (.text "tags") := by
    have names : namesOf ["prohibited", "array"] = ["prohibited", "array"] := rfl
    refine ⟨rfl, fun row member _ tokens isResolved => ?_⟩
    cases List.mem_singleton.mp member
    cases resolvedTighter.symm.trans isResolved
    simp [names]
  obtain ⟨valid, among⟩ := @evaluate_of_tightened standing table tighter rfl {} record tightened
  exact ⟨rfl, tightened, valid, _, _, evaluated, evaluatedTighter, rfl, rfl, goesOn,
    among _ _ evaluated evaluatedTighter _ goesOn⟩

end Engine
end RecordSchema
