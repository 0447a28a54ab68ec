import Mathlib
import RecordSchema.Proofs.Check.Findings

/-!
# Checking in parts

A table that is split into two is checked in two parts, and the merged reports agree with the
report on the whole.  The order of the rows makes no difference, since no two rows are about the
same field.
-/

namespace RecordSchema

namespace Fields

variable {α β κ : Type} [BEq κ] [EquivBEq κ]

/-- Where no name occurs twice, one field at most is there under a name, so its place among the
fields makes no difference. -/
theorem flatMap_under_perm {fields shuffled : Fields α κ} (distinct : fields.Distinct)
    (shuffle : shuffled.Perm fields) (name : κ) (parts : κ × α → List β) :
    shuffled.flatMap (fun field => if name == field.1 then parts field else []) =
      fields.flatMap fun field => if name == field.1 then parts field else [] := by
  induction shuffle with
  | nil =>
      rfl
  | cons field _ inductionHypothesis =>
      simp only [List.flatMap_cons]
      rw [inductionHypothesis (distinct_cons.mp distinct).2]
  | swap first second rest =>
      obtain ⟨fresh, _⟩ := distinct_cons.mp distinct
      have differ : (first.1 == second.1) = false := fresh second.1 (by simp)
      simp only [List.flatMap_cons]
      by_cases isFirst : name == first.1
      · have notSecond : (name == second.1) = false := by
          rw [BEq.congr_left isFirst]
          exact differ
        simp [notSecond]
      · simp [isFirst]
  | trans firstShuffle secondShuffle firstHypothesis secondHypothesis =>
      rw [firstHypothesis (distinct.perm secondShuffle), secondHypothesis distinct]

private theorem has_perm {fields shuffled : Fields α κ} (shuffle : shuffled.Perm fields)
    (name : κ) :
    shuffled.has name = fields.has name := by
  rw [Bool.eq_iff_iff, has, has, Option.isSome_iff_ne_none, Option.isSome_iff_ne_none, Ne, Ne,
    get?_eq_none_iff, get?_eq_none_iff]
  have sameNames : ∀ other, other ∈ shuffled.names ↔ other ∈ fields.names :=
    fun other => (shuffle.map _).mem_iff
  simp only [sameNames]

omit [EquivBEq κ] in
private theorem has_append (first second : Fields α κ) (name : κ) :
    Fields.has (first ++ second) name = (first.has name || second.has name) := by
  simp [has]

end Fields

namespace Engine

variable {engine : Engine} {wording : Message.Wording} {record : Fields Value}
  {first second table : RuleTable}

/-- The messages about a field do not depend on the order of the rows. -/
theorem messagesIn_of_perm (distinct : (first ++ second).Distinct)
    (shuffle : table.Perm (first ++ second)) (field : Name) :
    engine.messagesIn wording record table field =
      engine.messagesIn wording record first field ++
        engine.messagesIn wording record second field := by
  unfold messagesIn
  rw [Fields.flatMap_under_perm distinct shuffle, List.flatMap_append]

/-- The data of a report on the whole are those of the merged reports on the parts, whatever the
verdicts on these are. -/
theorem data_of_perm (distinctRecord : record.Distinct) (distinctSecond : second.Distinct)
    (shuffle : table.Perm (first ++ second)) (left right : Bool) (name : String) :
    Fields.get? (if left && right then covered record table else record) name =
      Fields.get? (Fields.putAll (if left then covered record first else record)
        (if right then covered record second else record)) name := by
  have distinctData :
      (if right then covered record second else record : Fields Value).Distinct := by
    split
    · exact distinct_covered distinctSecond
    · exact distinctRecord
  rw [Fields.get?_putAll distinctData]
  cases left with
  | true =>
      cases right with
      | true =>
          simp only [Bool.and_true, if_true, get?_covered, Fields.has_perm shuffle,
            Fields.has_append]
          cases first.has (.text name) <;> cases second.has (.text name) <;> simp
      | false =>
          simp only [Bool.and_false, Bool.false_eq_true, if_false, if_true, get?_covered]
          cases record.get? name <;> simp
  | false =>
      cases right with
      | true =>
          simp only [Bool.and_true, Bool.false_eq_true, if_false, if_true, get?_covered]
          cases second.has (.text name) <;> simp
      | false =>
          simp

/-- Checking the rows of two tables in any order gives what merging the reports on the two gives. -/
theorem evaluate_of_perm (distinctRecord : record.Distinct)
    (distinct : (first ++ second).Distinct) (shuffle : table.Perm (first ++ second))
    {left right : Report} (evaluatedFirst : engine.evaluate wording record first = .ok left)
    (evaluatedSecond : engine.evaluate wording record second = .ok right) :
    ∃ whole, engine.evaluate wording record table = .ok whole ∧
      whole.Agrees (left.merge right) := by
  obtain ⟨finishesFirst, rfl⟩ := evaluate_eq_ok_iff.mp evaluatedFirst
  obtain ⟨finishesSecond, rfl⟩ := evaluate_eq_ok_iff.mp evaluatedSecond
  have finishes : ∀ row ∈ table, engine.Finishes wording record row := by
    intro row member
    rcases List.mem_append.mp (shuffle.mem_iff.mp member) with inFirst | inSecond
    · exact finishesFirst row inFirst
    · exact finishesSecond row inSecond
  refine ⟨_, evaluate_eq_ok_iff.mpr ⟨finishes, rfl⟩, ?_⟩
  have leftLists := lists_reportOf engine wording record first
  have rightLists := lists_reportOf engine wording record second
  have merged := leftLists.merge rightLists
  have lists := lists_reportOf engine wording record table
  have sameMessages : engine.messagesIn wording record table = fun field =>
      engine.messagesIn wording record first field ++
        engine.messagesIn wording record second field :=
    funext (messagesIn_of_perm distinct shuffle)
  rw [sameMessages] at lists
  have verdict := (Bool.eq_iff_iff.mpr (lists.valid.trans merged.valid.symm)).trans
    (leftLists.valid_merge rightLists)
  apply lists.agrees merged
  intro name
  rw [data_reportOf, verdict, Report.merge_data, data_reportOf, data_reportOf]
  exact data_of_perm distinctRecord (Fields.distinct_append.mp distinct).2.1 shuffle _ _ name

/-- A table that is made of two is checked to the end if both are, and what merging the reports on
the two gives agrees with the report on the whole.  The order of the rows is of no account. -/
theorem evaluate_combined (distinctRecord : record.Distinct)
    (distinct : (first ++ second).Distinct) (shuffle : table.Perm (first ++ second))
    {left right : Report} (evaluatedFirst : engine.evaluate wording record first = .ok left)
    (evaluatedSecond : engine.evaluate wording record second = .ok right) :
    ∃ whole, engine.evaluate wording record table = .ok whole ∧
      whole.Agrees (left.merge right) ∧
      ∀ reordered : RuleTable, reordered.Perm table →
        ∃ again, engine.evaluate wording record reordered = .ok again ∧ again.Agrees whole := by
  obtain ⟨whole, evaluated, agrees⟩ :=
    evaluate_of_perm distinctRecord distinct shuffle evaluatedFirst evaluatedSecond
  refine ⟨whole, evaluated, agrees, ?_⟩
  intro reordered reorder
  obtain ⟨again, evaluatedAgain, agreesAgain⟩ := evaluate_of_perm distinctRecord distinct
    (reorder.trans shuffle) evaluatedFirst evaluatedSecond
  exact ⟨again, evaluatedAgain, agreesAgain.trans agrees.symm⟩

/-- A name that is missing and an age that is fine. -/
theorem evaluate_combined_mixed :
    ∃ left right, Fields.Distinct [("age", Value.int 3)] ∧
      Fields.Distinct ([(Name.text "name", [RuleEntry.token "required"])] ++
        [(Name.text "age", [RuleEntry.token "integer"])]) ∧
      evaluate {} {} [("age", .int 3)] [(.text "name", [.token "required"])] = .ok left ∧
      evaluate {} {} [("age", .int 3)] [(.text "age", [.token "integer"])] = .ok right ∧
      ∃ whole, evaluate {} {} [("age", .int 3)]
          [(.text "age", [.token "integer"]), (.text "name", [.token "required"])] = .ok whole ∧
        whole.Agrees (left.merge right) ∧
        ∀ reordered : RuleTable, reordered.Perm
            [(.text "age", [.token "integer"]), (.text "name", [.token "required"])] →
          ∃ again, evaluate {} {} [("age", .int 3)] reordered = .ok again ∧
            again.Agrees whole := by
  have distinctRecord : Fields.Distinct [("age", Value.int 3)] := by
    simp [Fields.Distinct]
  have distinct : Fields.Distinct ([(Name.text "name", [RuleEntry.token "required"])] ++
      [(Name.text "age", [RuleEntry.token "integer"])]) := by
    simp [Fields.Distinct]
  have missing : evaluate {} {} [("age", .int 3)] [(.text "name", [.token "required"])] = .ok {
      valid := false
      errors := [(.text "name", [.text "The name field is required."])]
      data := [("age", .int 3)] } := by
    cbv
  have fine : evaluate {} {} [("age", .int 3)] [(.text "age", [.token "integer"])] =
      .ok { data := [("age", .int 3)] } := by
    rfl
  exact ⟨_, _, distinctRecord, distinct, missing, fine,
    evaluate_combined distinctRecord distinct (.swap _ _ []) missing fine⟩

end Engine
end RecordSchema
