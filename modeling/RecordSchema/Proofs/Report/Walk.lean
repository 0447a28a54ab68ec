import RecordSchema.Proofs.Fields
import RecordSchema.Report.Merging

/-!
# How far merging walks

A walk through another report adds every message of it once, and ends with the merged report.  A
walk through the report that grows ends only if it holds no message: behind the first message that
it adds there is always one more.
-/

namespace RecordSchema

namespace Report

def messagesIn : Fields (List Value) Name → Nat
  | [] => 0
  | (_, messages) :: rest => messages.length + messagesIn rest

def messageCount (report : Report) : Nat :=
  messagesIn report.errors

@[simp]
theorem messagesIn_nil : messagesIn [] = 0 := rfl

@[simp]
theorem messagesIn_cons (field : Name) (messages : List Value) (rest : Fields (List Value) Name) :
    messagesIn ((field, messages) :: rest) = messages.length + messagesIn rest := rfl

/-- A message that is added is one more, whether its field is listed already or not. -/
theorem messageCount_addError (report : Report) (field : Name) (message : Value) :
    (report.addError field message).messageCount = report.messageCount + 1 := by
  rw [messageCount, messageCount, addError, messagesOf]
  induction report.errors with
  | nil =>
      rfl
  | cons entry rest inductionHypothesis =>
      obtain ⟨name, messages⟩ := entry
      rw [Fields.put, Fields.get?_cons, BEq.comm]
      split
      · simp only [Option.getD_some, messagesIn_cons, List.length_append, List.length_singleton]
        omega
      · simp only [messagesIn_cons, inductionHypothesis]
        omega

private theorem foldl_addErrors_of_empty {fields : Fields (List Value) Name}
    (empty : messagesIn fields = 0)
    (report : Report) :
    fields.foldl (fun done entry => done.addErrors entry.1 entry.2) report = report := by
  induction fields with
  | nil =>
      rfl
  | cons entry rest inductionHypothesis =>
      obtain ⟨field, messages⟩ := entry
      obtain ⟨emptyHere, emptyRest⟩ := Nat.add_eq_zero_iff.mp empty
      rw [List.foldl_cons, List.eq_nil_of_length_eq_zero emptyHere]
      exact inductionHypothesis emptyRest

end Report

namespace Merging

open Report

/-! ## Walks -/

/-- How many messages the next step adds. -/
def additions (merging : Merging) : Nat :=
  match merging.source.errors[merging.field]? with
  | none => 0
  | some (_, messages) => if merging.message < messages.length then 1 else 0

/-- A walk of so many steps, in which so many messages are added. -/
inductive Walk : Nat → Nat → Merging → Merging → Prop
  | here (merging : Merging) : Walk 0 0 merging merging
  | step {steps added : Nat} {merging next last : Merging} (moves : merging.step? = some next)
      (rest : Walk steps added next last) :
      Walk (steps + 1) (merging.additions + added) merging last

/-- The walk comes to its end with this report after so many steps, in which so many messages have
been added. -/
def Ends (steps added : Nat) (merging : Merging) (report : Report) : Prop :=
  ∃ last, Walk steps added merging last ∧ last.step? = none ∧ last.close = report

variable {merging next last : Merging} {steps added : Nat} {field : Name} {messages : List Value}

/-- One step: a message is added, or the walk goes on to the next field. -/
theorem step?_cases (moves : merging.step? = some next) :
    (∃ field messages message, merging.source.errors[merging.field]? = some (field, messages) ∧
      messages[merging.message]? = some message ∧ merging.additions = 1 ∧
      next = { merging with
        target := merging.target.addError field message
        message := merging.message + 1 }) ∨
    (merging.additions = 0 ∧ next = { merging with field := merging.field + 1, message := 0 }) := by
  unfold step? at moves
  split at moves
  · cases moves
  · next field messages present =>
      split at moves
      · next message here =>
          obtain ⟨within, _⟩ := List.getElem?_eq_some_iff.mp here
          cases moves
          exact Or.inl ⟨field, messages, message, present, here,
            by simp [additions, present, within], rfl⟩
      · next nothing =>
          have beyond := List.getElem?_eq_none_iff.mp nothing
          cases moves
          exact Or.inr ⟨by simp [additions, present, Nat.not_lt.mpr beyond], rfl⟩

theorem Walk.add {message : Value}
    (present : merging.source.errors[merging.field]? = some (field, messages))
    (here : messages[merging.message]? = some message)
    (rest : Walk steps added { merging with
      target := merging.target.addError field message
      message := merging.message + 1 } last) : Walk (steps + 1) (added + 1) merging last := by
  obtain ⟨within, _⟩ := List.getElem?_eq_some_iff.mp here
  have moves : merging.step? = some { merging with
      target := merging.target.addError field message
      message := merging.message + 1 } := by
    simp [step?, present, here]
  have one : merging.additions = 1 := by
    simp [additions, present, within]
  have walk := Walk.step moves rest
  rwa [one, Nat.add_comm 1] at walk

private theorem Walk.move (present : merging.source.errors[merging.field]? = some (field, messages))
    (passed : messages.length ≤ merging.message)
    (rest : Walk steps added { merging with field := merging.field + 1, message := 0 } last) :
    Walk (steps + 1) added merging last := by
  have moves : merging.step? = some { merging with field := merging.field + 1, message := 0 } := by
    simp [step?, present, passed]
  have nothing : merging.additions = 0 := by
    simp [additions, present, Nat.not_lt.mpr passed]
  have walk := Walk.step moves rest
  rwa [nothing, Nat.zero_add] at walk

theorem Walk.trans {moreSteps moreAdded : Nat} (walk : Walk steps added merging next)
    (later : Walk moreSteps moreAdded next last) :
    Walk (steps + moreSteps) (added + moreAdded) merging last := by
  induction walk with
  | here =>
      simpa using later
  | step moves rest inductionHypothesis =>
      rw [Nat.add_right_comm, Nat.add_assoc (additions _)]
      exact .step moves (inductionHypothesis later)

/-- The report that a walk adds to holds as many more messages as have been added. -/
theorem Walk.messageCount_target (walk : Walk steps added merging last) :
    last.target.messageCount = merging.target.messageCount + added := by
  induction walk with
  | here =>
      rfl
  | step moves rest inductionHypothesis =>
      rcases step?_cases moves with ⟨field, _, message, _, _, one, rfl⟩ | ⟨nothing, rfl⟩
      · rw [inductionHypothesis, messageCount_addError, one, Nat.add_assoc]
      · rw [inductionHypothesis, nothing, Nat.zero_add]

/-- Every walk from the same start goes on to where one has ended. -/
theorem Walk.extends {otherSteps otherAdded : Nat} {other : Merging}
    (walk : Walk steps added merging last) (ended : last.step? = none)
    (otherWalk : Walk otherSteps otherAdded merging other) :
    ∃ moreSteps moreAdded, Walk moreSteps moreAdded other last ∧
      steps = otherSteps + moreSteps ∧ added = otherAdded + moreAdded := by
  induction otherWalk generalizing steps added with
  | here =>
      exact ⟨steps, added, walk, (Nat.zero_add _).symm, (Nat.zero_add _).symm⟩
  | step moves rest inductionHypothesis =>
      cases walk with
      | here =>
          rw [ended] at moves
          cases moves
      | step sameMoves later =>
          cases sameMoves.symm.trans moves
          obtain ⟨moreSteps, moreAdded, more, isSteps, isAdded⟩ := inductionHypothesis later
          exact ⟨moreSteps, moreAdded, more, by omega, by omega⟩

theorem Ends.unique {otherSteps otherAdded : Nat} {report other : Report}
    (ends : Ends steps added merging report)
    (otherEnds : Ends otherSteps otherAdded merging other) :
    otherAdded = added ∧ other = report := by
  obtain ⟨last, walk, ended, rfl⟩ := ends
  obtain ⟨otherLast, otherWalk, otherOver, rfl⟩ := otherEnds
  obtain ⟨_, _, more, _, isAdded⟩ := walk.extends ended otherWalk
  cases more with
  | here =>
      exact ⟨isAdded.symm, rfl⟩
  | step moves _ =>
      rw [otherOver] at moves
      cases moves

/-- A walk that ends does not go on for ever. -/
theorem Ends.not_forever {report : Report} (ends : Ends steps added merging report) :
    ¬ ∀ added, ∃ steps last, Walk steps added merging last := by
  intro forever
  obtain ⟨last, walk, ended, _⟩ := ends
  obtain ⟨_, _, longer⟩ := forever (added + 1)
  obtain ⟨_, _, _, _, isAdded⟩ := walk.extends ended longer
  omega

/-! ## The bounded run -/

private theorem finish?_of_walk (walk : Walk steps added merging last) (more : Nat) :
    finish? (steps + more) merging = finish? more last := by
  induction walk with
  | here =>
      rw [Nat.zero_add]
  | step moves rest inductionHypothesis =>
      rw [Nat.add_right_comm, finish?, moves]
      exact inductionHypothesis

private theorem Ends.finish?_eq {report : Report} (ends : Ends steps added merging report)
    (more : Nat) :
    finish? (steps + more) merging = some report := by
  obtain ⟨last, walk, ended, rfl⟩ := ends
  rw [finish?_of_walk walk]
  cases more with
  | zero =>
      simp [finish?, ended]
  | succ more =>
      simp [finish?, ended]

private theorem exists_ends_of_finish? {bound : Nat} {report : Report}
    (finished : finish? bound merging = some report) :
    ∃ steps added, Ends steps added merging report := by
  induction bound generalizing merging with
  | zero =>
      rw [finish?] at finished
      split at finished
      · next ended =>
          cases finished
          exact ⟨0, 0, merging, .here merging, Option.isNone_iff_eq_none.mp ended, rfl⟩
      · cases finished
  | succ bound inductionHypothesis =>
      rw [finish?] at finished
      split at finished
      · next ended =>
          cases finished
          exact ⟨0, 0, merging, .here merging, ended, rfl⟩
      · next next moves =>
          obtain ⟨steps, added, last, walk, ended, isReport⟩ := inductionHypothesis finished
          exact ⟨_, _, last, .step moves walk, ended, isReport⟩

/-! ## Through another report -/

section

variable (target : Report) {other : Report}

private theorem walk_messages {position : Nat} (before messages : List Value)
    (present : other.errors[position]? = some (field, before ++ messages)) :
    Walk messages.length messages.length ⟨target, some other, position, before.length⟩
      ⟨target.addErrors field messages, some other, position, (before ++ messages).length⟩ := by
  induction messages generalizing target before with
  | nil =>
      simpa [addErrors] using Walk.here _
  | cons message rest inductionHypothesis =>
      have here : (before ++ message :: rest)[before.length]? = some message := by
        simp
      have later : other.errors[position]? = some (field, (before ++ [message]) ++ rest) := by
        simpa using present
      have walk := inductionHypothesis (target.addError field message) _ later
      rw [List.length_append, List.length_singleton, List.append_assoc] at walk
      exact .add present here walk

private theorem walk_fields (before fields : Fields (List Value) Name)
    (present : other.errors = before ++ fields) :
    Walk (stepsThrough fields) (messagesIn fields) ⟨target, some other, before.length, 0⟩
      ⟨fields.foldl (fun done entry => done.addErrors entry.1 entry.2) target,
        some other, other.errors.length, 0⟩ := by
  induction fields generalizing target before with
  | nil =>
      simpa [stepsThrough, present] using Walk.here _
  | cons entry rest inductionHypothesis =>
      obtain ⟨field, messages⟩ := entry
      have here : other.errors[before.length]? = some (field, [] ++ messages) := by
        simp [present]
      have later : other.errors = (before ++ [(field, messages)]) ++ rest := by
        simpa using present
      have walk := inductionHypothesis (target.addErrors field messages) _ later
      rw [List.length_append, List.length_singleton] at walk
      exact (walk_messages target [] messages here).trans (.move here (Nat.le_refl _) walk)

/-- A walk through another report ends with the merged report, after every message of the other one
has been added. -/
theorem ends_other (other : Report) :
    Ends (stepsThrough other.errors) other.messageCount ⟨target, some other, 0, 0⟩
      (target.merge other) :=
  ⟨_, walk_fields target [] other.errors rfl, by simp [step?, source], rfl⟩

end

/-! ## Through the report itself -/

section

variable {report : Report}

private theorem walk_empty (before fields after : Fields (List Value) Name)
    (present : report.errors = before ++ (fields ++ after))
    (empty : messagesIn fields = 0) :
    Walk fields.length 0 ⟨report, none, before.length, 0⟩
      ⟨report, none, before.length + fields.length, 0⟩ := by
  induction fields generalizing before with
  | nil =>
      exact .here _
  | cons entry rest inductionHypothesis =>
      obtain ⟨field, messages⟩ := entry
      obtain ⟨emptyHere, emptyRest⟩ := Nat.add_eq_zero_iff.mp empty
      have here : report.errors[before.length]? = some (field, messages) := by
        simp [present]
      have later : report.errors = (before ++ [(field, messages)]) ++ (rest ++ after) := by
        simpa using present
      have walk := inductionHypothesis _ later emptyRest
      rw [List.length_append, List.length_singleton, Nat.add_right_comm] at walk
      exact .move here (Nat.le_of_eq emptyHere) walk

/-- Behind the message that a walk has come to there is one more when it has been added. -/
theorem walk_growing {before after : Fields (List Value) Name} {position : Nat}
    (fresh : before.get? field = none) (within : position < messages.length)
    (present : report.errors = before ++ (field, messages) :: after) (added : Nat) :
    ∃ last, Walk added added ⟨report, none, before.length, position⟩ last := by
  -- The induction carries along that the walk stands in front of a message of the same field.
  induction added generalizing report messages position with
  | zero =>
      exact ⟨_, .here _⟩
  | succ added inductionHypothesis =>
      have here : report.errors[before.length]? = some (field, messages) := by
        simp [present]
      have listed : report.messagesOf field = messages := by
        simp [messagesOf, present, fresh, Fields.get?_cons]
      have grown : (report.addError field messages[position]).errors =
          before ++ (field, messages ++ [messages[position]]) :: after := by
        simp [addError, listed, present, Fields.put_append fresh, Fields.put]
      have stillWithin : position + 1 < (messages ++ [messages[position]]).length := by
        simpa using within
      obtain ⟨last, walk⟩ := inductionHypothesis stillWithin grown
      exact ⟨last, .add here (List.getElem?_eq_getElem within) walk⟩

private theorem exists_first {fields : Fields (List Value) Name}
    (nonempty : messagesIn fields ≠ 0) :
    ∃ before field messages after, fields = before ++ (field, messages) :: after ∧
      messagesIn before = 0 ∧ 0 < messages.length := by
  induction fields with
  | nil =>
      exact absurd rfl nonempty
  | cons entry rest inductionHypothesis =>
      obtain ⟨field, messages⟩ := entry
      cases messages with
      | cons message others =>
          exact ⟨[], field, message :: others, rest, rfl, rfl, Nat.succ_pos _⟩
      | nil =>
          obtain ⟨before, name, messages, after, rfl, empty, positive⟩ :=
            inductionHypothesis (by simpa using nonempty)
          exact ⟨(field, []) :: before, name, messages, after, rfl, by simpa using empty, positive⟩

/-- A walk through the report itself goes on for ever if there is a message. -/
theorem walk_self_forever (distinct : report.errors.Distinct) (nonempty : report.messageCount ≠ 0)
    (added : Nat) : ∃ steps last, Walk steps added ⟨report, none, 0, 0⟩ last := by
  obtain ⟨before, field, messages, after, present, empty, positive⟩ := exists_first nonempty
  have fresh : before.get? field = none := by
    rw [present, Fields.distinct_append] at distinct
    exact Fields.get?_eq_none_iff.mpr fun other member =>
      distinct.2.2 other member field (by simp)
  obtain ⟨last, walk⟩ := walk_growing fresh positive present added
  have start := walk_empty [] before _ present empty
  rw [List.length_nil, Nat.zero_add] at start
  exact ⟨_, last, by simpa using start.trans walk⟩

private theorem ends_self (empty : report.messageCount = 0) :
    Ends report.errors.length 0 ⟨report, none, 0, 0⟩ (report.merge report) := by
  have walk := walk_empty [] report.errors [] (List.append_nil _).symm empty
  rw [List.length_nil, Nat.zero_add] at walk
  refine ⟨_, walk, by simp [step?, source], ?_⟩
  rw [merge, foldl_addErrors_of_empty empty]
  rfl

private theorem ends_self_iff (distinct : report.errors.Distinct) :
    (∃ steps added result, Ends steps added ⟨report, none, 0, 0⟩ result) ↔
      report.messageCount = 0 := by
  constructor
  · rintro ⟨_, _, _, ends⟩
    exact Classical.byContradiction fun nonempty =>
      ends.not_forever (walk_self_forever distinct nonempty)
  · intro empty
    exact ⟨_, _, _, ends_self empty⟩

private theorem length_le_stepsThrough (fields : Fields (List Value) Name) :
    fields.length ≤ stepsThrough fields := by
  induction fields with
  | nil =>
      exact Nat.le_refl 0
  | cons entry rest inductionHypothesis =>
      rw [stepsThrough, List.length_cons]
      omega

private theorem mergeSelf?_eq (distinct : report.errors.Distinct) :
    report.mergeSelf? = if report.messageCount = 0 then some (report.merge report) else none := by
  rw [mergeSelf?]
  split
  · next empty =>
      obtain ⟨more, isEnough⟩ := Nat.exists_eq_add_of_le
        (Nat.le_add_right_of_le (length_le_stepsThrough report.errors))
      rw [isEnough]
      exact (ends_self empty).finish?_eq more
  · next nonempty =>
      refine Option.eq_none_iff_forall_ne_some.mpr fun result finished => nonempty ?_
      obtain ⟨_, _, ends⟩ := exists_ends_of_finish? finished
      exact (ends_self_iff distinct).mp ⟨_, _, _, ends⟩

end

end Merging

namespace Report

open Merging

/-- Merging with another report ends after exactly as many additions as that report holds messages.
Merging a report with itself ends only if it holds no message, and then adds none; otherwise any
number of messages is added, and the walk still goes on. -/
theorem merging_ends_iff {report : Report} (distinct : report.errors.Distinct) :
    (∀ other : Report,
      Ends (stepsThrough other.errors) other.messageCount ⟨report, some other, 0, 0⟩
          (report.merge other) ∧
        ∀ steps added result, Ends steps added ⟨report, some other, 0, 0⟩ result →
          added = other.messageCount ∧ result = report.merge other) ∧
      ((∃ steps added result, Ends steps added ⟨report, none, 0, 0⟩ result) ↔
        report.messageCount = 0) ∧
      (∀ steps added result, Ends steps added ⟨report, none, 0, 0⟩ result →
        added = report.messageCount ∧ result = report.merge report) ∧
      (report.messageCount ≠ 0 → ∀ added, ∃ steps last,
        Walk steps added ⟨report, none, 0, 0⟩ last ∧
          last.target.messageCount = report.messageCount + added) ∧
      report.mergeSelf? =
        if report.messageCount = 0 then some (report.merge report) else none := by
  refine ⟨fun other => ⟨ends_other report other, fun steps added result ends => ?_⟩,
    ends_self_iff distinct, fun steps added result ends => ?_, fun nonempty added => ?_,
    mergeSelf?_eq distinct⟩
  · exact (ends_other report other).unique ends
  · have empty := (ends_self_iff distinct).mp ⟨_, _, _, ends⟩
    rw [empty]
    exact (ends_self empty).unique ends
  · obtain ⟨steps, last, walk⟩ := walk_self_forever distinct nonempty added
    exact ⟨steps, last, walk, walk.messageCount_target⟩

/-- A report with a message is merged into another one, and into itself without end. -/
theorem merging_ends_iff_age :
    let report := addError {} (.text "age") (.text "too young")
    let other := addError report (.text "name") (.text "missing")
    report.errors.Distinct ∧ other.messageCount = 2 ∧
      (∃ steps, Ends steps 2 ⟨report, some other, 0, 0⟩ (report.merge other)) ∧
      ∀ added, ∃ steps last, Walk steps added ⟨report, none, 0, 0⟩ last ∧
        last.target.messageCount = 1 + added := by
  intro report other
  have distinct : report.errors.Distinct := Fields.distinct_nil.put _ _
  obtain ⟨others, _, _, forever, _⟩ := merging_ends_iff distinct
  have two : other.messageCount = 2 := rfl
  have ends := (others other).1
  rw [two] at ends
  exact ⟨distinct, two, ⟨_, ends⟩, forever (by decide)⟩

/-- A report with a message cannot be merged into itself. -/
theorem merging_self_endless :
    let report := addError {} (.text "age") (.text "too young")
    report.messageCount = 1 ∧
      ¬ ∃ steps added result, Ends steps added ⟨report, none, 0, 0⟩ result := by
  intro report
  have distinct : report.errors.Distinct := Fields.distinct_nil.put _ _
  exact ⟨rfl, fun ends => absurd ((ends_self_iff distinct).mp ends) (by decide)⟩

end Report
end RecordSchema
