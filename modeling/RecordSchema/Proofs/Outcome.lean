import RecordSchema.Change

/-!
# Outcomes of steps that may fail

How steps that may fail are chained: what a chain comes to when its first step is known, and what
its steps have come to when the chain has succeeded.  A change that is all or nothing leaves behind
what its outcome says.
-/

namespace RecordSchema

namespace Outcome

variable {ε α β : Type}

@[simp]
theorem ok_bind (value : α) (next : α → Except ε β) :
    (Except.ok value >>= next) = next value := rfl

@[simp]
theorem error_bind (error : ε) (next : α → Except ε β) :
    (Except.error error >>= next) = .error error := rfl

@[simp]
theorem map_ok (change : α → β) (value : α) :
    (Except.ok value : Except ε α).map change = .ok (change value) := rfl

@[simp]
theorem map_error (change : α → β) (error : ε) :
    (Except.error error : Except ε α).map change = .error error := rfl

@[simp]
theorem pure_eq_ok (value : α) : (pure value : Except ε α) = .ok value := rfl

@[simp]
theorem throw_eq_error (error : ε) : (throw error : Except ε α) = .error error := rfl

theorem bind_eq_ok_iff {first : Except ε α} {next : α → Except ε β} {result : β} :
    (first >>= next) = .ok result ↔
      ∃ value, first = .ok value ∧ next value = .ok result := by
  cases first with
  | error error =>
      simp
  | ok value =>
      simp

theorem bind_eq_error_iff {first : Except ε α} {next : α → Except ε β} {error : ε} :
    (first >>= next) = .error error ↔
      first = .error error ∨ ∃ value, first = .ok value ∧ next value = .error error := by
  cases first with
  | error failure =>
      simp
  | ok value =>
      simp

theorem map_eq_ok_iff {first : Except ε α} {change : α → β} {result : β} :
    first.map change = .ok result ↔ ∃ value, first = .ok value ∧ change value = result := by
  cases first with
  | error error =>
      simp
  | ok value =>
      simp

/-- A chain whose later steps succeed in any case succeeds with its first step. -/
theorem isOk_bind_iff {first : Except ε α} {next : α → Except ε β}
    (continues : ∀ value, ∃ result, next value = .ok result) :
    (∃ result, (first >>= next) = .ok result) ↔ ∃ value, first = .ok value := by
  cases first with
  | error error =>
      simp
  | ok value =>
      simpa using continues value

theorem isOk_map_iff {first : Except ε α} {change : α → β} :
    (∃ result, first.map change = .ok result) ↔ ∃ value, first = .ok value := by
  cases first <;> simp

/-- Where two steps come to the same as far as a feature goes, they fail alike, and what they
succeed with has the same feature. -/
theorem same_of_map_eq {first second : Except ε α} {feature : α → β}
    (same : second.map feature = first.map feature) :
    (∀ error, second = .error error ↔ first = .error error) ∧
      ∀ value, first = .ok value → ∃ other, second = .ok other ∧ feature other = feature value := by
  cases first with
  | error failure =>
      cases second with
      | error otherFailure =>
          cases same
          exact ⟨fun _ => Iff.rfl, nofun⟩
      | ok other =>
          cases same
  | ok value =>
      obtain ⟨other, rfl, sameFeature⟩ := map_eq_ok_iff.mp same
      refine ⟨fun error => by simp, ?_⟩
      rintro _ ⟨⟩
      exact ⟨other, rfl, sameFeature⟩

end Outcome

namespace Change

variable {State : Type} {old : State} {outcome : Except Error State}

theorem atomic_eq_done_iff {after : State} :
    atomic old outcome = done after ↔ outcome = .ok after := by
  cases outcome with
  | error error =>
      simp [atomic, done, failed]
  | ok state =>
      simp [atomic, done]

/-- What holds before an all-or-nothing change and after it if it succeeds, holds of what it leaves
behind. -/
theorem state_atomic {feature : State → Prop} (before : feature old)
    (after : ∀ new, outcome = .ok new → feature new) : feature (atomic old outcome).state := by
  cases outcome with
  | error failure =>
      exact before
  | ok new =>
      exact after new rfl

theorem state_of_atomic_failure {error : Error}
    (failed : (atomic old outcome).failure = some error) : (atomic old outcome).state = old := by
  cases outcome with
  | error failure =>
      rfl
  | ok state =>
      cases failed

end Change
end RecordSchema
