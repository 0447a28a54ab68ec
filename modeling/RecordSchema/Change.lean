import RecordSchema.Error

/-!
# Changes that may fail

A change leaves a state behind even when it fails.  Most changes are all or nothing; a few have
done part of their work when they fail, and what they leave behind shows it.
-/

namespace RecordSchema

/-- What a change leaves behind: the state, and the error if the change failed. -/
structure Change (State : Type) where
  state : State
  failure : Option Error

namespace Change

variable {State Other : Type}

def done (state : State) : Change State :=
  ⟨state, none⟩

def failed (state : State) (error : Error) : Change State :=
  ⟨state, some error⟩

/-- All or nothing: the new state, or the old one with the error. -/
def atomic (old : State) : Except Error State → Change State
  | .ok state => done state
  | .error error => failed old error

/-- Go on with another change unless this one failed. -/
def andThen (change : Change State) (next : State → Change State) : Change State :=
  match change.failure with
  | none => next change.state
  | some _ => change

def lift (whole : State → Other) (change : Change State) : Change Other :=
  ⟨whole change.state, change.failure⟩

end Change
end RecordSchema
