import RecordSchema.Report

/-!
# Merging as a walk

Merging walks through the fields of a report and through the messages of each field, and adds
every message to the report that it merges into.  What it walks through is another report, which
stays as it is, or the very report that grows; then a walk that has come to a message finds
another one behind it, and does not end.  Nothing but the room for messages stops it.
-/

namespace RecordSchema

/-- A merge that is under way. -/
structure Merging where
  /-- The report that messages are added to. -/
  target : Report
  /-- The report that is walked through, or none when it is the target. -/
  other : Option Report
  /-- How many fields have been walked through. -/
  field : Nat := 0
  /-- How many messages of the present field have been added. -/
  message : Nat := 0
  deriving Repr

namespace Merging

/-- The report that is walked through, as it is now. -/
def source (merging : Merging) : Report :=
  merging.other.getD merging.target

/-- The next step: add a message, or go on to the next field; none at the end. -/
def step? (merging : Merging) : Option Merging :=
  match merging.source.errors[merging.field]? with
  | none => none
  | some (field, messages) =>
    match messages[merging.message]? with
    | some message => some { merging with
        target := merging.target.addError field message
        message := merging.message + 1 }
    | none => some { merging with field := merging.field + 1, message := 0 }

/-- The report when the walk is over: the verdict and the data are taken over last. -/
def close (merging : Merging) : Report :=
  { merging.target with
    valid := merging.target.valid && merging.source.valid
    data := merging.target.data.putAll merging.source.data }

/-- The merged report, if the walk is over within so many steps. -/
def finish? : Nat → Merging → Option Report
  | 0, merging => if merging.step?.isNone then some merging.close else none
  | steps + 1, merging =>
    match merging.step? with
    | none => some merging.close
    | some next => finish? steps next

/-- The steps of a walk through fields that stay as they are: one for each, and one for each of
its messages. -/
def stepsThrough : Fields (List Value) Name → Nat
  | [] => 0
  | (_, messages) :: rest => messages.length + (stepsThrough rest + 1)

/-- More messages than there is room for. -/
def capacity : Nat := 1099511627776

end Merging

namespace Report

/-- Merge a report with itself.  The walk ends only if there are no messages to add; otherwise it
goes on until there is no room for another one. -/
def mergeSelf? (report : Report) : Option Report :=
  Merging.finish? (Merging.stepsThrough report.errors + Merging.capacity) ⟨report, none, 0, 0⟩

end Report
end RecordSchema
