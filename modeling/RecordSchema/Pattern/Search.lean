import RecordSchema.Error
import RecordSchema.Pattern.Delimited

/-!
# Searching for patterns

Patterns and texts as they come from schemas and records, with the errors that a bad one causes.
-/

namespace RecordSchema.Pattern

def refusal (source : String) : PatternError → Error
  | .malformed => .patternInvalid source
  | .repetitionTooLarge => .outOfRange
  | .repetitionTooLong => .badValue
  | .alphabetsConflict => .badValue
  | .looksTooFarBack => .notExecutable
  | .nestedTooDeep => .endlessNesting

/-- Read a pattern from a value, which has to be a text. -/
def ofValue (value : Value) (release : Release := .early) : Except Error Pattern :=
  match value with
  | .text source => (compile release source).mapError (refusal source)
  | _ => .error .wrongType

def found (pattern : Value) (text : String) (release : Release := .early) : Except Error Bool := do
  match (← ofValue pattern release).isFoundIn text release with
  | .ok answer => return answer
  | .error .crossedCapture => throw .brokenMatch

end RecordSchema.Pattern
