import RecordSchema.Calendar.Reader
import RecordSchema.Check.Call
import RecordSchema.Format.Email
import RecordSchema.Format.Url
import RecordSchema.Format.Uuid
import RecordSchema.Pattern.Search
import RecordSchema.Text.Case

/-!
# The standard checks

One check for every rule that is known from the start.  A check sees the value as it is: whether
it runs at all on a value that is missing or blank is decided before.
-/

namespace RecordSchema.Check

/-! ## Presence -/

/-- Whether a value is one of the candidates that a parameter list gives.  Truth values are
written as words or digits, no value as a word or nothing, and all else by its text. -/
def isCandidate (value : Value) (candidate : String) : Except Error Bool :=
  let word := String.ofList (Text.lowerAscii (Text.trim candidate.toList))
  match value with
  | .bool true => .ok (word == "true" || word == "1")
  | .bool false => .ok (word == "false" || word == "0")
  | .null => .ok (word == "null" || word == "")
  | other => do return (← other.writtenText) == candidate

/-- Whether a value is one of several candidates, which are tried in order. -/
def matchesAny (value : Value) : List String → Except Error Bool
  | [] => .ok false
  | candidate :: rest => do
    if ← isCandidate value candidate then return true else matchesAny value rest

/-- Whether the field that the first parameter names has one of the values that follow. -/
def otherMatches (call : Call) (rule : String) : Except Error Bool := do
  match ← call.needed rule 2 with
  | field :: candidates => matchesAny (call.other field) candidates
  | [] => return false

/-- The field has a value. -/
def required : Check := fun call =>
  .ok call.value.isPresent

/-- The field has a value if any of the listed fields has one. -/
def requiredWith : Check := fun call =>
  .ok (!call.parameters.any (fun name => (call.other name).isPresent) || call.value.isPresent)

/-- The field has a value if any of the listed fields has none. -/
def requiredWithout : Check := fun call =>
  .ok (!call.parameters.any (fun name => !(call.other name).isPresent) || call.value.isPresent)

/-- The field has a value if another field has one of the listed values. -/
def requiredIf : Check := fun call => do
  return !(← otherMatches call "required_if") || call.value.isPresent

/-- The field has no value. -/
def prohibited : Check := fun call =>
  .ok (!call.value.isPresent)

/-- The field has no value if another field has one of the listed values. -/
def prohibitedIf : Check := fun call => do
  return !(← otherMatches call "prohibited_if") || !call.value.isPresent

/-! ## Types -/

/-- The value is a text. -/
def string : Check := fun call =>
  match call.value with
  | .text _ => .ok true
  | _ => .ok false

/-- The value is a number or the text of one. -/
def numeric : Check := fun call =>
  .ok call.value.isNumeric

/-- The value is an integer or the text of one. -/
def integer : Check := fun call =>
  match call.value with
  | .int _ => .ok true
  | .text text => .ok (Number.isIntegerText text)
  | _ => .ok false

/-- The value is a truth value, or a zero or a one as an integer or a text. -/
def boolean : Check := fun call =>
  match call.value with
  | .bool _ => .ok true
  | .int value => .ok (value == 0 || value == 1)
  | .text text => .ok (text == "0" || text == "1")
  | _ => .ok false

/-- The value is a map or a list. -/
def array : Check := fun call =>
  match call.value with
  | .map _ => .ok true
  | .keyed _ => .ok true
  | .list _ => .ok true
  | .tuple _ => .ok true
  | _ => .ok false

/-! ## Sizes -/

/-- The size is no less than the parameter. -/
def min : Check := fun call => do
  let parameters ← call.needed "min" 1
  let size ← call.size
  let bound ← Call.parameterWorth (parameters.headD "")
  return (size.compare? bound).any Relation.greaterOrEqual.allows

/-- The size is no more than the parameter. -/
def max : Check := fun call => do
  let parameters ← call.needed "max" 1
  let size ← call.size
  let bound ← Call.parameterWorth (parameters.headD "")
  return (size.compare? bound).any Relation.lessOrEqual.allows

/-- The size is between the two parameters.  The second one is not looked at when the size is
below the first. -/
def between : Check := fun call => do
  let parameters ← call.needed "between" 2
  let size ← call.size
  let lower ← Call.parameterWorth (parameters.headD "")
  if (lower.compare? size).any Relation.lessOrEqual.allows then
    let upper ← Call.parameterWorth ((parameters.drop 1).headD "")
    return (size.compare? upper).any Relation.lessOrEqual.allows
  else return false

/-- Whether a text consists of digits, as many as a parameter says. -/
def hasDigits (text parameter : String) : Except Error Bool :=
  if text.toList.isEmpty || !text.toList.all Number.isAsciiDigit then .ok false
  else
    match Number.readInt? parameter with
    | some count => .ok ((text.length : Int) == count)
    | none => .error .badValue

/-- The value is an integer or a text of so many digits. -/
def digits : Check := fun call => do
  let parameters ← call.needed "digits" 1
  match call.value with
  | .int value => hasDigits (← (Value.int value).writtenText) (parameters.headD "")
  | .text text => hasDigits text (parameters.headD "")
  | _ => return false

/-! ## Texts -/

/-- The value is a mail address. -/
def email : Check := fun call =>
  match call.value with
  | .text text => .ok (Format.isEmail text)
  | _ => .ok false

/-- The value is a date or the text of one. -/
def date : Check := fun call =>
  match call.value with
  | .date _ => .ok true
  | .text text => .ok (Calendar.readDate? text).isSome
  | _ => .ok false

def consistsOf (kind : Char → Bool) (text : String) : Bool :=
  !text.toList.isEmpty && text.toList.all kind

/-- The value is a text of letters. -/
def alpha : Check := fun call =>
  match call.value with
  | .text text => .ok (consistsOf Text.isLetter text)
  | _ => .ok false

/-- The value is an integer or a text of letters and numerals. -/
def alphaNum : Check := fun call =>
  match call.value with
  | .int value => do return consistsOf Text.isLetterOrNumeral (← (Value.int value).writtenText)
  | .text text => .ok (consistsOf Text.isLetterOrNumeral text)
  | _ => .ok false

/-- The text of the value has a match of the pattern. -/
def regex : Check := fun call => do
  let parameters ← call.needed "regex" 1
  let source := Value.text (parameters.headD "")
  match call.value with
  | .text text => Pattern.found source text
  | .int value => Pattern.found source (← (Value.int value).writtenText)
  | .double value => Pattern.found source (Value.double value).toText
  | _ => return false

def url : Check := fun call =>
  match call.value with
  | .text text => .ok (Format.isUrl text)
  | _ => .ok false

/-- The value is a universally unique identifier. -/
def uuid : Check := fun call =>
  match call.value with
  | .text text => .ok (Format.isUuid text)
  | _ => .ok false

/-! ## Choices -/

/-- Whether the text of a value is among the parameters. -/
def isListed (call : Call) (value : Value) : Except Error Bool := do
  return call.parameters.contains (← value.writtenText)

/-- Whether the texts of all values are among the parameters, or none of them is, looked at up to
the first that decides it. -/
def allListed (call : Call) (listed : Bool) : List Value → Except Error Bool
  | [] => .ok true
  | item :: rest => do
    if (← isListed call item) == listed then allListed call listed rest else return false

/-- The value, or every element of a list, is among the parameters; no other collection is. -/
def oneOf : Check := fun call =>
  match call.value with
  | .list items => allListed call true items
  | .tuple items => allListed call true items
  | .map _ => .ok false
  | .keyed _ => .ok false
  | .set _ => .ok false
  | value => isListed call value

/-- The value, or every element of a list, is not among the parameters. -/
def notOneOf : Check := fun call =>
  match call.value with
  | .list items => allListed call false items
  | .tuple items => allListed call false items
  | value => (isListed call value).map not

def standard : Fields Check :=
  [("required", required), ("required_with", requiredWith),
   ("required_without", requiredWithout), ("required_if", requiredIf),
   ("prohibited", prohibited), ("prohibited_if", prohibitedIf), ("string", string),
   ("numeric", numeric), ("integer", integer), ("boolean", boolean), ("array", array),
   ("email", email), ("min", min), ("max", max), ("between", between), ("digits", digits),
   ("date", date), ("alpha", alpha), ("alpha_num", alphaNum), ("in", oneOf),
   ("not_in", notOneOf), ("regex", regex), ("url", url), ("uuid", uuid)]

end RecordSchema.Check
