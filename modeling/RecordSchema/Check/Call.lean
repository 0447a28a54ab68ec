import RecordSchema.Name
import RecordSchema.Number.Reader
import RecordSchema.Value.Conversion
import RecordSchema.Value.Emptiness

/-!
# Calls of checks

What a check is told about the field it checks, and the size that the rules about sizes go by:
numbers by what they are worth, collections by their elements, all else by the length of its
text.
-/

namespace RecordSchema

/-- One rule called on one field. -/
structure Call where
  field : Name
  /-- The value of the field, or no value when it is missing. -/
  value : Value
  parameters : List String
  record : Fields Value
  /-- The names of all rules of the field. -/
  ruleNames : List String
  deriving Repr

/-- A check says whether a rule is met. -/
abbrev Check :=
  Call → Except Error Bool

/-- What the size of a value is. -/
inductive SizeKind where
  | worth
  | length
  | count
  deriving DecidableEq, Repr

/-- Whether a value is a number, or the text of one. -/
def Value.isNumeric : Value → Bool
  | .int _ => true
  | .double _ => true
  | .text characters => Number.isNumericText characters
  | _ => false

/-- The number of elements of a collection. -/
def Value.count? : Value → Option Nat
  | .map entries => some entries.length
  | .keyed entries => some entries.length
  | .list items => some items.length
  | .tuple items => some items.length
  | .set items => some items.length
  | _ => none

def Value.isCollection (value : Value) : Bool :=
  value.count?.isSome

namespace Call

/-- The rules under which the text of a number has the size of the number. -/
def numericRules : List String :=
  ["numeric", "integer"]

def sizeKind (call : Call) : SizeKind :=
  if call.ruleNames.any numericRules.contains && call.value.isNumeric then .worth
  else if call.value.isNumber then .worth
  else if call.value.isCollection then .count
  else .length

def worth : Value → Except Error Double
  | .int value =>
    match Double.ofInt? value with
    | some worth => .ok worth
    | none => .error .outOfRange
  | .double value => .ok value
  | .text text =>
    match Number.readDouble? text with
    | some worth => .ok worth
    | none => .error .badValue
  | _ => .error .wrongType

def size (call : Call) : Except Error Numeral :=
  match call.sizeKind with
  | .worth => (worth call.value).map .double
  | .count => .ok (.int (call.value.count?.getD 0))
  | .length => .ok (.int call.value.toText.length)

def parameterWorth (text : String) : Except Error Numeral :=
  (worth (.text text)).map .double

def needed (call : Call) (rule : String) (count : Nat) : Except Error (List String) :=
  if call.parameters.length < count then .error (.parametersMissing rule count)
  else .ok call.parameters

def other (call : Call) (field : String) : Value :=
  (call.record.get? field).getD .null

end Call
end RecordSchema
