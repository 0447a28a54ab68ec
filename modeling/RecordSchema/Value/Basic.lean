import RecordSchema.Calendar.Date
import RecordSchema.Fields
import RecordSchema.Number.Double

/-!
# Values

Records, defaults, bounds and operands hold values of any kind, so one type has them all: the
kinds of a data format, dates, sets, and a few kinds without data of their own.  A map whose names
are texts is the usual case and has a constructor of its own.
-/

namespace RecordSchema

/-- The kinds of things that a session builds. -/
inductive ObjectKind where
  | property
  | builder
  | compiler
  | engine
  | recorder
  | result
  | stub
  deriving DecidableEq, Repr

/-- A value of any kind. -/
inductive Value where
  | null
  | bool (value : Bool)
  | int (value : Int)
  | double (value : Double)
  | text (value : String)
  | list (items : List Value)
  | tuple (items : List Value)
  | set (items : List Value)
  | map (entries : List (String × Value))
  /-- A map in which some name is no text. -/
  | keyed (entries : List (Value × Value))
  | date (value : Date)
  /-- Something without parts, equal to itself only. -/
  | entity (identity : Nat)
  /-- A computation on records, by its number. -/
  | closure (identity : Nat)
  /-- Something that a session builds, by its number. -/
  | handle (kind : ObjectKind) (number : Nat)
  deriving Repr

namespace Value

instance : Inhabited Value := ⟨.null⟩

/-- The name of a value's type, as messages give it. -/
def typeName : Value → String
  | .null => "NoneType"
  | .bool _ => "bool"
  | .int _ => "int"
  | .double _ => "float"
  | .text _ => "str"
  | .list _ => "list"
  | .tuple _ => "tuple"
  | .set _ => "set"
  | .map _ => "dict"
  | .keyed _ => "dict"
  | .date _ => "date"
  | .entity _ => "Opaque"
  | .closure _ => "function"
  | .handle .property _ => "Property"
  | .handle .builder _ => "PropertyBuilder"
  | .handle .compiler _ => "SchemaCompiler"
  | .handle .engine _ => "RuleEngine"
  | .handle .recorder _ => "RecordingEngine"
  | .handle .result _ => "ValidationResult"
  | .handle .stub _ => "StubProperty"

/-- Whether a value counts as true where a condition is wanted. -/
def isTruthy : Value → Bool
  | .null => false
  | .bool value => value
  | .int value => value != 0
  | .double value => !value.isZero
  | .text value => value != ""
  | .list items => !items.isEmpty
  | .tuple items => !items.isEmpty
  | .set items => !items.isEmpty
  | .map entries => !entries.isEmpty
  | .keyed entries => !entries.isEmpty
  | _ => true

mutual

/-- Whether a value may be a member of a set or a key: lists, sets and maps may not. -/
def isHashable : Value → Bool
  | .list _ => false
  | .set _ => false
  | .map _ => false
  | .keyed _ => false
  | .tuple items => allHashable items
  | _ => true

/-- Whether all values of a list may be members of a set. -/
def allHashable : List Value → Bool
  | [] => true
  | item :: rest => isHashable item && allHashable rest

end

def text? : Value → Option String
  | .text value => some value
  | _ => none

def map? : Value → Option (Fields Value)
  | .map entries => some entries
  | _ => none

def isCallable : Value → Bool
  | .closure _ => true
  | _ => false

def isNumber : Value → Bool
  | .int _ => true
  | .double _ => true
  | _ => false

/-- The parts that a value is walked through: the elements of a collection, the names of a map,
the characters of a text. -/
def parts? : Value → Option (List Value)
  | .list items => some items
  | .tuple items => some items
  | .set items => some items
  | .map entries => some (entries.map fun entry => .text entry.1)
  | .keyed entries => some (entries.map (·.1))
  | .text value => some (value.toList.map fun c => .text (String.singleton c))
  | _ => none

end Value
end RecordSchema
