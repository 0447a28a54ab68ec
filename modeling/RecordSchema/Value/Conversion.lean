import RecordSchema.Name
import RecordSchema.Value.Equality

/-!
# Conversions of values

Taking a value apart as a list or as fields, looking up one of its fields, and the errors that
arise when it has no such parts.
-/

namespace RecordSchema.Value

/-- The error of asking for the named field of a value that is no map. -/
def notAMap : Error := .noSuchMember

/-- The text of a value in a rule token, unless an integer in it has too many digits. -/
def writtenText (value : Value) : Except Error String :=
  if value.isWritable then .ok value.ruleText else .error .badValue

def parts (value : Value) : Except Error (List Value) :=
  match value.parts? with
  | some items => .ok items
  | none => .error .wrongType

/-- A field of a map by its name; no value when it is missing. -/
def field (value : Value) (name : String) : Except Error Value :=
  match value with
  | .map entries => .ok ((entries.lookup name).getD .null)
  | .keyed entries => .ok (((Fields.ofKeyed entries).get? (.text name)).getD .null)
  | _ => .error notAMap

/-- A field of a record by a name that may be any value: only texts name fields, and what can be
no key cannot be looked up. -/
def lookupField (record : Fields Value) (name : Value) : Except Error Value :=
  match name with
  | .text key => .ok ((record.get? key).getD .null)
  | other => if other.isHashable then .ok .null else .error .wrongType

/-- A field of a value, which has to be a map, by a name that may be any value. -/
def entry (value name : Value) : Except Error Value :=
  match value with
  | .map entries => lookupField entries name
  | .keyed entries => do return ((Fields.ofKeyed entries).get? (← Name.ofValue name)).getD .null
  | _ => .error notAMap

def pair (value : Value) : Except Error (Name × Value) := do
  match ← value.parts with
  | [key, second] => return (← Name.ofValue key, second)
  | _ => throw .badValue

/-- Put pairs into fields one after the other, up to the first that is none. -/
def putPairs (fields : Fields Value Name) : List Value → Fields Value Name × Option Error
  | [] => (fields, none)
  | item :: rest =>
    match item.pair with
    | .ok (name, value) => putPairs (fields.put name value) rest
    | .error error => (fields, some error)

/-- Put the fields of a map, or a list of pairs, into fields.  Pairs in front of one that is
malformed have been put. -/
def putInto (fields : Fields Value Name) (value : Value) : Fields Value Name × Option Error :=
  match value.mapping?, value.parts? with
  | some entries, _ => (fields.putAll entries, none)
  | none, some items => putPairs fields items
  | none, none => (fields, some .wrongType)

/-- The fields that a value stands for, under names of any kind: a map, or a list of pairs. -/
def toMapping (value : Value) : Except Error (Fields Value Name) :=
  match value.mapping?, value.parts? with
  | some entries, _ => .ok entries
  | none, some items =>
    match putPairs [] items with
    | (fields, none) => .ok fields
    | (_, some error) => .error error
  | none, none => .error .wrongType

/-- The fields that a value stands for, under the texts of their names in documents. -/
def toFields (value : Value) : Except Error (Fields Value) :=
  match value with
  | .map entries => .ok entries
  | other => other.toMapping.map Fields.written

/-- The error of replacing parts of a value that is no text: dates have a replacement of another
kind. -/
def notReplaceable : Value → Error
  | .date _ => .wrongType
  | _ => .noSuchMember

/-- The value itself when it counts as true, and otherwise the other one. -/
def orElse (value other : Value) : Value :=
  if value.isTruthy then value else other

end RecordSchema.Value
