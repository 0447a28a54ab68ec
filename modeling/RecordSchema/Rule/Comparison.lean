import RecordSchema.Value.Conversion

/-!
# Comparisons by operator

An operator is a text; whatever is no operator compares nothing, and so do values without order.
-/

namespace RecordSchema.Rule

def relation? : String → Option Relation
  | "=" => some .equal
  | "!=" => some .notEqual
  | ">" => some .greater
  | ">=" => some .greaterOrEqual
  | "<" => some .less
  | "<=" => some .lessOrEqual
  | _ => none

/-- Whether two values are in the relation that an operator stands for. -/
def compareBy (left : Value) (operator : String) (right : Value) : Bool :=
  match relation? operator with
  | some relation => (Value.relate? relation left right).getD false
  | none => false

def compare (left operator right : Value) : Except Error Bool :=
  match operator with
  | .text name => .ok (compareBy left name right)
  | other => if other.isHashable then .ok false else .error .wrongType

end RecordSchema.Rule
