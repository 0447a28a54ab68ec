import RecordSchema.Pattern.Search
import RecordSchema.Rule.Comparison
import RecordSchema.Rule.Token
import RecordSchema.Value.Emptiness

/-!
# Conditions on records

What has to hold of a record for extra rules to apply.  A field that is missing and one without
a value are the same to every condition.
-/

namespace RecordSchema.Rule

/-- What the closures of these numbers compute from a record. -/
abbrev Closures :=
  Nat → Value → Except Error Value

inductive Condition where
  /-- What a closure computes counts as true. -/
  | closure (identity : Nat)
  /-- Every field strictly equals its value; no value stands for a field without one. -/
  | fields (expected : Fields Value Name)
  /-- The text of a field has a match of a pattern. -/
  | pattern (field pattern : Value)
  /-- A field compares to an operand. -/
  | comparison (field operator operand : Value)
  /-- A field strictly equals a value. -/
  | equality (field expected : Value)
  deriving Repr

namespace Condition

def presentAndEqual (found expected : Value) : Bool :=
  match found with
  | .null => false
  | value => value.strictlyEquals expected

def fieldMatches (record : Fields Value) (name : Name) (expected : Value) : Bool :=
  let found := (record.under? name).getD .null
  match expected, found with
  | .null, .null => true
  | .null, _ => false
  | _, value => presentAndEqual value expected

/-- Whether a value has a text that patterns are searched for in. -/
def isSearchable : Value → Bool
  | .text _ => true
  | .bool _ => true
  | .int _ => true
  | .double _ => true
  | _ => false

def holds (closures : Closures) (record : Fields Value) : Condition → Except Error Bool
  | .closure identity => do return (← closures identity (.map record)).isTruthy
  | .fields expected =>
    .ok (expected.all fun entry => fieldMatches record entry.1 entry.2)
  | .pattern field source => do
    let found ← Value.lookupField record field
    if isSearchable found then Pattern.found source (← found.writtenText) else return false
  | .comparison field operator operand => do
    match ← Value.lookupField record field with
    | .null => return false
    | found => compare found operator operand
  | .equality field expected => do
    return presentAndEqual (← Value.lookupField record field) expected

/-- Whether a condition holds of a value, which has to be a record if the condition looks at a
field of it. -/
def holdsOf (closures : Closures) (record : Value) (condition : Condition) : Except Error Bool :=
  match record, condition with
  | .map entries, _ => condition.holds closures entries
  | _, .closure identity => do return (← closures identity record).isTruthy
  | _, .fields [] => .ok true
  | _, _ => .error .noSuchMember

end Condition
end RecordSchema.Rule
