import RecordSchema.Value.Basic

/-!
# Equality and order of values

Truth values count as the numbers one and zero, and numbers of both kinds compare by what they
are worth.  Sequences of one kind compare element by element, sets by inclusion, and maps only
for equality, without regard to order.  Other pairs are unequal and have no order.

A member of a collection also agrees with itself when it is not equal to itself, as what is not a
number never is.
-/

namespace RecordSchema

/-- A number of either kind. -/
inductive Numeral where
  | int (value : Int)
  | double (value : Double)
  deriving DecidableEq, Repr

namespace Numeral

/-- The order of two numbers by their exact values; none when one is not a number. -/
def compare? : Numeral → Numeral → Option Ordering
  | .int left, .int right => some (compare left right)
  | .int left, .double right => (right.compareInt? left).map Ordering.swap
  | .double left, .int right => left.compareInt? right
  | .double left, .double right => left.compare? right

/-- Whether two numbers are worth the same. -/
def equals (left right : Numeral) : Bool :=
  left.compare? right == some .eq

end Numeral

/-- The six ways to compare. -/
inductive Relation where
  | equal
  | notEqual
  | less
  | lessOrEqual
  | greater
  | greaterOrEqual
  deriving DecidableEq, Repr

namespace Relation

def allows : Relation → Ordering → Bool
  | .equal, order => order == .eq
  | .notEqual, order => order != .eq
  | .less, order => order == .lt
  | .lessOrEqual, order => order != .gt
  | .greater, order => order == .gt
  | .greaterOrEqual, order => order != .lt

end Relation

namespace Value

def numeral? : Value → Option Numeral
  | .bool value => some (.int (if value then 1 else 0))
  | .int value => some (.int value)
  | .double value => some (.double value)
  | _ => none

/-- Whether two values are one thing that is not a number. -/
def isSameNan : Value → Value → Bool
  | .double (.nan left), .double (.nan right) => left == right
  | _, _ => false

mutual

def equals : Value → Value → Bool
  | .null, .null => true
  | .text left, .text right => left == right
  | .list left, .list right => equalLists left right
  | .tuple left, .tuple right => equalLists left right
  | .set left, .set right => left.length == right.length && includedIn left right
  | .map left, .map right => left.length == right.length && agreesWith left right
  | .keyed left, .keyed right => left.length == right.length && agreesUnder left right
  | .date left, .date right => left == right
  | .entity left, .entity right => left == right
  | .closure left, .closure right => left == right
  | .handle leftKind left, .handle rightKind right => leftKind == rightKind && left == right
  | left, right =>
    match left.numeral?, right.numeral? with
    | some leftNumber, some rightNumber => leftNumber.equals rightNumber
    | _, _ => false
termination_by structural left => left

/-- Equality of lists, element by element. -/
def equalLists : List Value → List Value → Bool
  | [], [] => true
  | left :: leftRest, right :: rightRest =>
    (isSameNan left right || equals left right) && equalLists leftRest rightRest
  | _, _ => false
termination_by structural left => left

/-- Whether every element of the first list agrees with one of the second. -/
def includedIn : List Value → List Value → Bool
  | [], _ => true
  | left :: leftRest, right =>
    right.any (fun other => isSameNan left other || equals left other) &&
      includedIn leftRest right
termination_by structural left => left

/-- Whether every field of the first map agrees with the one of that name in the second. -/
def agreesWith : List (String × Value) → List (String × Value) → Bool
  | [], _ => true
  | (name, left) :: leftRest, right =>
    (match right.lookup name with
      | some other => isSameNan left other || equals left other
      | none => false) &&
      agreesWith leftRest right
termination_by structural left => left

/-- Whether every entry of the first map has one in the second with the same key that agrees. -/
def agreesUnder : List (Value × Value) → List (Value × Value) → Bool
  | [], _ => true
  | (key, left) :: leftRest, right =>
    right.any (fun other => (isSameNan key other.1 || equals key other.1) &&
      (isSameNan left other.2 || equals left other.2)) &&
      agreesUnder leftRest right
termination_by structural left => left

end

def agrees (left right : Value) : Bool :=
  isSameNan left right || equals left right

def compareTexts (left right : String) : Ordering :=
  if left = right then .eq else if left < right then .lt else .gt

def relateSets (relation : Relation) (left right : List Value) : Bool :=
  match relation with
  | .less => left.length < right.length && includedIn left right
  | .lessOrEqual => includedIn left right
  | .greater => right.length < left.length && includedIn right left
  | .greaterOrEqual => includedIn right left
  | .equal => left.length == right.length && includedIn left right
  | .notEqual => !(left.length == right.length && includedIn left right)

mutual

/-- Whether an order relation holds; none when the values have no order.  A number that is not a
number is in no relation to any other. -/
def ordered? (relation : Relation) : Value → Value → Option Bool
  | .text left, .text right => some (relation.allows (compareTexts left right))
  | .list left, .list right => orderedLists? relation left right
  | .tuple left, .tuple right => orderedLists? relation left right
  | .set left, .set right => some (relateSets relation left right)
  | .date left, .date right => some (relation.allows (left.order right))
  | left, right =>
    match left.numeral?, right.numeral? with
    | some leftNumber, some rightNumber =>
      some (((leftNumber.compare? rightNumber).map relation.allows).getD false)
    | _, _ => none

/-- Order of lists by their first unequal elements, or by their lengths. -/
def orderedLists? (relation : Relation) : List Value → List Value → Option Bool
  | [], right => some (relation.allows (compare 0 right.length))
  | _ :: _, [] => some (relation.allows .gt)
  | left :: leftRest, right :: rightRest =>
    if agrees left right then orderedLists? relation leftRest rightRest
    else ordered? relation left right

end

/-- Whether a relation holds; none when it asks for an order that the values do not have. -/
def relate? (relation : Relation) (left right : Value) : Option Bool :=
  match relation with
  | .equal => some (left.equals right)
  | .notEqual => some (!left.equals right)
  | _ => ordered? relation left right

def sameType (left right : Value) : Bool :=
  left.typeName == right.typeName

/-- Equality that also asks for one type: one, true and 1.0 all differ. -/
def strictlyEquals (left right : Value) : Bool :=
  left.sameType right && left.equals right

end Value
end RecordSchema
