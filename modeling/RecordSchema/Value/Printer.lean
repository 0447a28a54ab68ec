import RecordSchema.Number.Reader
import RecordSchema.Number.Shortest
import RecordSchema.Text.Quoted
import RecordSchema.Value.Basic

/-!
# Values as text

Every value has a text, which messages show and rule tokens carry.  A text is its own; inside a
collection, and where a message quotes a value, texts stand in quotes.
-/

namespace RecordSchema.Value

/-- Doubles in messages and documents: positional from 1e-4 up to 1e16, and exponents of at
least two digits. -/
def doubleLayout : Double.Layout where
  lowest := -4
  limit := 16
  exponentDigits := 2
  nan := "nan"
  infinity := "inf"

def intText (value : Int) : String :=
  String.ofList ((if value < 0 then ['-'] else []) ++ Nat.toDigits 10 value.natAbs)

def quotedDate (date : Date) : String :=
  "datetime.date(" ++ intText date.year ++ ", " ++ intText date.month ++ ", " ++
    intText date.day ++ ")"

mutual

def quoted : Value → String
  | .null => "None"
  | .bool true => "True"
  | .bool false => "False"
  | .int value => intText value
  | .double value => value.render doubleLayout
  | .text value => Text.quoted value
  | .list items => "[" ++ Text.join ", " (quotedItems items) ++ "]"
  | .tuple [item] => "(" ++ quoted item ++ ",)"
  | .tuple items => "(" ++ Text.join ", " (quotedItems items) ++ ")"
  | .set [] => "set()"
  | .set items => "\x7b" ++ Text.join ", " (quotedItems items) ++ "\x7d"
  | .map entries => "\x7b" ++ Text.join ", " (quotedEntries entries) ++ "\x7d"
  | .keyed entries => "\x7b" ++ Text.join ", " (quotedKeyed entries) ++ "\x7d"
  | .date value => quotedDate value
  | .entity _ => "<opaque>"
  | .closure _ => "<function>"
  | .handle kind number => "<" ++ (Value.handle kind number).typeName ++ ">"

def quotedItems : List Value → List String
  | [] => []
  | item :: rest => quoted item :: quotedItems rest

/-- The quoted forms of the fields of a map. -/
def quotedEntries : List (String × Value) → List String
  | [] => []
  | (name, value) :: rest => (Text.quoted name ++ ": " ++ quoted value) :: quotedEntries rest

def quotedKeyed : List (Value × Value) → List String
  | [] => []
  | (key, value) :: rest => (quoted key ++ ": " ++ quoted value) :: quotedKeyed rest

end

def toText : Value → String
  | .text value => value
  | .date value => value.iso
  | value => value.quoted

/-- The text of a value in a rule token: truth values as digits, and nothing for no value. -/
def ruleText : Value → String
  | .bool true => "1"
  | .bool false => "0"
  | .null => ""
  | value => value.toText

mutual

/-- Whether no integer in a value has more digits than may be written. -/
def isWritable : Value → Bool
  | .int value => (Nat.toDigits 10 value.natAbs).length ≤ Number.maxIntegerDigits
  | .list items => allWritable items
  | .tuple items => allWritable items
  | .set items => allWritable items
  | .map entries => allEntriesWritable entries
  | .keyed entries => allKeyedWritable entries
  | _ => true

def allWritable : List Value → Bool
  | [] => true
  | item :: rest => isWritable item && allWritable rest

/-- Whether the values of all fields may be written. -/
def allEntriesWritable : List (String × Value) → Bool
  | [] => true
  | (_, value) :: rest => isWritable value && allEntriesWritable rest

def allKeyedWritable : List (Value × Value) → Bool
  | [] => true
  | (key, value) :: rest => isWritable key && isWritable value && allKeyedWritable rest

end

/-- The name that a value gets when it is the key of a map. -/
def keyText : Value → String
  | .null => "null"
  | .bool true => "true"
  | .bool false => "false"
  | value => value.toText

end RecordSchema.Value
