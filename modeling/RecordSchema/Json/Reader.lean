import RecordSchema.Number.Reader
import RecordSchema.Value.Basic

/-!
# Reading JSON

The reader takes standard JSON, and the names `NaN`, `Infinity` and `-Infinity` as numbers.  A
number with a point or an exponent is a double, any other an integer.  Under a repeated name the
last value counts, and lists and objects may be nested up to a limit.  Every value begins with a
character of its own, so a budget of the length of the text bounds the recursion.

Texts are sequences of characters here, so an escape of half a character without its other half,
which no text can hold, is told apart from other mistakes.
-/

namespace RecordSchema.Json

/-- Why a text is refused. -/
inductive JsonError where
  | malformed
  | integerTooLong
  | nestedTooDeep
  /-- An escape stands for half of a character, without its other half. -/
  | halfCharacter
  deriving DecidableEq, Repr

/-- The most lists and objects that may stand inside each other. -/
def nestingLimit : Nat := 984

/-- The characters between the parts of a text. -/
def isLayout (c : Char) : Bool :=
  c == ' ' || c == '\t' || c == '\n' || c == '\r'

def skipLayout (text : List Char) : List Char :=
  text.dropWhile isLayout

def behindWord? (word : String) (text : List Char) : Option (List Char) :=
  if word.toList.isPrefixOf text then some (text.drop word.toList.length) else none

/-- The code unit that four hexadecimal digits stand for. -/
def readUnit? : List Char → Option (Nat × List Char)
  | a :: b :: c :: d :: rest => do
    let value := ((← Text.hexValue? a) * 16 + (← Text.hexValue? b)) * 256 +
      ((← Text.hexValue? c) * 16 + (← Text.hexValue? d))
    some (value, rest)
  | _ => none

def escapeChar? : Char → Option Char
  | '"' => some '"'
  | '\\' => some '\\'
  | '/' => some '/'
  | 'b' => some '\x08'
  | 'f' => some '\x0c'
  | 'n' => some '\n'
  | 'r' => some '\r'
  | 't' => some '\t'
  | _ => none

/-- The second half of a character outside the basic plane, when it follows. -/
def readLowHalf? : List Char → Option (Nat × List Char)
  | '\\' :: 'u' :: rest => do
    let (low, rest) ← readUnit? rest
    if 0xDC00 ≤ low ∧ low ≤ 0xDFFF then some (low, rest) else none
  | _ => none

/-- The character of a code unit and the text behind it, where the unit may be the first half of a
character outside the basic plane. -/
def joinUnits (unit : Nat) (rest : List Char) : Except JsonError (Char × List Char) :=
  if unit < 0xD800 ∨ 0xDFFF < unit then .ok (Char.ofNat unit, rest)
  else if 0xDC00 ≤ unit then .error .halfCharacter
  else
    match readLowHalf? rest with
    | some (low, behind) =>
      .ok (Char.ofNat (0x10000 + (unit - 0xD800) * 0x400 + (low - 0xDC00)), behind)
    | none => .error .halfCharacter

/-- The characters of a text up to its closing quote. -/
def readChars : Nat → List Char → List Char → Except JsonError (List Char × List Char)
  | 0, _, _ => .error .malformed
  | budget + 1, done, text =>
    match text with
    | [] => .error .malformed
    | '"' :: rest => .ok (done.reverse, rest)
    | '\\' :: 'u' :: rest =>
      match readUnit? rest with
      | none => .error .malformed
      | some (unit, rest) => do
        let (c, behind) ← joinUnits unit rest
        readChars budget (c :: done) behind
    | '\\' :: c :: rest =>
      match escapeChar? c with
      | none => .error .malformed
      | some escaped => readChars budget (escaped :: done) rest
    | c :: rest => if c.toNat < 32 then .error .malformed else readChars budget (c :: done) rest

def readText (text : List Char) : Except JsonError (String × List Char) := do
  let (chars, rest) ← readChars (text.length + 1) [] text
  return (String.ofList chars, rest)

/-- The fraction and the exponent at the front of a text, as far as they are complete. -/
def takeFraction (text : List Char) : List Char × List Char :=
  match text with
  | '.' :: rest =>
    let digits := rest.takeWhile Number.isAsciiDigit
    if digits.isEmpty then ([], text) else (digits, rest.drop digits.length)
  | _ => ([], text)

/-- The exponent at the front of a text, when it is complete. -/
def takeExponent? (text : List Char) : Option (Int × List Char) :=
  match text with
  | mark :: rest =>
    if mark = 'e' ∨ mark = 'E' then
      let (negative, behind) := Number.takeSign rest
      let digits := behind.takeWhile Number.isAsciiDigit
      if digits.isEmpty then none
      else some (Double.signed negative (Number.digitsValue digits), behind.drop digits.length)
    else none
  | [] => none

def readNumber (negative : Bool) (text : List Char) : Except JsonError (Value × List Char) :=
  let whole := match text with
    | '0' :: _ => ['0']
    | _ => text.takeWhile Number.isAsciiDigit
  if whole.isEmpty then .error .malformed
  else
    let (fraction, afterFraction) := takeFraction (text.drop whole.length)
    let exponent := takeExponent? afterFraction
    if fraction.isEmpty && exponent.isNone then
      if Number.maxIntegerDigits < whole.length then .error .integerTooLong
      else .ok (.int (Double.signed negative (Number.digitsValue whole)), afterFraction)
    else
      let (power, rest) := exponent.getD (0, afterFraction)
      .ok (.double (Double.ofDecimal negative (Number.digitsValue (whole ++ fraction))
        (power - fraction.length)), rest)

def wordValues : List (String × Value) :=
  [("null", .null), ("true", .bool true), ("false", .bool false), ("NaN", .double (.nan 0)),
   ("Infinity", .double (.infinite false)), ("-Infinity", .double (.infinite true))]

/-- A value that begins with neither a quote nor a bracket. -/
def readScalar (text : List Char) : Except JsonError (Value × List Char) :=
  match wordValues.findSome? fun (word, value) =>
      (behindWord? word text).map fun rest => (value, rest) with
  | some found => .ok found
  | none =>
    match text with
    | '-' :: rest => readNumber true rest
    | _ => readNumber false text

mutual

/-- A value at the front of a text, in which so many lists and objects may stand inside each
other. -/
def readValue : Nat → Nat → List Char → Except JsonError (Value × List Char)
  | 0, _, _ => .error .malformed
  | budget + 1, depth, text =>
    match text, depth with
    | '"' :: rest, _ => do
      let (chars, rest) ← readText rest
      return (.text chars, rest)
    | '[' :: _, 0 => .error .nestedTooDeep
    | '[' :: rest, depth + 1 =>
      match skipLayout rest with
      | ']' :: rest => .ok (.list [], rest)
      | rest => do
        let (items, rest) ← readItems budget depth [] rest
        return (.list items, rest)
    | '\x7b' :: _, 0 => .error .nestedTooDeep
    | '\x7b' :: rest, depth + 1 =>
      match skipLayout rest with
      | '\x7d' :: rest => .ok (.map [], rest)
      | rest => do
        let (entries, rest) ← readEntries budget depth [] rest
        return (.map entries, rest)
    | text, _ => readScalar text

def readItems : Nat → Nat → List Value → List Char → Except JsonError (List Value × List Char)
  | 0, _, _, _ => .error .malformed
  | budget + 1, depth, done, text => do
    let (item, rest) ← readValue budget depth text
    match skipLayout rest with
    | ',' :: rest => readItems budget depth (item :: done) (skipLayout rest)
    | ']' :: rest => return ((item :: done).reverse, rest)
    | _ => throw .malformed

/-- The fields of a map up to its closing brace. -/
def readEntries : Nat → Nat → Fields Value → List Char →
    Except JsonError (Fields Value × List Char)
  | 0, _, _, _ => .error .malformed
  | budget + 1, depth, done, text =>
    match text with
    | '"' :: rest => do
      let (name, rest) ← readText rest
      match skipLayout rest with
      | ':' :: rest =>
        let (value, rest) ← readValue budget depth (skipLayout rest)
        let done := Fields.put name value done
        match skipLayout rest with
        | ',' :: rest => readEntries budget depth done (skipLayout rest)
        | '\x7d' :: rest => return (done, rest)
        | _ => throw .malformed
      | _ => throw .malformed
    | _ => .error .malformed

end

def read (text : String) : Except JsonError Value := do
  let characters := skipLayout text.toList
  let (value, rest) ← readValue (2 * characters.length + 2) nestingLimit characters
  if (skipLayout rest).isEmpty then return value else throw .malformed

end RecordSchema.Json
