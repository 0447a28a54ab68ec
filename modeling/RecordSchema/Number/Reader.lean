import RecordSchema.Number.Double
import RecordSchema.Text.Blank
import RecordSchema.Text.Letters
import RecordSchema.Text.Pieces

/-!
# Reading numbers from text

Numbers may have white space around them, digits of any script, and single underscores between
digits.  A double is written with digits on at least one side of an optional point and an
optional exponent, or as a name for infinity or for not a number.  An integer in base ten is
refused when it has more digits than `maxIntegerDigits`.

The recognisers `isNumericText` and `isIntegerText` describe the plain notation that counts as
a number when records are checked: no underscores and no names, and a wider class of blanks.
-/

namespace RecordSchema.Number

/-- The blanks allowed around a number that is read: unlike elsewhere, the ASCII separator
controls are not among them. -/
def isMargin (c : Char) : Bool :=
  let code := c.toNat
  (9 ≤ code && code ≤ 13) || code == 32 || (127 < code && Text.isBlank c)

def trimMargin (text : List Char) : List Char :=
  ((text.dropWhile isMargin).reverse.dropWhile isMargin).reverse

/-- A decimal digit of any script as the ASCII digit of the same value. -/
def asciiDigit (c : Char) : Char :=
  match Text.digitValue? c with
  | some value => Char.ofNat (48 + value)
  | none => c

def isAsciiDigit (c : Char) : Bool :=
  48 ≤ c.toNat && c.toNat ≤ 57

def digitsValue (digits : List Char) : Nat :=
  digits.foldl (fun value c => 10 * value + (c.toNat - 48)) 0

/-- Remove underscores, each of which has to stand between two digits.  `afterDigit` tells
whether the character before the list is a digit. -/
def dropUnderscores (isDigit : Char → Bool) (afterDigit : Bool) :
    List Char → Option (List Char)
  | [] => some []
  | '_' :: c :: rest =>
    if afterDigit && isDigit c then dropUnderscores isDigit false (c :: rest) else none
  | ['_'] => none
  | c :: rest => (dropUnderscores isDigit (isDigit c) rest).map (c :: ·)

/-- The sign in front of a number, and what follows. -/
def takeSign : List Char → Bool × List Char
  | '-' :: rest => (true, rest)
  | '+' :: rest => (false, rest)
  | text => (false, text)

/-- The value of an optional exponent that ends the text. -/
def readExponent? : List Char → Option Int
  | [] => some 0
  | mark :: rest =>
    if mark = 'e' ∨ mark = 'E' then
      let (negative, digits) := takeSign rest
      if digits.isEmpty || !digits.all isAsciiDigit then none
      else some (Double.signed negative (digitsValue digits))
    else none

/-- An unsigned decimal number: its digits, the number of them after the point, and its
exponent. -/
def readDecimal? (text : List Char) : Option (List Char × Nat × Int) :=
  let whole := text.takeWhile isAsciiDigit
  let afterWhole := text.dropWhile isAsciiDigit
  match afterWhole with
  | '.' :: rest =>
    let fraction := rest.takeWhile isAsciiDigit
    if whole.isEmpty && fraction.isEmpty then none
    else (readExponent? (rest.dropWhile isAsciiDigit)).map
      fun exponent => (whole ++ fraction, fraction.length, exponent)
  | _ =>
    if whole.isEmpty then none
    else (readExponent? afterWhole).map fun exponent => (whole, 0, exponent)

/-- A double in plain ASCII notation without blanks and underscores. -/
def readPlainDouble? (text : List Char) : Option Double :=
  let (negative, body) := takeSign text
  let name := String.ofList (body.map Char.toLower)
  if name = "inf" ∨ name = "infinity" then some (.infinite negative)
  else if name = "nan" then some (.nan 0)
  else (readDecimal? body).map fun (digits, places, exponent) =>
    Double.ofDecimal negative (digitsValue digits) (exponent - places)

def readDouble? (text : String) : Option Double := do
  let trimmed := (trimMargin text.toList).map asciiDigit
  readPlainDouble? (← dropUnderscores isAsciiDigit false trimmed)

/-- The most digits an integer in base ten may be read from, or written with. -/
def maxIntegerDigits : Nat := 4300

/-- The integer a text stands for in base ten. -/
def readInt? (text : String) : Option Int := do
  let (negative, body) := takeSign ((trimMargin text.toList).map asciiDigit)
  let digits ← dropUnderscores isAsciiDigit false body
  if digits.isEmpty || !digits.all isAsciiDigit || maxIntegerDigits < digits.length then none
  else some (Double.signed negative (digitsValue digits))

def isHexDigit (c : Char) : Bool :=
  (Text.hexValue? c).isSome

/-- The integer a text stands for in base sixteen, where a prefix may name the base. -/
def readHex? (text : String) : Option Int := do
  let (negative, body) := takeSign ((trimMargin text.toList).map asciiDigit)
  let body := match body with
    | '0' :: mark :: '_' :: rest => if mark = 'x' ∨ mark = 'X' then rest else body
    | '0' :: mark :: rest => if mark = 'x' ∨ mark = 'X' then rest else body
    | _ => body
  let digits ← dropUnderscores isHexDigit false body
  if digits.isEmpty || !digits.all isHexDigit then none
  else some (Double.signed negative
    (digits.foldl (fun value c => 16 * value + (Text.hexValue? c).getD 0) 0))

/-- Whether a list of characters is an exponent: a mark, an optional sign, and digits. -/
def isExponentText : List Char → Bool
  | [] => true
  | mark :: rest =>
    (mark == 'e' || mark == 'E') && !(takeSign rest).2.isEmpty &&
      (takeSign rest).2.all Text.isDigit

/-- Plain notation of a number: an optional sign, digits with an optional point, and an
optional exponent, with white space allowed around it. -/
def isNumericText (text : String) : Bool :=
  let body := (takeSign (Text.trim text.toList)).2
  let afterWhole := body.dropWhile Text.isDigit
  let hasWhole := !(body.takeWhile Text.isDigit).isEmpty
  match afterWhole with
  | '.' :: rest =>
    (hasWhole || !(rest.takeWhile Text.isDigit).isEmpty) &&
      isExponentText (rest.dropWhile Text.isDigit)
  | _ => hasWhole && isExponentText afterWhole

/-- Plain notation of an integer: an optional sign and digits, with white space allowed
around it. -/
def isIntegerText (text : String) : Bool :=
  let body := (takeSign (Text.trim text.toList)).2
  !body.isEmpty && body.all Text.isDigit

end RecordSchema.Number
