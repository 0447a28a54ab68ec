import RecordSchema.Pattern.Token
import RecordSchema.Text.CharacterName

/-!
# Escapes and sets

What a backslash and the character behind it stand for, outside and inside brackets, and the sets
of characters in brackets.
-/

namespace RecordSchema.Pattern

open Reader

def isOctalDigit (c : Char) : Bool :=
  '0' ≤ c && c ≤ '7'

def octalValue (digits : List Char) : Nat :=
  digits.foldl (fun value c => 8 * value + (c.toNat - 48)) 0

def hexadecimalValue (digits : List Char) : Nat :=
  digits.foldl (fun value c => 16 * value + (Text.hexValue? c).getD 0) 0

def isAsciiLetter (c : Char) : Bool :=
  ('a' ≤ c && c ≤ 'z') || ('A' ≤ c && c ≤ 'Z')

def category? : Char → Option SetItem
  | 'd' => some (.category .digit false)
  | 'D' => some (.category .digit true)
  | 's' => some (.category .space false)
  | 'S' => some (.category .space true)
  | 'w' => some (.category .word false)
  | 'W' => some (.category .word true)
  | _ => none

def control? : Char → Option Nat
  | 'a' => some 7
  | 'f' => some 12
  | 'n' => some 10
  | 'r' => some 13
  | 't' => some 9
  | 'v' => some 11
  | '\\' => some 92
  | _ => none

def place? : Char → Option Place
  | 'A' => some .textStart
  | 'Z' => some .textEnd
  | 'b' => some .boundary
  | 'B' => some .notBoundary
  | _ => none

def hexadecimal (count : Nat) : Reader Nat := do
  let digits ← takeWhile count Number.isHexDigit
  if digits.length = count then return hexadecimalValue digits else malformed

/-- The code point of an escape by number, by name, or of a character behind a needless
backslash. -/
def escapedCode (c : Char) : Reader Nat := do
  if c = 'x' then hexadecimal 2
  else if c = 'u' then hexadecimal 4
  else if c = 'U' then
    let code ← hexadecimal 8
    if code < 0x110000 then return code else malformed
  else if c = 'N' then
    expect '\x7b'
    match Text.codeOfName? (← takeName '\x7d') with
    | some code => return code
    | none => malformed
  else if isAsciiLetter c then malformed
  else return c.toNat

def setEscape (c : Char) : Reader SetItem := do
  if c = 'b' then return .code 8
  match control? c, category? c with
  | some code, _ => return .code code
  | none, some item => return item
  | none, none =>
    if isOctalDigit c then
      let code := octalValue (c :: (← takeWhile 2 isOctalDigit))
      if code ≤ 0o377 then return .code code else malformed
    else if Number.isAsciiDigit c then malformed
    else return .code (← escapedCode c)

def escape (c : Char) : Reader Atom := do
  match place? c, category? c, control? c with
  | some at_, _, _ => return .place at_
  | _, some item, _ => return .set false [item]
  | _, _, some code => return .code code
  | none, none, none =>
    if c = '0' then return .code (octalValue (c :: (← takeWhile 2 isOctalDigit)))
    else if Number.isAsciiDigit c then
      let second ← takeWhile 1 Number.isAsciiDigit
      match second with
      | [d] =>
        if isOctalDigit c && isOctalDigit d then
          match ← takeWhile 1 isOctalDigit with
          | [e] =>
            let code := octalValue [c, d, e]
            if code ≤ 0o377 then return .code code else malformed
          | _ => referenceTo (Number.digitsValue [c, d])
        else referenceTo (Number.digitsValue [c, d])
      | _ => referenceTo (Number.digitsValue [c])
    else return .code (← escapedCode c)

def setMember : Token → Reader SetItem
  | .plain c => return .code c.toNat
  | .escaped c => setEscape c
  | .dangling => malformed

/-- The members of a bracketed set up to its closing bracket, which may come first as a member. -/
def setItems : Nat → List SetItem → Reader (List SetItem)
  | 0, _ => malformed
  | budget + 1, items => do
    let some token ← take | malformed
    if token = .plain ']' ∧ !items.isEmpty then return items.reverse
    let first ← setMember token
    if ← accept '-' then
      let some token ← take | malformed
      if token = .plain ']' then return (.code '-'.toNat :: first :: items).reverse
      match first, ← setMember token with
      | .code least, .code most =>
        if most < least then malformed
        setItems budget (.interval least most :: items)
      | _, _ => malformed
    else setItems budget (first :: items)

/-- A bracketed set behind its opening bracket.  A set of one code point is that code point. -/
def bracketed : Reader Atom := do
  let negated ← accept '^'
  let items ← setItems ((← get).tokens.length + 1) []
  match items.eraseDups, negated with
  | [.code value], false => return .code value
  | [.code value], true => return .otherCode value
  | items, _ => return .set negated items

end RecordSchema.Pattern
