/-!
# Cutting texts into pieces

Splitting at a mark, joining with a mark, and replacing every occurrence of a text.  All of it
works on lists of characters; the versions on `String` only convert at the two ends.
-/

namespace RecordSchema.Text

/-- The pieces between the occurrences of `mark`, always at least one. -/
def splitChars (mark : Char) : List Char → List (List Char)
  | [] => [[]]
  | c :: rest =>
    if c = mark then [] :: splitChars mark rest
    else
      match splitChars mark rest with
      | [] => [[c]]
      | piece :: pieces => (c :: piece) :: pieces

/-- What stands before and after the first occurrence of `mark`; nothing stands after a mark
that does not occur. -/
def cutChars (mark : Char) : List Char → List Char × List Char
  | [] => ([], [])
  | c :: rest =>
    if c = mark then ([], rest)
    else
      let (before, after) := cutChars mark rest
      (c :: before, after)

def joinChars (separator : List Char) : List (List Char) → List Char
  | [] => []
  | [piece] => piece
  | piece :: pieces => piece ++ separator ++ joinChars separator pieces

/-- Replace occurrences of `target` from left to right after `skipped` more characters, which
belong to the occurrence replaced last. -/
def replaceCharsAux (target replacement : List Char) : Nat → List Char → List Char
  | _, [] => []
  | skipped + 1, _ :: rest => replaceCharsAux target replacement skipped rest
  | 0, c :: rest =>
    if target.isPrefixOf (c :: rest) then
      replacement ++ replaceCharsAux target replacement (target.length - 1) rest
    else c :: replaceCharsAux target replacement 0 rest

/-- Replace every occurrence of a non-empty `target`, from left to right without overlaps. -/
def replaceChars (target replacement text : List Char) : List Char :=
  replaceCharsAux target replacement 0 text

def split (mark : Char) (text : String) : List String :=
  (splitChars mark text.toList).map String.ofList

def join (separator : String) (pieces : List String) : String :=
  String.ofList (joinChars separator.toList (pieces.map String.toList))

def replace (target replacement text : String) : String :=
  String.ofList (replaceChars target.toList replacement.toList text.toList)

def startsWith (start text : String) : Bool :=
  start.toList.isPrefixOf text.toList

/-- The elements of a list in order, each only at its first occurrence. -/
def distinct {α : Type} [BEq α] : List α → List α
  | [] => []
  | first :: rest => first :: (distinct rest).filter fun other => !(other == first)

/-- The lower-case hexadecimal digit of a number below sixteen. -/
def hexDigit (value : Nat) : Char :=
  if value < 10 then Char.ofNat (48 + value) else Char.ofNat (87 + value)

def hexDigits (width value : Nat) : List Char :=
  match width with
  | 0 => []
  | shorter + 1 => hexDigits shorter (value / 16) ++ [hexDigit (value % 16)]

def hexValue? (c : Char) : Option Nat :=
  let code := c.toNat
  if 48 ≤ code ∧ code ≤ 57 then some (code - 48)
  else if 97 ≤ code ∧ code ≤ 102 then some (code - 87)
  else if 65 ≤ code ∧ code ≤ 70 then some (code - 55)
  else none

end RecordSchema.Text
