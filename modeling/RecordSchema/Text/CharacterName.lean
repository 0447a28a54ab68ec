import RecordSchema.Text.Letters
import RecordSchema.Text.Names.Further
import RecordSchema.Text.Names.Historic
import RecordSchema.Text.Names.Pictures
import RecordSchema.Text.Names.Scripts
import RecordSchema.Text.Names.Syllables
import RecordSchema.Text.Names.Symbols
import RecordSchema.Text.Pieces

/-!
# Characters by name

Finding a character by its name in the Unicode standard.  Most names stand in tables; the names
of Hangul syllables are put together from the names of their letters, and those of ideographs
hold the code point.  Letter case does not matter, except in the names that are not in a table.
-/

namespace RecordSchema.Text

/-! ## Names in tables -/

/-- The words of a name from its entry in a table and the words of the name before it. -/
def nameWords (previous : List String) (entry : String) : List String :=
  match entry.toList with
  | [] => []
  | kept :: own =>
    previous.take ((hexValue? kept).getD 0) ++ (String.ofList own).splitOn " "

/-- The code point of a name, given in words, in a run of entries from `code` on. -/
def findInRun (wanted : List String) : Nat → List String → List String → Option Nat
  | _, _, [] => none
  | code, previous, entry :: rest =>
    let words := nameWords previous entry
    if words = wanted then some code else findInRun wanted (code + 1) words rest

def findInRuns (wanted : List String) (runs : List (Nat × List String)) : Option Nat :=
  runs.findSome? fun (code, names) =>
    findInRun wanted code [] (names.flatMap fun several => several.splitOn ",")

def nameTables : List (List (Nat × List String)) :=
  [scriptNames, symbolNames, syllableNames, historicNames, pictureNames]

def findFurther (name : String) : Option Nat :=
  (furtherNames.find? fun (_, names) => (names.splitOn ",").contains name).map (·.1)

/-! ## Names that hold the code point -/

def capitalHex? (digits : List Char) : Option Nat :=
  digits.foldl (fun value c => do
    if c.isLower then none else some (16 * (← value) + (← hexValue? c))) (some 0)

def nameTail? (start : String) (name : List Char) : Option (List Char) :=
  if start.toList.isPrefixOf name then some (name.drop start.length) else none

/-- Runs of characters whose names are the same words with the code point behind them. -/
def numberedNames : List (String × List (Nat × Nat)) :=
  [("CJK COMPATIBILITY IDEOGRAPH-", [(0xF900, 0xFA6D), (0xFA70, 0xFAD9), (0x2F800, 0x2FA1D)]),
   ("KHITAN SMALL SCRIPT CHARACTER-", [(0x18B00, 0x18CD5)]),
   ("NUSHU CHARACTER-", [(0x1B170, 0x1B2FB)])]

def ideographSpans : List (Nat × Nat) :=
  [(0x3400, 0x4DBF), (0x4E00, 0x9FFF), (0x20000, 0x2A6DF), (0x2A700, 0x2B738),
   (0x2B740, 0x2B81D), (0x2B820, 0x2CEA1), (0x2CEB0, 0x2EBE0), (0x30000, 0x3134A)]

/-- The code point in a name of this form, when the digits are as many as its size asks for. -/
def findNumbered (start : String) (spans : List (Nat × Nat)) (name : List Char) : Option Nat := do
  let digits ← nameTail? start name
  let code ← capitalHex? digits
  if (digits.length = 4 ∨ (digits.length = 5 ∧ 0xFFFF < code)) ∧ inSpans spans code then some code
  else none

/-- The selectors of variants are also known by a number. -/
def findSelector (name : List Char) : Option Nat := do
  let digits ← nameTail? "VS" name
  if digits.head? = some '0' ∨ digits.isEmpty ∨ 3 < digits.length then none
  else if digits.all fun c => '0' ≤ c && c ≤ '9' then
    let number := digits.foldl (fun value c => 10 * value + (c.toNat - 48)) 0
    if number ≤ 16 then some (0xFE00 + (number - 1))
    else if number ≤ 256 then some (0xE0100 + (number - 17))
    else none
  else none

/-! ## Hangul syllables -/

/-- The names of the letters that may begin a syllable, one of them silent. -/
def leadingLetters : List String :=
  ["G", "GG", "N", "D", "DD", "R", "M", "B", "BB", "S", "SS", "", "J", "JJ", "C", "K", "T", "P",
   "H"]

def vowelLetters : List String :=
  ["A", "AE", "YA", "YAE", "EO", "E", "YEO", "YE", "O", "WA", "WAE", "OE", "YO", "U", "WEO", "WE",
   "WI", "YU", "EU", "YI", "I"]

/-- The names of the letters that may end a syllable, the first being none. -/
def trailingLetters : List String :=
  ["", "G", "GG", "GS", "N", "NJ", "NH", "D", "L", "LG", "LM", "LB", "LS", "LT", "LP", "LH", "M",
   "B", "BS", "S", "SS", "NG", "J", "C", "K", "T", "P", "H"]

/-- The longest of the letters that a text begins with, by its place in the list, and the rest of
the text. -/
def longestLetter (letters : List String) (text : List Char) : Option (Nat × List Char) :=
  letters.zipIdx.foldl (fun best (letter, place) =>
    match nameTail? letter text, best with
    | some rest, some (_, shortest) =>
      if rest.length < shortest.length then some (place, rest) else best
    | some rest, none => some (place, rest)
    | none, _ => best) none

def findSyllable (name : List Char) : Option Nat := do
  let (leading, rest) ← longestLetter leadingLetters name
  let (vowel, rest) ← longestLetter vowelLetters rest
  let (trailing, rest) ← longestLetter trailingLetters rest
  if rest.isEmpty then some (0xAC00 + (leading * 21 + vowel) * 28 + trailing) else none

/-! ## Look-up -/

def codeOfName? (name : String) : Option Nat :=
  match nameTail? "HANGUL SYLLABLE " name.toList,
    nameTail? "CJK UNIFIED IDEOGRAPH-" name.toList with
  | some letters, _ => findSyllable letters
  | none, some digits => do
    let code ← capitalHex? digits
    if (digits.length = 4 ∨ digits.length = 5) ∧ inSpans ideographSpans code then some code
    else none
  | none, none =>
    let capitals := name.toList.map Char.toUpper
    let wanted := String.ofList capitals
    (nameTables.findSome? (findInRuns (wanted.splitOn " "))).or
      ((findFurther wanted).or
        ((findSelector capitals).or
          (numberedNames.findSome? fun (start, spans) => findNumbered start spans capitals)))

end RecordSchema.Text
