import RecordSchema.Calendar.Date
import RecordSchema.Number.Reader

/-!
# Reading dates from text

A text is read as ISO 8601 first: a calendar date or a week date, basic or with hyphens, then
after one character of any kind a time of day with an optional offset.  What is no ISO text is
tried against a few layouts of day, month and year, which also take numbers without leading
zeros.  Only the date is kept, but the time has to be one.
-/

namespace RecordSchema.Calendar

/-- A number of exactly `count` ASCII digits, and the rest of the text. -/
def takeNumber? (count : Nat) (text : List Char) : Option (Nat × List Char) :=
  let digits := text.take count
  if digits.length = count ∧ digits.all Number.isAsciiDigit then
    some (Number.digitsValue digits, text.drop count)
  else none

/-- The length of the date in an ISO text.  Character four tells hyphens from the basic form
and a week from a month; in the basic form of a week the number of digits that follow tells
whether a weekday is among them, since digits of a time come in pairs. -/
def dateLength? (text : List Char) : Option Nat :=
  let length := text.length
  let at? := fun index : Nat => text[index]?
  let isDigitAt := fun index : Nat => ((at? index).map Number.isAsciiDigit).getD false
  if length < 7 then none
  else if length = 7 then some 7
  else if at? 4 = some '-' then
    if at? 5 = some 'W' then
      if at? 8 = some '-' then
        if length = 9 then none else some (if isDigitAt 10 then 8 else 10)
      else some 8
    else some 10
  else if at? 4 = some 'W' then
    let digitsEnd := 7 + ((text.drop 7).takeWhile Number.isAsciiDigit).length
    some (if digitsEnd < 9 then digitsEnd else if digitsEnd % 2 = 0 then 7 else 8)
  else some 8

def readDatePart? (text : List Char) : Option Date := do
  let (year, rest) ← takeNumber? 4 text
  let (hyphens, rest) := match rest with
    | '-' :: after => (true, after)
    | other => (false, other)
  let skipHyphen := fun remaining : List Char =>
    match hyphens, remaining with
    | true, '-' :: after => some after
    | true, _ => none
    | false, other => some other
  match rest with
  | 'W' :: rest =>
    let (week, rest) ← takeNumber? 2 rest
    if rest.isEmpty then Date.ofWeek? year week 1
    else
      let (weekday, rest) ← takeNumber? 1 (← skipHyphen rest)
      if rest.isEmpty then Date.ofWeek? year week weekday else none
  | rest =>
    let (month, rest) ← takeNumber? 2 rest
    let (day, rest) ← takeNumber? 2 (← skipHyphen rest)
    if rest.isEmpty then Date.of? year month day else none

/-- A time of day or an offset, with the part of a second in millionths. -/
structure Clock where
  hour : Nat
  minute : Nat
  second : Nat
  fraction : Nat
  deriving DecidableEq, Repr

/-- The digits after the point of a second, of which six count.  `width` characters are left
before an offset or the end.  Tells whether the text ends here. -/
def readFraction? (width : Nat) (text : List Char) : Option (Nat × Bool) := do
  let counted := min width 6
  let (value, rest) ← takeNumber? counted text
  let rest := rest.dropWhile Number.isAsciiDigit
  some (value * Nat.pow 10 (6 - counted), rest.isEmpty || rest.head? = some '\x00')

/-- Read the two-digit components of a clock, from the one numbered `index` on.  `colons` tells
whether colons stand between them; `width` is the number of characters before an offset or the
end.  Also tells whether the clock reaches the end of the text: one ASCII character too many
in front of an offset is passed over. -/
def readClockFrom? (colons : Bool) (components : List Nat) (width : Nat) :
    Nat → List Char → Option (List Nat × Nat × Bool)
  | 0, text => (readFraction? width text).map fun (fraction, atEnd) => (components, fraction, atEnd)
  | remaining + 1, text => do
    let (value, rest) ← takeNumber? 2 text
    let components := components ++ [value]
    let next := rest.headD '\x00'
    let colons := if remaining = 2 then next = ':' else colons
    if width ≤ 2 ∨ (width = 3 ∧ next.toNat < 128) then some (components, 0, next = '\x00')
    else if colons ∧ next = ':' then
      readClockFrom? colons components (width - 3) remaining (rest.drop 1)
    else if next = '.' ∨ next = ',' then
      (readFraction? (width - 3) (rest.drop 1)).map
        fun (fraction, atEnd) => (components, fraction, atEnd)
    else if colons then none
    else readClockFrom? colons components (width - 2) remaining rest

/-- A clock in the first `width` characters of a text, and whether the text ends with it. -/
def readClock? (width : Nat) (text : List Char) : Option (Clock × Bool) := do
  let (components, fraction, atEnd) ← readClockFrom? true [] width 3 text
  some (⟨components.getD 0 0, components.getD 1 0, components.getD 2 0, fraction⟩, atEnd)

/-- Whether a text is a time of day with an optional offset of less than a day. -/
def isTimePart (text : List Char) : Bool :=
  let isOffsetMark := fun c : Char => c == '+' || c == '-' || c == 'Z'
  let width := (text.takeWhile fun c => !isOffsetMark c).length
  let inRange := fun clock : Clock => clock.hour < 24 && clock.minute < 60 && clock.second < 60
  match readClock? width text with
  | none => false
  | some (clock, atEnd) =>
    match text.drop width with
    | [] => atEnd && inRange clock
    | 'Z' :: rest => rest.isEmpty && inRange clock
    | _ :: offset =>
      match readClock? offset.length offset with
      | some (⟨hour, minute, second, _⟩, true) =>
        inRange clock && hour * 3600 + minute * 60 + second < 86400
      | _ => false

def readIso? (text : List Char) : Option Date := do
  let length ← dateLength? text
  let date ← readDatePart? (text.take length)
  match text.drop length with
  | [] => some date
  | _ :: time => if isTimePart time then some date else none

/-- A piece of a layout. -/
inductive Piece where
  | year
  | month
  | day
  | hour
  | minute
  | second
  | mark (c : Char)
  | gap
  deriving DecidableEq, Repr

/-- A digit of any script whose value lies in a range. -/
def takeDigit? (least most : Nat) : List Char → Option (Nat × List Char)
  | [] => none
  | c :: rest =>
    match Text.digitValue? c with
    | some value => if least ≤ value ∧ value ≤ most then some (value, rest) else none
    | none => none

/-- An ASCII digit whose value lies in a range. -/
def takeAsciiDigit? (least most : Nat) : List Char → Option (Nat × List Char)
  | [] => none
  | c :: rest =>
    if Number.isAsciiDigit c ∧ least ≤ c.toNat - 48 ∧ c.toNat - 48 ≤ most then
      some (c.toNat - 48, rest)
    else none

/-- Two digits, the first from a range of ASCII digits and the second read by `second`. -/
def takePair (least most : Nat) (second : List Char → Option (Nat × List Char))
    (text : List Char) : List (Nat × List Char) :=
  (do
    let (tens, rest) ← takeAsciiDigit? least most text
    let (ones, rest) ← second rest
    some (10 * tens + ones, rest)).toList

/-- The numbers a piece can be read as at the front of a text, the preferred ones first. -/
def Piece.readings (text : List Char) : Piece → List (Nat × List Char)
  | .year =>
    (do
      let (thousands, rest) ← takeDigit? 0 9 text
      let (hundreds, rest) ← takeDigit? 0 9 rest
      let (tens, rest) ← takeDigit? 0 9 rest
      let (ones, rest) ← takeDigit? 0 9 rest
      some (1000 * thousands + 100 * hundreds + 10 * tens + ones, rest)).toList
  | .month =>
    takePair 1 1 (takeAsciiDigit? 0 2) text ++ takePair 0 0 (takeAsciiDigit? 1 9) text ++
      (takeAsciiDigit? 1 9 text).toList
  | .day =>
    takePair 3 3 (takeAsciiDigit? 0 1) text ++ takePair 1 2 (takeDigit? 0 9) text ++
      takePair 0 0 (takeAsciiDigit? 1 9) text ++ (takeAsciiDigit? 1 9 text).toList ++
      (match text with
        | ' ' :: rest => (takeAsciiDigit? 1 9 rest).toList
        | _ => [])
  | .hour =>
    takePair 2 2 (takeAsciiDigit? 0 3) text ++ takePair 0 1 (takeDigit? 0 9) text ++
      (takeDigit? 0 9 text).toList
  | .minute => takePair 0 5 (takeDigit? 0 9) text ++ (takeDigit? 0 9 text).toList
  | .second =>
    takePair 6 6 (takeAsciiDigit? 0 1) text ++ takePair 0 5 (takeDigit? 0 9) text ++
      (takeDigit? 0 9 text).toList
  | .mark c =>
    match text with
    | first :: rest => if first = c then [(0, rest)] else []
    | [] => []
  | .gap =>
    let width := (text.takeWhile Text.isBlank).length
    (List.range width).map fun shorter => (0, text.drop (width - shorter))

/-- The numbers read so far. -/
structure Moment where
  year : Nat
  month : Nat
  day : Nat
  second : Nat
  deriving DecidableEq, Repr

def Moment.note (moment : Moment) (value : Nat) : Piece → Moment
  | .year => { moment with year := value }
  | .month => { moment with month := value }
  | .day => { moment with day := value }
  | .second => { moment with second := value }
  | _ => moment

/-- Match the pieces of a layout against the front of a text, going back to the next reading of
a piece when the pieces after it do not match. -/
def matchLayout (moment : Moment) : List Piece → List Char → Option (Moment × List Char)
  | [], text => some (moment, text)
  | piece :: pieces, text =>
    (piece.readings text).findSome? fun (value, rest) =>
      matchLayout (moment.note value piece) pieces rest

/-- The date that a layout finds in a text, which it has to match up to the end. -/
def readLayout? (pieces : List Piece) (text : List Char) : Option Date :=
  match matchLayout ⟨1900, 1, 1, 0⟩ pieces text with
  | some (moment, []) =>
    if moment.second < 60 then Date.of? moment.year moment.month moment.day else none
  | _ => none

/-- The layouts in the order in which they are tried. -/
def layouts : List (List Piece) :=
  [[.year, .mark '-', .month, .mark '-', .day],
   [.year, .mark '/', .month, .mark '/', .day],
   [.day, .mark '-', .month, .mark '-', .year],
   [.month, .mark '/', .day, .mark '/', .year],
   [.year, .mark '-', .month, .mark '-', .day, .gap,
    .hour, .mark ':', .minute, .mark ':', .second]]

/-- The date a text stands for.  In ISO texts a capital Z means the offset of universal time. -/
def readDate? (text : String) : Option Date :=
  let characters := text.toList
  match readIso? (Text.replaceChars ['Z'] "+00:00".toList characters) with
  | some date => some date
  | none => layouts.findSome? fun pieces => readLayout? pieces characters

end RecordSchema.Calendar
