/-!
# Calendar dates

Days of the proleptic Gregorian calendar from year 1 to year 9999, their order, their written
form, and the conversion of ISO week dates.
-/

namespace RecordSchema

/-- A year, a month and a day.  `Date.of?` builds those that the calendar has. -/
structure Date where
  year : Nat
  month : Nat
  day : Nat
  deriving DecidableEq, Repr

namespace Date

/-- A year is leap when four divides it, except for centuries that 400 does not divide. -/
def isLeapYear (year : Nat) : Bool :=
  year % 4 == 0 && (year % 100 != 0 || year % 400 == 0)

/-- The length of a month, zero for a number that is no month. -/
def daysInMonth (year : Nat) : Nat → Nat
  | 1 => 31
  | 2 => if isLeapYear year then 29 else 28
  | 3 => 31
  | 4 => 30
  | 5 => 31
  | 6 => 30
  | 7 => 31
  | 8 => 31
  | 9 => 30
  | 10 => 31
  | 11 => 30
  | 12 => 31
  | _ => 0

def isDate (year month day : Nat) : Bool :=
  1 ≤ year && year ≤ 9999 && 1 ≤ day && day ≤ daysInMonth year month

def of? (year month day : Nat) : Option Date :=
  if isDate year month day then some ⟨year, month, day⟩ else none

/-- Dates are ordered by year, then by month, then by day. -/
def order (left right : Date) : Ordering :=
  (compare left.year right.year).then
    ((compare left.month right.month).then (compare left.day right.day))

/-- A number with zeros in front up to a width. -/
def padded (width value : Nat) : String :=
  let digits := Nat.toDigits 10 value
  String.ofList (List.replicate (width - digits.length) '0' ++ digits)

/-- The written form: year, month and day with hyphens between them. -/
def iso (date : Date) : String :=
  padded 4 date.year ++ "-" ++ padded 2 date.month ++ "-" ++ padded 2 date.day

def daysInYear (year : Nat) : Nat :=
  if isLeapYear year then 366 else 365

/-- The weekday of the first of January, zero for Monday. -/
def firstWeekday (year : Nat) : Nat :=
  let before := year - 1
  (365 * before + before / 4 - before / 100 + before / 400) % 7

/-- Count `offset` days on from the first of a month, month by month within one year. -/
def inYearFrom (year : Nat) : Nat → Nat → Nat → Option Date
  | 0, _, _ => none
  | months + 1, month, offset =>
    if offset < daysInMonth year month then of? year month (offset + 1)
    else inYearFrom year months (month + 1) (offset - daysInMonth year month)

/-- The date `offset` days after the first of January, at most one year away. -/
def ofYearDay? (year : Nat) (offset : Int) : Option Date :=
  if offset < 0 then
    inYearFrom (year - 1) 12 1 ((daysInYear (year - 1) : Int) + offset).toNat
  else if (daysInYear year : Int) ≤ offset then
    inYearFrom (year + 1) 12 1 (offset - daysInYear year).toNat
  else inYearFrom year 12 1 offset.toNat

/-- Whether an ISO year has a 53rd week: it begins on a Thursday, or on a Wednesday when it is
leap. -/
def hasLongYear (year : Nat) : Bool :=
  firstWeekday year == 3 || (firstWeekday year == 2 && isLeapYear year)

/-- The date of a weekday (1 for Monday) in an ISO week.  The first week is the one that holds
the first Thursday of the year. -/
def ofWeek? (year week weekday : Nat) : Option Date :=
  let lastWeek := if hasLongYear year then 53 else 52
  if 1 ≤ year ∧ year ≤ 9999 ∧ 1 ≤ week ∧ week ≤ lastWeek ∧ 1 ≤ weekday ∧ weekday ≤ 7 then
    let first := firstWeekday year
    let firstMonday : Int := if first ≤ 3 then -(first : Int) else 7 - (first : Int)
    ofYearDay? year (firstMonday + 7 * ((week : Int) - 1) + ((weekday : Int) - 1))
  else none

end Date
end RecordSchema
