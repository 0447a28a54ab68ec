import Mathlib.Logic.Basic
import RecordSchema.Calendar.Reader

/-!
# Digits against the pieces of a layout

What the pieces of a layout find in front of a text that begins with digits.  A year takes four of
them.  A month or a day takes two if they are in range, or else the first one alone; but then a
digit is left, and neither a mark nor the end of the text follows.
-/

namespace RecordSchema.Calendar

/-! ## Digits -/

def digit (value : Fin 10) : Char :=
  Nat.digitChar value

theorem isAsciiDigit_digit : ∀ value, Number.isAsciiDigit (digit value) = true := by
  decide

theorem toNat_digit : ∀ value, (digit value).toNat = 48 + value := by
  decide

theorem digit_inj : ∀ value other, digit value = digit other ↔ value = other := by
  decide

private theorem digitValue?_digit : ∀ value, Text.digitValue? (digit value) = some value.val := by
  decide

/-- The marks that stand between numbers, and the other characters that a reader looks for. -/
def marks : List Char :=
  ['-', '/', 'W', 'Z', ' ']

private theorem digit_not_mem_marks : ∀ value, digit value ∉ marks := by
  decide

theorem digit_ne {c : Char} (isMark : c ∈ marks) (value : Fin 10) : digit value ≠ c := by
  rintro rfl
  exact digit_not_mem_marks value isMark

private theorem takeDigit?_digit (value : Fin 10) (rest : List Char) :
    takeDigit? 0 9 (digit value :: rest) = some (value.val, rest) := by
  have within : value.val ≤ 9 := by
    omega
  simp [takeDigit?, digitValue?_digit, within]

private theorem takeDigit?_mark {c : Char} (isMark : c ∈ marks) (rest : List Char) :
    takeDigit? 0 9 (c :: rest) = none := by
  have noDigit : ∀ mark ∈ marks, Text.digitValue? mark = none := by
    simp only [marks, List.forall_mem_cons]
    exact ⟨rfl, rfl, rfl, rfl, rfl, List.forall_mem_nil _⟩
  rw [takeDigit?, noDigit c isMark]

private theorem takeAsciiDigit?_digit (least most : Nat) (value : Fin 10) (rest : List Char) :
    takeAsciiDigit? least most (digit value :: rest) =
      if least ≤ value ∧ value ≤ most then some (value.val, rest) else none := by
  simp [takeAsciiDigit?, isAsciiDigit_digit, toNat_digit]

/-- A pair is read if both of its digits are in their ranges. -/
theorem takePair_digits (least most : Nat) {second : List Char → Option (Nat × List Char)}
    {allowed : Prop} [Decidable allowed] (tens ones : Fin 10) (rest : List Char)
    (takesSecond : second (digit ones :: rest) =
      if allowed then some (ones.val, rest) else none) :
    takePair least most second (digit tens :: digit ones :: rest) =
      if (least ≤ tens ∧ tens ≤ most) ∧ allowed then [(10 * tens.val + ones, rest)] else [] := by
  rw [takePair, takeAsciiDigit?_digit]
  by_cases first : least ≤ tens ∧ tens ≤ most
  · by_cases isAllowed : allowed
    · simp [first, takesSecond, isAllowed]
    · simp [first, takesSecond, isAllowed]
  · simp [first]

/-- How two digits are read where a number from one up to a bound may have one digit or two: as the
number that they make up, if it is in range, or else just the first one. -/
def readingsOfTwo (most : Nat) (tens ones : Fin 10) (rest : List Char) : List (Nat × List Char) :=
  (if 1 ≤ 10 * tens.val + ones ∧ 10 * tens.val + ones ≤ most then [(10 * tens.val + ones, rest)]
    else []) ++ if tens.val = 0 then [] else [(tens.val, digit ones :: rest)]

private theorem readings_month (tens ones : Fin 10) (rest : List Char) :
    Piece.month.readings (digit tens :: digit ones :: rest) = readingsOfTwo 12 tens ones rest := by
  rw [Piece.readings, takePair_digits 1 1 tens ones rest (takeAsciiDigit?_digit 0 2 ones rest),
    takePair_digits 0 0 tens ones rest (takeAsciiDigit?_digit 1 9 ones rest),
    takeAsciiDigit?_digit, readingsOfTwo]
  rcases Nat.lt_trichotomy tens.val 1 with zero | one | more
  · have isZero : tens.val = 0 := by omega
    have inRange : 1 ≤ ones.val ∧ ones.val ≤ 9 ↔ 1 ≤ ones.val ∧ ones.val ≤ 12 := by omega
    simp [isZero, inRange]
  · have inRange : ones.val ≤ 2 ↔ 1 ≤ 10 + ones.val ∧ 10 + ones.val ≤ 12 := by omega
    simp [one, inRange]
  · have notFirst : ¬ tens.val ≤ 1 := by omega
    have notZero : tens.val ≠ 0 := by omega
    have single : 1 ≤ tens.val ∧ tens.val ≤ 9 := by omega
    have outOfRange : ¬ 10 * tens.val + ones.val ≤ 12 := by omega
    simp [notFirst, notZero, single, outOfRange]

private theorem readings_day (tens ones : Fin 10) (rest : List Char) :
    Piece.day.readings (digit tens :: digit ones :: rest) = readingsOfTwo 31 tens ones rest := by
  have noSpace : ∀ text, digit tens :: digit ones :: rest = ' ' :: text → False := by
    intro text same
    exact digit_ne (by decide) tens (List.cons.inj same).1
  have anySecond : takeDigit? 0 9 (digit ones :: rest) =
      if True then some (ones.val, rest) else none := by
    rw [takeDigit?_digit, if_pos trivial]
  rw [Piece.readings, takePair_digits 3 3 tens ones rest (takeAsciiDigit?_digit 0 1 ones rest),
    takePair_digits 1 2 tens ones rest anySecond,
    takePair_digits 0 0 tens ones rest (takeAsciiDigit?_digit 1 9 ones rest),
    takeAsciiDigit?_digit, readingsOfTwo]
  · rcases Nat.lt_trichotomy tens.val 3 with less | three | more
    · by_cases zero : tens.val = 0
      · have inRange : 1 ≤ ones.val ∧ ones.val ≤ 9 ↔ 1 ≤ ones.val ∧ ones.val ≤ 31 := by omega
        simp [zero, inRange]
      · have notThird : ¬ 3 ≤ tens.val := by omega
        have second : 1 ≤ tens.val ∧ tens.val ≤ 2 := by omega
        have single : 1 ≤ tens.val ∧ tens.val ≤ 9 := by omega
        have inRange : 1 ≤ 10 * tens.val + ones.val ∧ 10 * tens.val + ones.val ≤ 31 := by omega
        simp [zero, notThird, second, single, inRange]
    · have inRange : ones.val ≤ 1 ↔ 1 ≤ 30 + ones.val ∧ 30 + ones.val ≤ 31 := by omega
      simp [three, inRange]
    · have notThird : ¬ tens.val ≤ 3 := by omega
      have notSecond : ¬ tens.val ≤ 2 := by omega
      have notZero : tens.val ≠ 0 := by omega
      have single : 1 ≤ tens.val ∧ tens.val ≤ 9 := by omega
      have outOfRange : ¬ 10 * tens.val + ones.val ≤ 31 := by omega
      simp [notThird, notSecond, notZero, single, outOfRange]
  · exact noSpace

/-- The largest number that a month or a day may have. -/
def Piece.most? : Piece → Option Nat
  | .month => some 12
  | .day => some 31
  | _ => none

private theorem readings_of_most {piece : Piece} {most : Nat} (bounded : piece.most? = some most)
    (tens ones : Fin 10) (rest : List Char) :
    piece.readings (digit tens :: digit ones :: rest) = readingsOfTwo most tens ones rest := by
  cases piece with
  | month =>
      cases bounded
      exact readings_month tens ones rest
  | day =>
      cases bounded
      exact readings_day tens ones rest
  | _ =>
      cases bounded

/-! ## Layouts piece by piece -/

variable {moment : Moment} {pieces : List Piece} {rest : List Char}

theorem matchLayout_nil : matchLayout moment [] rest = some (moment, rest) := rfl

theorem matchLayout_mark {c next : Char} :
    matchLayout moment (.mark c :: pieces) (next :: rest) =
      if next = c then matchLayout moment pieces rest else none := by
  rw [matchLayout, Piece.readings]
  split <;> simp [Moment.note]

theorem matchLayout_year {thousands hundreds tens ones : Fin 10} :
    matchLayout moment (.year :: pieces)
        (digit thousands :: digit hundreds :: digit tens :: digit ones :: rest) =
      matchLayout { moment with
        year := 1000 * thousands.val + 100 * hundreds.val + 10 * tens.val + ones.val }
        pieces rest := by
  simp [matchLayout, Piece.readings, takeDigit?_digit, Moment.note]

theorem matchLayout_year_of_mark {tens ones : Fin 10} {c : Char} (isMark : c ∈ marks) :
    matchLayout moment (.year :: pieces) (digit tens :: digit ones :: c :: rest) = none := by
  simp [matchLayout, Piece.readings, takeDigit?_digit, takeDigit?_mark isMark]

/-- Two digits are read as one number, or as a number of one digit with the other one left. -/
theorem matchLayout_two {piece : Piece} {most : Nat} (bounded : piece.most? = some most)
    {tens ones : Fin 10} :
    matchLayout moment (piece :: pieces) (digit tens :: digit ones :: rest) =
      (if 1 ≤ 10 * tens.val + ones ∧ 10 * tens.val + ones ≤ most then
        matchLayout (moment.note (10 * tens.val + ones) piece) pieces rest else none).or
      (if tens.val = 0 then none
        else matchLayout (moment.note tens.val piece) pieces (digit ones :: rest)) := by
  rw [matchLayout, readings_of_most bounded, readingsOfTwo, List.findSome?_append]
  congr 1
  · split <;> simp
  · split <;> simp

/-- In front of a mark, two digits are read as one number. -/
theorem matchLayout_two_mark {piece : Piece} {most : Nat} (bounded : piece.most? = some most)
    {tens ones : Fin 10} {c next : Char} (isMark : c ∈ marks) :
    matchLayout moment (piece :: .mark c :: pieces) (digit tens :: digit ones :: next :: rest) =
      if (1 ≤ 10 * tens.val + ones ∧ 10 * tens.val + ones ≤ most) ∧ next = c then
        matchLayout (moment.note (10 * tens.val + ones) piece) pieces rest else none := by
  simp only [matchLayout_two bounded, matchLayout_mark, digit_ne isMark, if_false, ite_self,
    Option.or_none, ite_and]

/-- What has been read when a layout reaches the end of the text. -/
def complete? : Option (Moment × List Char) → Option Moment
  | some (read, []) => some read
  | _ => none

theorem readLayout?_eq (pieces : List Piece) (text : List Char) :
    readLayout? pieces text = (complete? (matchLayout ⟨1900, 1, 1, 0⟩ pieces text)).bind
      fun read => if read.second < 60 then Date.of? read.year read.month read.day else none := by
  rw [readLayout?]
  split
  · next read matched =>
      simp [matched, complete?]
  · next unfinished =>
      cases matched : matchLayout ⟨1900, 1, 1, 0⟩ pieces text with
      | none =>
          rfl
      | some found =>
          obtain ⟨read, left⟩ := found
          cases left with
          | nil =>
              exact absurd matched (unfinished read)
          | cons c rest =>
              rfl

theorem complete?_ite {condition : Prop} [Decidable condition]
    (found : Option (Moment × List Char)) :
    complete? (if condition then found else none) =
      if condition then complete? found else none := by
  split <;> rfl

/-- At the end of a text, two digits are read as one number. -/
theorem complete?_two {piece : Piece} {most : Nat} (bounded : piece.most? = some most)
    {tens ones : Fin 10} :
    complete? (matchLayout moment [piece] [digit tens, digit ones]) =
      if 1 ≤ 10 * tens.val + ones ∧ 10 * tens.val + ones ≤ most then
        some (moment.note (10 * tens.val + ones) piece) else none := by
  rw [matchLayout_two bounded, matchLayout_nil, matchLayout_nil]
  by_cases inRange : 1 ≤ 10 * tens.val + ones ∧ 10 * tens.val + ones ≤ most
  · simp [inRange, complete?]
  · rw [if_neg inRange, if_neg inRange, Option.none_or]
    split <;> rfl

/-- No gap follows two digits at the end of a text. -/
theorem matchLayout_two_gap {piece : Piece} {most : Nat} (bounded : piece.most? = some most)
    {tens ones : Fin 10} :
    matchLayout moment (piece :: .gap :: pieces) [digit tens, digit ones] = none := by
  have noBlank : Text.isBlank (digit ones) = false := by
    revert ones
    decide
  rw [matchLayout_two bounded]
  simp [matchLayout, Piece.readings, noBlank]

end RecordSchema.Calendar
