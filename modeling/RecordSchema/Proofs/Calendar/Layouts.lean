import RecordSchema.Proofs.Calendar.Date
import RecordSchema.Proofs.Calendar.Matching
import RecordSchema.Proofs.Text.Replacement

/-!
# Dates with leading zeros

A date can be written in four layouts with four digits for the year and two each for the month and
the day.  Such a text is read as its date, if the calendar has it, and as no date otherwise: the
marks between the numbers, and the places where they stand, keep every other reader from it.
-/

namespace RecordSchema.Calendar

/-! ## Written dates -/

/-- The digits of a date that is written with leading zeros. -/
structure DateDigits where
  thousands : Fin 10
  hundreds : Fin 10
  tens : Fin 10
  ones : Fin 10
  monthTens : Fin 10
  monthOnes : Fin 10
  dayTens : Fin 10
  dayOnes : Fin 10
  deriving DecidableEq, Repr

namespace DateDigits

def year (digits : DateDigits) : Nat :=
  1000 * digits.thousands.val + 100 * digits.hundreds.val + 10 * digits.tens.val + digits.ones.val

def month (digits : DateDigits) : Nat :=
  10 * digits.monthTens.val + digits.monthOnes.val

def day (digits : DateDigits) : Nat :=
  10 * digits.dayTens.val + digits.dayOnes.val

def write (digits : DateDigits) : Piece → List Char
  | .year => [digit digits.thousands, digit digits.hundreds, digit digits.tens, digit digits.ones]
  | .month => [digit digits.monthTens, digit digits.monthOnes]
  | .day => [digit digits.dayTens, digit digits.dayOnes]
  | .mark c => [c]
  | _ => []

end DateDigits

/-- The layouts of a date without a time: `YYYY-MM-DD`, `YYYY/MM/DD`, `DD-MM-YYYY` and
`MM/DD/YYYY`. -/
inductive DateLayout where
  | yearMonthDay
  | yearMonthDaySlashed
  | dayMonthYear
  | monthDayYearSlashed
  deriving DecidableEq, Repr

namespace DateLayout

def pieces : DateLayout → List Piece
  | .yearMonthDay => [.year, .mark '-', .month, .mark '-', .day]
  | .yearMonthDaySlashed => [.year, .mark '/', .month, .mark '/', .day]
  | .dayMonthYear => [.day, .mark '-', .month, .mark '-', .year]
  | .monthDayYearSlashed => [.month, .mark '/', .day, .mark '/', .year]

def write (digits : DateDigits) (layout : DateLayout) : List Char :=
  layout.pieces.flatMap digits.write

variable {layout other : DateLayout} {digits : DateDigits}

def timed : List Piece :=
  yearMonthDay.pieces ++ [.gap, .hour, .mark ':', .minute, .mark ':', .second]

private theorem layouts_eq : layouts = [yearMonthDay.pieces, yearMonthDaySlashed.pieces,
    dayMonthYear.pieces, monthDayYearSlashed.pieces, timed] := rfl

private theorem hyphen_mem : '-' ∈ marks := by
  decide

private theorem slash_mem : '/' ∈ marks := by
  decide

private theorem month_most : Piece.month.most? = some 12 := rfl

private theorem day_most : Piece.day.most? = some 31 := rfl

/-- What a layout finds in a text of its own: the numbers that the digits form, if the month and the
day are among those that months and days have. -/
def found? (digits : DateDigits) : Option Moment :=
  if (1 ≤ digits.month ∧ digits.month ≤ 12) ∧ 1 ≤ digits.day ∧ digits.day ≤ 31 then
    some ⟨digits.year, digits.month, digits.day, 0⟩
  else none

/-- A text is matched by its own layout in the order of the pieces: each number has to be in its
range before the next one is looked at. -/
theorem complete?_write (layout : DateLayout) (digits : DateDigits) :
    complete? (matchLayout ⟨1900, 1, 1, 0⟩ layout.pieces (layout.write digits)) =
      found? digits := by
  cases layout
  all_goals
    simp only [write, pieces, List.flatMap_cons, List.flatMap_nil, DateDigits.write,
      List.cons_append, List.nil_append, matchLayout_year, matchLayout_nil, matchLayout_mark,
      matchLayout_two_mark month_most hyphen_mem, matchLayout_two_mark month_most slash_mem,
      matchLayout_two_mark day_most hyphen_mem, matchLayout_two_mark day_most slash_mem,
      complete?_two day_most, complete?_ite, if_true, and_true, Moment.note]
  case dayMonthYear =>
    exact (ite_and ..).symm.trans (if_congr and_comm rfl rfl)
  all_goals exact (ite_and ..).symm

private theorem readLayout?_write (layout : DateLayout) (digits : DateDigits) :
    readLayout? layout.pieces (layout.write digits) =
      Date.of? digits.year digits.month digits.day := by
  rw [readLayout?_eq, complete?_write, found?]
  split
  · rfl
  · next outside =>
      exact (Date.of?_of_not_inCalendar fun inCalendar =>
        outside ⟨inCalendar.isMonth, inCalendar.isDay⟩).symm

/-- No other layout has its marks and its numbers in these places. -/
theorem readLayout?_write_of_ne (differs : layout ≠ other) (digits : DateDigits) :
    readLayout? layout.pieces (other.write digits) = none := by
  rw [readLayout?_eq]
  cases layout <;> cases other
  all_goals first
    | exact absurd rfl differs
    | simp [pieces, write, DateDigits.write, matchLayout_year, matchLayout_mark,
        matchLayout_year_of_mark hyphen_mem, matchLayout_year_of_mark slash_mem,
        matchLayout_two_mark month_most slash_mem, matchLayout_two_mark day_most hyphen_mem,
        digit_ne hyphen_mem, digit_ne slash_mem, complete?]

private theorem readLayout?_timed (layout : DateLayout) (digits : DateDigits) :
    readLayout? timed (layout.write digits) = none := by
  rw [readLayout?_eq]
  cases layout
  all_goals
    simp [timed, pieces, write, DateDigits.write, matchLayout_year, matchLayout_mark,
      matchLayout_year_of_mark hyphen_mem, matchLayout_year_of_mark slash_mem,
      matchLayout_two_mark month_most hyphen_mem, matchLayout_two_gap day_most, complete?]

private theorem findSome?_layouts (layout : DateLayout) (digits : DateDigits) :
    layouts.findSome? (fun pieces => readLayout? pieces (layout.write digits)) =
      Date.of? digits.year digits.month digits.day := by
  have read (other : DateLayout) : readLayout? other.pieces (layout.write digits) =
      if other = layout then Date.of? digits.year digits.month digits.day else none := by
    split
    · next same =>
        rw [same, readLayout?_write]
    · next differs =>
        exact readLayout?_write_of_ne differs digits
  rw [layouts_eq]
  simp only [List.findSome?_cons, List.findSome?_nil, read, readLayout?_timed]
  cases layout <;> cases Date.of? digits.year digits.month digits.day <;> rfl

/-! ## Dates with hyphens -/

private theorem takeNumber?_two {tens ones : Fin 10} {rest : List Char} :
    takeNumber? 2 (digit tens :: digit ones :: rest) = some (10 * tens.val + ones.val, rest) := by
  simp [takeNumber?, isAsciiDigit_digit, Number.digitsValue, toNat_digit]

private theorem takeNumber?_four {thousands hundreds tens ones : Fin 10} {rest : List Char} :
    takeNumber? 4 (digit thousands :: digit hundreds :: digit tens :: digit ones :: rest) =
      some (1000 * thousands.val + 100 * hundreds.val + 10 * tens.val + ones.val, rest) := by
  simp [takeNumber?, isAsciiDigit_digit, Number.digitsValue, toNat_digit]
  omega

private theorem takeNumber?_of_mark {count : Nat} {text : List Char} {c : Char} (isMark : c ∈ marks)
    (member : c ∈ text.take count) : takeNumber? count text = none := by
  have noDigit : ∀ mark ∈ marks, Number.isAsciiDigit mark = false := by
    simp only [marks, List.forall_mem_cons]
    exact ⟨rfl, rfl, rfl, rfl, rfl, List.forall_mem_nil _⟩
  rw [takeNumber?, if_neg]
  rintro ⟨_, areDigits⟩
  have isDigit := List.all_eq_true.mp areDigits c member
  rw [noDigit c isMark] at isDigit
  cases isDigit

private theorem dateLength?_yearMonthDay (digits : DateDigits) :
    dateLength? (yearMonthDay.write digits) = some 10 := by
  have noWeek : digit digits.monthTens ≠ 'W' := digit_ne (by decide) _
  simp [dateLength?, write, pieces, DateDigits.write, noWeek]

private theorem dateLength?_of_ne (differs : layout ≠ .yearMonthDay) (digits : DateDigits) :
    dateLength? (layout.write digits) = some 8 := by
  have noHyphen (value : Fin 10) : digit value ≠ '-' := digit_ne hyphen_mem value
  have noWeek (value : Fin 10) : digit value ≠ 'W' := digit_ne (by decide) value
  cases layout with
  | yearMonthDay =>
      exact absurd rfl differs
  | yearMonthDaySlashed =>
      simp [dateLength?, write, pieces, DateDigits.write]
  | dayMonthYear =>
      simp [dateLength?, write, pieces, DateDigits.write, noHyphen, noWeek]
  | monthDayYearSlashed =>
      simp [dateLength?, write, pieces, DateDigits.write, noHyphen, noWeek]

private theorem readDatePart?_yearMonthDay (digits : DateDigits) :
    readDatePart? (yearMonthDay.write digits) =
      Date.of? digits.year digits.month digits.day := by
  simp only [readDatePart?, write, pieces, DateDigits.write, List.flatMap_cons, List.flatMap_nil,
    List.cons_append, List.nil_append, takeNumber?_four, Option.bind_eq_bind, Option.bind_some]
  split
  · next week same =>
      exact absurd (List.cons.inj same).1 (digit_ne (by decide) _)
  · simp only [takeNumber?_two, Option.bind_some, List.isEmpty_nil, if_true]
    rfl

/-- Without hyphens behind the year, four digits and four digits have to follow each other. -/
theorem readDatePart?_of_ne (differs : layout ≠ .yearMonthDay) (digits : DateDigits) :
    readDatePart? ((layout.write digits).take 8) = none := by
  cases layout with
  | yearMonthDay =>
      exact absurd rfl differs
  | yearMonthDaySlashed =>
      simp only [readDatePart?, write, pieces, DateDigits.write, List.flatMap_cons,
        List.flatMap_nil, List.cons_append, List.nil_append, List.take, takeNumber?_four,
        Option.bind_eq_bind, Option.bind_some]
      have noMonth : takeNumber? 2 ['/', digit digits.monthTens, digit digits.monthOnes, '/'] =
          none := takeNumber?_of_mark slash_mem (by simp)
      change (takeNumber? 2 ['/', _, _, '/']).bind _ = none
      rw [noMonth, Option.bind_none]
  | dayMonthYear =>
      rw [readDatePart?, takeNumber?_of_mark hyphen_mem (by simp [write, pieces, DateDigits.write])]
      rfl
  | monthDayYearSlashed =>
      rw [readDatePart?, takeNumber?_of_mark slash_mem (by simp [write, pieces, DateDigits.write])]
      rfl

private theorem length_write (layout : DateLayout) (digits : DateDigits) :
    (layout.write digits).length = 10 := by
  cases layout <;> rfl

private theorem readIso?_write (digits : DateDigits) :
    readIso? (yearMonthDay.write digits) = Date.of? digits.year digits.month digits.day := by
  have whole : (yearMonthDay.write digits).take 10 = yearMonthDay.write digits :=
    List.take_of_length_le (length_write _ digits).le
  have nothing : (yearMonthDay.write digits).drop 10 = [] :=
    List.drop_of_length_le (length_write _ digits).le
  rw [readIso?, dateLength?_yearMonthDay, Option.bind_eq_bind, Option.bind_some, whole, nothing,
    readDatePart?_yearMonthDay]
  exact Option.bind_fun_some _

private theorem readIso?_write_of_ne (differs : layout ≠ .yearMonthDay) (digits : DateDigits) :
    readIso? (layout.write digits) = none := by
  rw [readIso?, dateLength?_of_ne differs, Option.bind_eq_bind, Option.bind_some,
    readDatePart?_of_ne differs]
  rfl

/-! ## Reading -/

/-- A text of one layout is no text of another, and its digits can be told. -/
theorem write_inj {others : DateDigits} (same : layout.write digits = other.write others) :
    layout = other ∧ digits = others := by
  obtain ⟨_, _, _, _, _, _, _, _⟩ := digits
  obtain ⟨_, _, _, _, _, _, _, _⟩ := others
  have noHyphen (value : Fin 10) : digit value ≠ '-' := digit_ne hyphen_mem value
  have noSlash (value : Fin 10) : digit value ≠ '/' := digit_ne slash_mem value
  cases layout <;> cases other
  all_goals
    simp [write, pieces, DateDigits.write, digit_inj, noHyphen, noSlash, (noHyphen _).symm,
      (noSlash _).symm] at same ⊢
  all_goals simp [same]

private theorem readDate?_write (layout : DateLayout) (digits : DateDigits) :
    readDate? (String.ofList (layout.write digits)) =
      Date.of? digits.year digits.month digits.day := by
  have noOffset : 'Z' ∉ layout.write digits := by
    have differ (value : Fin 10) : 'Z' ≠ digit value := (digit_ne (by decide) value).symm
    cases layout <;> simp [write, pieces, DateDigits.write, differ]
  rw [readDate?]
  simp only [String.toList_ofList, Text.replaceChars_of_not_mem noOffset, findSome?_layouts]
  by_cases isIso : layout = .yearMonthDay
  · rw [isIso, readIso?_write]
    cases Date.of? digits.year digits.month digits.day <;> rfl
  · rw [readIso?_write_of_ne isIso]

/-- How a text of a layout is read. -/
structure Reads (layout : DateLayout) (digits : DateDigits) : Prop where
  /-- A date of the calendar is read as that date. -/
  date : Date.InCalendar digits.year digits.month digits.day →
    readDate? (String.ofList (layout.write digits)) =
      some ⟨digits.year, digits.month, digits.day⟩
  /-- What is no date of the calendar is read as none. -/
  noDate : ¬ Date.InCalendar digits.year digits.month digits.day →
    readDate? (String.ofList (layout.write digits)) = none
  /-- No other layout finds a date in the text. -/
  otherLayouts : ∀ pieces ∈ layouts, pieces ≠ layout.pieces →
    readLayout? pieces (layout.write digits) = none
  /-- The text is no ISO text, unless it is of the layout that ISO texts have. -/
  noIso : layout ≠ .yearMonthDay → readIso? (layout.write digits) = none
  /-- The text is of no other layout, and of no other digits. -/
  unique : ∀ (other : DateLayout) (others : DateDigits),
    other.write others = layout.write digits → other = layout ∧ others = digits

theorem reads (layout : DateLayout) (digits : DateDigits) : layout.Reads digits where
  date := by
    intro inCalendar
    rw [readDate?_write, Date.of?_of_inCalendar inCalendar]
  noDate := by
    intro outside
    rw [readDate?_write, Date.of?_of_not_inCalendar outside]
  otherLayouts := by
    intro pieces member differs
    rw [layouts_eq] at member
    simp only [List.mem_cons, List.not_mem_nil, or_false] at member
    rcases member with rfl | rfl | rfl | rfl | rfl
    · exact readLayout?_write_of_ne (fun same => differs (congrArg _ same)) digits
    · exact readLayout?_write_of_ne (fun same => differs (congrArg _ same)) digits
    · exact readLayout?_write_of_ne (fun same => differs (congrArg _ same)) digits
    · exact readLayout?_write_of_ne (fun same => differs (congrArg _ same)) digits
    · exact readLayout?_timed layout digits
  noIso := fun differs => readIso?_write_of_ne differs digits
  unique := fun _ _ => write_inj

end DateLayout

/-! ## Written forms -/

def digitsOf (date : Date) : DateDigits where
  thousands := Fin.ofNat 10 (date.year / 1000)
  hundreds := Fin.ofNat 10 (date.year / 100)
  tens := Fin.ofNat 10 (date.year / 10)
  ones := Fin.ofNat 10 date.year
  monthTens := Fin.ofNat 10 (date.month / 10)
  monthOnes := Fin.ofNat 10 date.month
  dayTens := Fin.ofNat 10 (date.day / 10)
  dayOnes := Fin.ofNat 10 date.day

private theorem toList_iso (date : Date) (year : date.year < 10000) (month : date.month < 100)
    (day : date.day < 100) : date.iso.toList = DateLayout.yearMonthDay.write (digitsOf date) := by
  have thousands : date.year / 10 / 10 / 10 = date.year / 1000 % 10 := by omega
  have hundreds : date.year / 10 / 10 = date.year / 100 := by omega
  have months : date.month / 10 = date.month / 10 % 10 := by omega
  have days : date.day / 10 = date.day / 10 % 10 := by omega
  simp only [Date.iso, String.toList_append, Date.toList_padded_succ]
  rw [Date.toList_padded_one (by omega), Date.toList_padded_one (by omega),
    Date.toList_padded_one (by omega), thousands, hundreds, months, days]
  rfl

/-- In each layout, eight digits are read as the date that they form if the calendar has it and as
no date otherwise, by no other layout's reading; and every date is read from its written form. -/
theorem readDate?_calendar :
    (∀ (layout : DateLayout) (digits : DateDigits), layout.Reads digits) ∧
      ∀ date : Date, Date.InCalendar date.year date.month date.day →
        readDate? date.iso = some date := by
  refine ⟨DateLayout.reads, fun date inCalendar => ?_⟩
  have isYear := inCalendar.isYear
  have isMonth := inCalendar.isMonth
  have isDay := inCalendar.isDay
  have written := toList_iso date (by omega) (by omega) (by omega)
  have year : (digitsOf date).year = date.year := by
    simp [DateDigits.year, digitsOf, Fin.ofNat]
    omega
  have month : (digitsOf date).month = date.month := by
    simp [DateDigits.month, digitsOf, Fin.ofNat]
    omega
  have day : (digitsOf date).day = date.day := by
    simp [DateDigits.day, digitsOf, Fin.ofNat]
    omega
  rw [← String.ofList_toList (s := date.iso), written, DateLayout.readDate?_write, year, month, day,
    Date.of?_of_inCalendar inCalendar]

/-- The year 2000 has a leap day, and the year 1900 has none. -/
theorem readDate?_calendar_leapDays :
    Date.InCalendar 2000 2 29 ∧ readDate? "29-02-2000" = some ⟨2000, 2, 29⟩ ∧
      ¬ Date.InCalendar 1900 2 29 ∧ readDate? "02/29/1900" = none ∧
      readDate? (Date.iso ⟨2000, 2, 29⟩) = some ⟨2000, 2, 29⟩ := by
  have leapDay : Date.InCalendar 2000 2 29 := Date.isDate_iff.mp (by decide)
  have noLeapDay : ¬ Date.InCalendar 1900 2 29 := mt Date.isDate_iff.mpr (by decide)
  obtain ⟨reads, restores⟩ := readDate?_calendar
  exact ⟨leapDay, (reads .dayMonthYear ⟨2, 0, 0, 0, 0, 2, 2, 9⟩).date leapDay, noLeapDay,
    (reads .monthDayYearSlashed ⟨1, 9, 0, 0, 0, 2, 2, 9⟩).noDate noLeapDay, restores _ leapDay⟩

end RecordSchema.Calendar
