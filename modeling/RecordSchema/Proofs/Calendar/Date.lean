import Mathlib.Tactic.IntervalCases
import RecordSchema.Calendar.Date

/-!
# Dates of the calendar

The dates that can be built are those of the proleptic Gregorian calendar with years of at most four
digits, and they are written with four digits for the year and two each for the month and the day.
-/

namespace RecordSchema

namespace Date

/-- The dates of the Gregorian calendar, carried back to the year 1 and on to the year 9999.  Every
fourth year has a leap day, but of the years that end a century only every fourth. -/
structure InCalendar (year month day : Nat) : Prop where
  isYear : 1 ≤ year ∧ year ≤ 9999
  isMonth : 1 ≤ month ∧ month ≤ 12
  isDay : 1 ≤ day ∧ day ≤ 31
  shortMonth : month ∈ [4, 6, 9, 11] → day ≤ 30
  february : month = 2 → day ≤ 29
  leapDay : month = 2 → day = 29 → 4 ∣ year ∧ (100 ∣ year → 400 ∣ year)

private theorem isLeapYear_iff {year : Nat} :
    isLeapYear year = true ↔ 4 ∣ year ∧ (100 ∣ year → 400 ∣ year) := by
  simp only [isLeapYear, Bool.and_eq_true, Bool.or_eq_true, beq_iff_eq, bne_iff_ne, ne_eq,
    Nat.dvd_iff_mod_eq_zero, Decidable.imp_iff_not_or]

private theorem daysInMonth_eq (year month : Nat) : daysInMonth year month =
    if month = 2 then if isLeapYear year then 29 else 28
    else if month ∈ [4, 6, 9, 11] then 30
    else if 1 ≤ month ∧ month ≤ 12 then 31 else 0 := by
  by_cases inside : month ≤ 12
  · interval_cases month <;> rfl
  · have other : month ≠ 2 ∧ month ∉ [4, 6, 9, 11] := by
      simp only [List.mem_cons, List.not_mem_nil, or_false]
      omega
    have outside : ¬ (1 ≤ month ∧ month ≤ 12) := by
      omega
    rw [if_neg other.1, if_neg other.2, if_neg outside]
    unfold daysInMonth
    split <;> first | rfl | exact absurd (by decide) inside

theorem isDate_iff {year month day : Nat} :
    isDate year month day = true ↔ InCalendar year month day := by
  simp only [isDate, Bool.and_eq_true, decide_eq_true_eq, daysInMonth_eq]
  constructor
  · rintro ⟨⟨isYear, least⟩, most⟩
    refine ⟨isYear, by grind, by grind, by grind, by grind, fun isFebruary isLast => ?_⟩
    refine isLeapYear_iff.mp ?_
    grind
  · rintro ⟨isYear, isMonth, ⟨least, most⟩, shortMonth, february, leapDay⟩
    refine ⟨⟨isYear, least⟩, ?_⟩
    split
    · next isFebruary =>
        split
        · exact february isFebruary
        · next notLeap =>
            have notLast : day ≠ 29 :=
              fun isLast => notLeap (isLeapYear_iff.mpr (leapDay isFebruary isLast))
            have within := february isFebruary
            omega
    · split
      · next short =>
          exact shortMonth short
      · exact most

theorem of?_of_inCalendar {year month day : Nat} (inCalendar : InCalendar year month day) :
    of? year month day = some ⟨year, month, day⟩ := by
  rw [of?, if_pos (isDate_iff.mpr inCalendar)]

theorem of?_of_not_inCalendar {year month day : Nat} (outside : ¬ InCalendar year month day) :
    of? year month day = none := by
  rw [of?, if_neg (mt isDate_iff.mp outside)]

/-! ## Leading zeros -/

/-- All digits but the last are those of the number without it. -/
theorem toList_padded_succ (width value : Nat) :
    (padded (width + 2) value).toList =
      (padded (width + 1) (value / 10)).toList ++ [Nat.digitChar (value % 10)] := by
  rw [padded, padded, String.toList_ofList, String.toList_ofList, Nat.toDigits_eq_if (by decide)]
  by_cases short : value < 10
  · have nothing : value / 10 = 0 := by
      omega
    have same : value % 10 = value := by
      omega
    simp [short, nothing, same, List.replicate_succ']
  · simp [short]

theorem toList_padded_one {value : Nat} (isDigit : value < 10) :
    (padded 1 value).toList = [Nat.digitChar value] := by
  simp [padded, Nat.toDigits_of_lt_base isDigit]

end Date
end RecordSchema
