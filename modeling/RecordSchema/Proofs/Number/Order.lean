import RecordSchema.Proofs.Number.Rounding

/-!
# The order of doubles

An integer becomes a double that is worth what the integer is rounded to, or becomes infinite when
it is out of range.  So integers as doubles are in the order of what they are rounded to.
-/

namespace RecordSchema.Double

/-! ## Integers as doubles -/

def worth (negative : Bool) (mantissa : Nat) (exponent : Int) : ℚ :=
  signed negative mantissa * 2 ^ exponent

def ofInt (value : Int) : Double :=
  round (value < 0) value.natAbs 1

private theorem worth_eq_signed {negative : Bool} {mantissa number : Nat} {exponent : Int}
    (isNumber : (mantissa : ℚ) * 2 ^ exponent = number) :
    worth negative mantissa exponent = (signed negative number : ℚ) := by
  cases negative with
  | false =>
      simpa [worth, signed] using isNumber
  | true =>
      simpa [worth, signed] using isNumber

/-- An integer becomes a double that is worth what it is rounded to, or becomes infinite when it is
out of range. -/
theorem ofInt_eq (value : Int) :
    ∃ mantissa exponent, worth (value < 0) mantissa exponent = rounded value ∧
      ofInt value = if value.natAbs < limit then .finite (value < 0) mantissa exponent
        else .infinite (value < 0) := by
  obtain ⟨mantissa, exponent, isNumber, isRounded⟩ := round_one (value < 0) value.natAbs
  exact ⟨mantissa, exponent, worth_eq_signed isNumber, isRounded⟩

/-- An integer has a double exactly in range. -/
theorem ofInt?_eq (value : Int) :
    ofInt? value = if value.natAbs < limit then some (ofInt value) else none := by
  obtain ⟨mantissa, exponent, _, isDouble⟩ := ofInt_eq value
  rw [ofInt?, ← ofInt, isDouble]
  split_ifs
  · rfl
  · rfl

/-! ## Comparisons -/

private theorem scaledTo_cast {unit exponent : Int} (le : unit ≤ exponent) (negative : Bool)
    (mantissa : Nat) : ((scaledTo unit negative mantissa exponent : Int) : ℚ) =
      worth negative mantissa exponent * 2 ^ (-unit) := by
  have isUnit : (2 : ℚ) ^ (exponent - unit).toNat = 2 ^ exponent * 2 ^ (-unit) := by
    rw [← zpow_natCast, Int.toNat_of_nonneg (by omega), Int.sub_eq_add_neg,
      zpow_add₀ two_ne_zero]
  rw [scaledTo, worth, Nat.pow_eq]
  push_cast
  rw [isUnit, mul_assoc]

private theorem compare_eq_compare {first second left right : Int} {unit : ℚ} (positive : 0 < unit)
    (isFirst : (first : ℚ) = left * unit) (isSecond : (second : ℚ) = right * unit) :
    compare first second = compare left right := by
  have sameLess : first < second ↔ left < right := by
    rw [← Int.cast_lt (R := ℚ), isFirst, isSecond, mul_lt_mul_iff_left₀ positive, Int.cast_lt]
  have sameGreater : second < first ↔ right < left := by
    rw [← Int.cast_lt (R := ℚ), isFirst, isSecond, mul_lt_mul_iff_left₀ positive, Int.cast_lt]
  simp only [Int.compare_eq_ite_lt, sameLess, sameGreater]

/-- Finite doubles compare like the integers that they are worth. -/
theorem compare?_finite {leftSign rightSign : Bool} {leftMantissa rightMantissa : Nat}
    {leftExponent rightExponent left right : Int}
    (isLeft : worth leftSign leftMantissa leftExponent = left)
    (isRight : worth rightSign rightMantissa rightExponent = right) :
    compare? (.finite leftSign leftMantissa leftExponent)
      (.finite rightSign rightMantissa rightExponent) = some (compare left right) := by
  rw [compare?, Option.some.injEq]
  apply compare_eq_compare (zpow_pos two_pos (-min leftExponent rightExponent))
  · rw [scaledTo_cast (Int.min_le_left _ _), isLeft]
  · rw [scaledTo_cast (Int.min_le_right _ _), isRight]

private theorem natAbs_rounded (value : Int) : (rounded value).natAbs = nearest value.natAbs := by
  by_cases nonneg : 0 ≤ value
  · rw [rounded_of_nonneg nonneg, Int.natAbs_natCast]
  · rw [rounded_of_neg (Int.not_le.mp nonneg), Int.natAbs_neg, Int.natAbs_natCast]

/-- An integer that is out of range is rounded to less than any in range if it is negative, and to
more than any otherwise. -/
theorem compare_rounded {value other : Int} (inRange : value.natAbs < limit)
    (beyond : limit ≤ other.natAbs) :
    compare (rounded value) (rounded other) = (if other < 0 then .gt else .lt) ∧
      compare (rounded other) (rounded value) = if other < 0 then .lt else .gt := by
  have apart : nearest value.natAbs < nearest other.natAbs :=
    Nat.lt_of_lt_of_le (nearest_lt_iff.mpr inRange)
      (Nat.not_lt.mp fun within => absurd (nearest_lt_iff.mp within) (Nat.not_lt.mpr beyond))
  have size := natAbs_rounded value
  by_cases negative : other < 0
  · rw [if_pos negative, if_pos negative, rounded_of_neg negative]
    exact ⟨Int.compare_eq_gt.mpr (by omega), Int.compare_eq_lt.mpr (by omega)⟩
  · rw [if_neg negative, if_neg negative, rounded_of_nonneg (Int.not_lt.mp negative)]
    exact ⟨Int.compare_eq_lt.mpr (by omega), Int.compare_eq_gt.mpr (by omega)⟩

/-- Integers as doubles are in the order of what they are rounded to, if one of them is in range. -/
theorem compare?_ofInt {left right : Int}
    (inRange : left.natAbs < limit ∨ right.natAbs < limit) :
    (ofInt left).compare? (ofInt right) = some (compare (rounded left) (rounded right)) := by
  obtain ⟨leftMantissa, leftExponent, isLeft, leftDouble⟩ := ofInt_eq left
  obtain ⟨rightMantissa, rightExponent, isRight, rightDouble⟩ := ofInt_eq right
  rw [leftDouble, rightDouble]
  by_cases leftInRange : left.natAbs < limit
  · rw [if_pos leftInRange]
    by_cases rightInRange : right.natAbs < limit
    · rw [if_pos rightInRange]
      exact compare?_finite isLeft isRight
    · rw [if_neg rightInRange, (compare_rounded leftInRange (Nat.not_lt.mp rightInRange)).1]
      simp [compare?]
  · have rightInRange : right.natAbs < limit := inRange.resolve_left leftInRange
    rw [if_neg leftInRange, if_pos rightInRange,
      (compare_rounded rightInRange (Nat.not_lt.mp leftInRange)).2]
    simp [compare?]

end RecordSchema.Double
