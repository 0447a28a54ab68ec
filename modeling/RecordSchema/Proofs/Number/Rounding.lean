import Mathlib.Algebra.Order.Field.Power
import Mathlib.Data.Rat.Cast.Order
import Mathlib.Tactic.Positivity
import Mathlib.Tactic.Ring
import RecordSchema.Number.Double

/-!
# Rounding to 53 bits

Integers that become doubles are rounded to 53 bits.  Rounding keeps their order, but it may make
different ones the same; those of up to 53 bits stay as they are.  The mantissa and the exponent
that a number is rounded to are worth what rounding makes of it.
-/

namespace RecordSchema.Double

/-! ## Quotients -/

/-- A quotient is rounded down unless the remainder is at least half of the denominator, and up
unless it is at most that. -/
theorem roundQuotient_cases (numerator denominator : Nat) :
    roundQuotient numerator denominator = numerator / denominator ∧
        2 * (numerator % denominator) ≤ denominator ∨
      roundQuotient numerator denominator = numerator / denominator + 1 ∧
        denominator ≤ 2 * (numerator % denominator) := by
  have even : numerator / denominator % 2 < 2 := Nat.mod_lt _ Nat.two_pos
  simp only [roundQuotient]
  split_ifs <;> omega

private theorem roundQuotient_mono {lesser greater : Nat} (le : lesser ≤ greater)
    (denominator : Nat) :
    roundQuotient lesser denominator ≤ roundQuotient greater denominator := by
  have below := roundQuotient_cases lesser denominator
  have above := roundQuotient_cases greater denominator
  rcases Nat.lt_or_eq_of_le (Nat.div_le_div_right (c := denominator) le) with apart | same
  · omega
  · -- With the same quotient, the remainder decides.
    have remainder : lesser % denominator ≤ greater % denominator := by
      have lesserSplit := Nat.div_add_mod lesser denominator
      have greaterSplit := Nat.div_add_mod greater denominator
      rw [same] at lesserSplit
      omega
    simp only [roundQuotient, same]
    split_ifs <;> omega

/-- Rounding moves a quotient by a half at most. -/
theorem roundQuotient_error (numerator : Nat) {denominator : Nat} (positive : 0 < denominator) :
    2 * (roundQuotient numerator denominator * denominator) ≤ 2 * numerator + denominator ∧
      2 * numerator ≤ 2 * (roundQuotient numerator denominator * denominator) + denominator := by
  have split := Nat.div_add_mod' numerator denominator
  rcases roundQuotient_cases numerator denominator with ⟨isDown, small⟩ | ⟨isUp, large⟩
  · rw [isDown]
    omega
  · have remainder := Nat.mod_lt numerator positive
    rw [isUp, Nat.add_mul, Nat.one_mul]
    omega

private theorem roundQuotient_mul (quotient : Nat) {denominator : Nat}
    (positive : 0 < denominator) :
    roundQuotient (quotient * denominator) denominator = quotient := by
  simp [roundQuotient, positive]

private theorem roundQuotient_one (number : Nat) : roundQuotient number 1 = number := by
  simpa using roundQuotient_mul number Nat.one_pos

/-! ## Natural numbers -/

/-- A natural number rounded to 53 bits, a half to the even neighbour. -/
def nearest (number : Nat) : Nat :=
  roundQuotient number (2 ^ (number.log2 - 52)) * 2 ^ (number.log2 - 52)

/-- Rounding moves a number by at most half of the unit in which it is counted. -/
theorem nearest_error (number : Nat) :
    2 * nearest number ≤ 2 * number + 2 ^ (number.log2 - 52) ∧
      2 * number ≤ 2 * nearest number + 2 ^ (number.log2 - 52) :=
  roundQuotient_error number (Nat.two_pow_pos _)

private theorem nearest_of_log2_le {number : Nat} (short : number.log2 ≤ 52) :
    nearest number = number := by
  rw [nearest, Nat.sub_eq_zero_of_le short, Nat.pow_zero, roundQuotient_one, Nat.mul_one]

private theorem pow_split {number : Nat} (long : 52 ≤ number.log2) (extra : Nat) :
    2 ^ (number.log2 + extra) = 2 ^ (52 + extra) * 2 ^ (number.log2 - 52) := by
  rw [← Nat.pow_add]
  congr 1
  omega

/-- Rounding does not go below the greatest power of two in a number. -/
theorem pow_log2_le_nearest {number : Nat} (positive : number ≠ 0) :
    2 ^ number.log2 ≤ nearest number := by
  have inside : 2 ^ number.log2 ≤ number := Nat.log2_self_le positive
  by_cases short : number.log2 ≤ 52
  · rw [nearest_of_log2_le short]
    exact inside
  · have split := pow_split (Nat.le_of_not_le short) 0
    rw [Nat.add_zero] at split
    have rounds := roundQuotient_mono inside (2 ^ (number.log2 - 52))
    rw [split, roundQuotient_mul _ (Nat.two_pow_pos _)] at rounds
    rw [split, nearest]
    exact Nat.mul_le_mul_right _ rounds

/-- Rounding does not go above the next power of two. -/
theorem nearest_le_pow (number : Nat) : nearest number ≤ 2 ^ (number.log2 + 1) := by
  have inside : number ≤ 2 ^ (number.log2 + 1) := Nat.le_of_lt Nat.lt_log2_self
  by_cases short : number.log2 ≤ 52
  · rw [nearest_of_log2_le short]
    exact inside
  · have split := pow_split (Nat.le_of_not_le short) 1
    have rounds := roundQuotient_mono inside (2 ^ (number.log2 - 52))
    rw [split, roundQuotient_mul _ (Nat.two_pow_pos _)] at rounds
    rw [split, nearest]
    exact Nat.mul_le_mul_right _ rounds

private theorem nearest_mono {lesser greater : Nat} (le : lesser ≤ greater) :
    nearest lesser ≤ nearest greater := by
  by_cases isZero : lesser = 0
  · subst isZero
    exact Nat.zero_le _
  have positive : greater ≠ 0 := by
    omega
  have lesserInside := Nat.log2_self_le isZero
  have lengths : lesser.log2 ≤ greater.log2 :=
    (Nat.le_log2 positive).mpr (Nat.le_trans lesserInside le)
  rcases Nat.lt_or_eq_of_le lengths with shorter | same
  · calc nearest lesser
      _ ≤ 2 ^ (lesser.log2 + 1) := nearest_le_pow lesser
      _ ≤ 2 ^ greater.log2 := Nat.pow_le_pow_right Nat.two_pos shorter
      _ ≤ nearest greater := pow_log2_le_nearest positive
  · rw [nearest, nearest, same]
    exact Nat.mul_le_mul_right _ (roundQuotient_mono le _)

/-- Up to 53 bits nothing is rounded. -/
theorem nearest_of_le {number : Nat} (small : number ≤ 2 ^ 53) : nearest number = number := by
  rcases Nat.lt_or_eq_of_le small with less | rfl
  · by_cases isZero : number = 0
    · subst isZero
      rfl
    · exact nearest_of_log2_le (Nat.le_of_lt_succ ((Nat.log2_lt isZero).mpr less))
  · decide +kernel

/-- The least natural number that is rounded beyond the range of doubles. -/
def limit : Nat :=
  2 ^ 1024 - 2 ^ 970

theorem nearest_lt_iff {number : Nat} : nearest number < 2 ^ 1024 ↔ number < limit := by
  have last : nearest (limit - 1) < 2 ^ 1024 := by
    decide +kernel
  have first : 2 ^ 1024 ≤ nearest limit := by
    decide +kernel
  constructor
  · intro inRange
    refine Nat.lt_of_not_le fun beyond => ?_
    exact absurd inRange (Nat.not_lt.mpr (Nat.le_trans first (nearest_mono beyond)))
  · intro inRange
    exact Nat.lt_of_le_of_lt (nearest_mono (Nat.le_sub_one_of_lt inRange)) last

/-! ## Integers -/

def rounded (value : Int) : Int :=
  signed (value < 0) (nearest value.natAbs)

theorem rounded_of_nonneg {value : Int} (nonneg : 0 ≤ value) :
    rounded value = nearest value.natAbs := by
  simp [rounded, signed, Int.not_lt.mpr nonneg]

theorem rounded_of_neg {value : Int} (negative : value < 0) :
    rounded value = -(nearest value.natAbs : Int) := by
  simp [rounded, signed, negative]

/-- Rounding keeps the order. -/
theorem rounded_mono {lesser greater : Int} (le : lesser ≤ greater) :
    rounded lesser ≤ rounded greater := by
  by_cases nonneg : 0 ≤ lesser
  · rw [rounded_of_nonneg nonneg, rounded_of_nonneg (Int.le_trans nonneg le)]
    exact Int.ofNat_le.mpr (nearest_mono (by omega))
  · rw [rounded_of_neg (Int.not_le.mp nonneg)]
    by_cases positive : 0 ≤ greater
    · rw [rounded_of_nonneg positive]
      omega
    · rw [rounded_of_neg (Int.not_le.mp positive)]
      exact Int.neg_le_neg (Int.ofNat_le.mpr (nearest_mono (by omega)))

private theorem rounded_of_natAbs_le {value : Int} (small : value.natAbs ≤ 2 ^ 53) :
    rounded value = value := by
  by_cases nonneg : 0 ≤ value
  · rw [rounded_of_nonneg nonneg, nearest_of_le small]
    omega
  · rw [rounded_of_neg (Int.not_le.mp nonneg), nearest_of_le small]
    omega

/-- Integers of which one has at most 53 bits are in the same order after they are rounded. -/
theorem rounded_le_rounded_iff {lesser greater : Int}
    (small : lesser.natAbs < 2 ^ 53 ∨ greater.natAbs < 2 ^ 53) :
    rounded lesser ≤ rounded greater ↔ lesser ≤ greater := by
  refine ⟨fun le => ?_, rounded_mono⟩
  refine Int.not_lt.mp fun apart => ?_
  -- Next to the small one there is an integer that is not rounded either.
  rcases small with small | small
  · have between : rounded greater ≤ rounded (lesser - 1) := rounded_mono (by omega)
    rw [@rounded_of_natAbs_le (lesser - 1) (by omega)] at between
    rw [rounded_of_natAbs_le (Nat.le_of_lt small)] at le
    omega
  · have between : rounded (greater + 1) ≤ rounded lesser := rounded_mono (by omega)
    rw [@rounded_of_natAbs_le (greater + 1) (by omega)] at between
    rw [rounded_of_natAbs_le (Nat.le_of_lt small)] at le
    omega

/-! ## Doubles -/

private theorem minFullMantissa_eq : minFullMantissa = 2 ^ 52 := rfl

private theorem exponentFor_one {number : Nat} (positive : number ≠ 0) :
    exponentFor number 1 = (number.log2 : Int) - 52 := by
  have inside := Nat.log2_self_le positive
  have noBits : Nat.log2 1 = 0 := by
    decide
  simp only [exponentFor, noBits, minFullMantissa_eq, Nat.one_mul, Nat.pow_eq, Int.natCast_zero,
    Int.sub_zero]
  have reaches : (if (0 : Int) ≤ number.log2 - 52 then
      decide (2 ^ 52 * 2 ^ ((number.log2 : Int) - 52).toNat ≤ number)
      else decide (2 ^ 52 ≤ number * 2 ^ (-((number.log2 : Int) - 52)).toNat)) = true := by
    by_cases long : (0 : Int) ≤ number.log2 - 52
    · rw [if_pos long, decide_eq_true_eq, ← Nat.pow_add]
      rwa [show 52 + ((number.log2 : Int) - 52).toNat = number.log2 by omega]
    · rw [if_neg long, decide_eq_true_eq]
      calc 2 ^ 52
        _ = 2 ^ number.log2 * 2 ^ (-((number.log2 : Int) - 52)).toNat := by
          rw [← Nat.pow_add]
          congr 1
          omega
        _ ≤ number * 2 ^ (-((number.log2 : Int) - 52)).toNat :=
          Nat.mul_le_mul_right _ inside
  rw [reaches, if_pos rfl, minExponent]
  omega

private theorem mantissaAt_one (number : Nat) :
    (mantissaAt number 1 (number.log2 - 52) : ℚ) * 2 ^ ((number.log2 : Int) - 52) =
      nearest number := by
  rw [mantissaAt]
  by_cases long : (0 : Int) ≤ number.log2 - 52
  · obtain ⟨extra, isExtra⟩ := Int.eq_ofNat_of_zero_le long
    have isLong : number.log2 - 52 = extra := by
      omega
    rw [if_pos long, nearest, isLong, isExtra, Nat.one_mul, Nat.pow_eq, Int.toNat_natCast,
      zpow_natCast]
    push_cast
    rfl
  · have isShort : number.log2 ≤ 52 := by
      omega
    obtain ⟨missing, isMissing⟩ : ∃ missing : Nat, (number.log2 : Int) - 52 = -missing :=
      ⟨52 - number.log2, by omega⟩
    rw [if_neg long, nearest_of_log2_le isShort, roundQuotient_one, isMissing, Int.neg_neg,
      Int.toNat_natCast, Nat.pow_eq, zpow_neg, zpow_natCast]
    push_cast
    exact mul_inv_cancel_right₀ (pow_ne_zero missing two_ne_zero) _

private theorem two_zpow_le_iff {lesser greater : Int} :
    (2 : ℚ) ^ lesser ≤ 2 ^ greater ↔ lesser ≤ greater :=
  zpow_le_zpow_iff_right₀ one_lt_two

/-- The mantissa at which a positive number is rounded has 53 bits, or it is one more than fit
into 53 bits. -/
theorem mantissaAt_one_bounds {number : Nat} (positive : number ≠ 0) :
    2 ^ 52 ≤ mantissaAt number 1 (number.log2 - 52) ∧
      mantissaAt number 1 (number.log2 - 52) ≤ 2 ^ 53 := by
  have isMantissa := mantissaAt_one number
  have unitPositive : (0 : ℚ) < 2 ^ ((number.log2 : Int) - 52) := zpow_pos two_pos _
  have units (bits : Nat) : ((2 ^ (number.log2 + bits) : Nat) : ℚ) =
      ((2 ^ (52 + bits) : Nat) : ℚ) * 2 ^ ((number.log2 : Int) - 52) := by
    push_cast
    rw [← zpow_natCast, ← zpow_natCast, ← zpow_add₀ two_ne_zero]
    congr 1
    omega
  constructor
  · have least : ((2 ^ (number.log2 + 0) : Nat) : ℚ) ≤ nearest number :=
      Nat.cast_le.mpr (pow_log2_le_nearest positive)
    rw [units, ← isMantissa, mul_le_mul_iff_left₀ unitPositive] at least
    exact Nat.cast_le.mp least
  · have most : (nearest number : ℚ) ≤ ((2 ^ (number.log2 + 1) : Nat) : ℚ) :=
      Nat.cast_le.mpr (nearest_le_pow number)
    rw [units, ← isMantissa, mul_le_mul_iff_left₀ unitPositive] at most
    exact Nat.cast_le.mp most

private theorem two_pow_eq_mul {whole : Nat} {bits exponent : Int}
    (split : (whole : Int) = bits + exponent) :
    (2 : ℚ) ^ whole = 2 ^ bits * 2 ^ exponent := by
  rw [← zpow_natCast, split, zpow_add₀ two_ne_zero]

/-- A mantissa of 53 bits is out of range exactly with an exponent that is too large. -/
theorem two_pow_le_mul_iff {mantissa : Nat} {exponent : Int} (least : 2 ^ 52 ≤ mantissa)
    (most : mantissa < 2 ^ 53) :
    (2 : ℚ) ^ 1024 ≤ mantissa * 2 ^ exponent ↔ maxExponent < exponent := by
  constructor
  · intro beyond
    refine Int.not_le.mp fun small => ?_
    have isSmall : (2 : ℚ) ^ exponent ≤ 2 ^ (971 : Int) := two_zpow_le_iff.mpr small
    have isShort : (mantissa : ℚ) < 2 ^ (53 : Int) := by
      exact_mod_cast most
    have within : (mantissa : ℚ) * 2 ^ exponent < 2 ^ 1024 := by
      calc (mantissa : ℚ) * 2 ^ exponent
        _ ≤ mantissa * 2 ^ (971 : Int) := by gcongr
        _ < 2 ^ (53 : Int) * 2 ^ (971 : Int) := by gcongr
        _ = 2 ^ 1024 := (two_pow_eq_mul rfl).symm
    exact absurd beyond (not_le.mpr within)
  · intro large
    have isLarge : (2 : ℚ) ^ (972 : Int) ≤ 2 ^ exponent := two_zpow_le_iff.mpr large
    have isFull : (2 : ℚ) ^ (52 : Int) ≤ mantissa := by
      exact_mod_cast least
    calc (2 : ℚ) ^ 1024
      _ = 2 ^ (52 : Int) * 2 ^ (972 : Int) := two_pow_eq_mul rfl
      _ ≤ mantissa * 2 ^ exponent := by gcongr

/-- A positive number has a mantissa of 53 bits and an exponent, unless the exponent is too
large. -/
theorem round_one_of_pos (negative : Bool) {number : Nat} (positive : number ≠ 0) :
    ∃ (mantissa : Nat) (exponent : Int), 2 ^ 52 ≤ mantissa ∧ mantissa < 2 ^ 53 ∧
      (mantissa : ℚ) * 2 ^ exponent = nearest number ∧
      round negative number 1 = if maxExponent < exponent then .infinite negative
        else .finite negative mantissa exponent := by
  obtain ⟨least, most⟩ := mantissaAt_one_bounds positive
  have isMantissa := mantissaAt_one number
  rw [round, if_neg positive, exponentFor_one positive]
  dsimp only
  generalize mantissaAt number 1 (number.log2 - 52) = mantissa at *
  by_cases full : mantissa = 2 * minFullMantissa
  · refine ⟨minFullMantissa, number.log2 - 52 + 1, by decide, by decide, ?_, ?_⟩
    · rw [← isMantissa, full, zpow_add_one₀ two_ne_zero]
      push_cast
      ring
    · simp only [if_pos full]
  · refine ⟨mantissa, number.log2 - 52, least, ?_, isMantissa, ?_⟩
    · rw [minFullMantissa] at full
      omega
    · simp only [if_neg full]

/-- A number becomes what it is rounded to, or infinite when it is out of range. -/
theorem round_one (negative : Bool) (number : Nat) :
    ∃ (mantissa : Nat) (exponent : Int), (mantissa : ℚ) * 2 ^ exponent = nearest number ∧
      round negative number 1 = if number < limit then .finite negative mantissa exponent
        else .infinite negative := by
  by_cases isZero : number = 0
  · subst isZero
    have inRange : 0 < limit := by
      decide +kernel
    exact ⟨0, minExponent, by simp [nearest_of_le], by rw [if_pos inRange]; rfl⟩
  obtain ⟨mantissa, exponent, least, most, isNumber, isRounded⟩ :=
    round_one_of_pos negative isZero
  refine ⟨mantissa, exponent, isNumber, ?_⟩
  have outOfRange : maxExponent < exponent ↔ ¬ number < limit := by
    rw [← two_pow_le_mul_iff least most, isNumber, ← nearest_lt_iff, Nat.not_lt]
    exact_mod_cast Iff.rfl
  rw [isRounded]
  by_cases inRange : number < limit
  · rw [if_pos inRange, if_neg (fun large => outOfRange.mp large inRange)]
  · rw [if_neg inRange, if_pos (outOfRange.mpr inRange)]

end RecordSchema.Double
