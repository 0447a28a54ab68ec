import Mathlib.Data.List.TakeWhile
import RecordSchema.Number.Reader
import RecordSchema.Proofs.Number.Order
import RecordSchema.Value.Printer

/-!
# Reading written integers

An integer that is written in decimal notation is read as the double that the integer becomes,
whatever its size.
-/

namespace RecordSchema.Number

/-! ## Digits -/

def digits : List Char :=
  ['0', '1', '2', '3', '4', '5', '6', '7', '8', '9']

private theorem mem_digits {c : Char} (isDigit : c.isDigit = true) : c ∈ digits := by
  have bounds : 48 ≤ c.toNat ∧ c.toNat ≤ 57 := by
    simpa [Char.isDigit, UInt32.le_iff_toNat_le] using isDigit
  have codes : ∀ code < 58, 48 ≤ code → Char.ofNat code ∈ digits := by
    decide
  have member := codes c.toNat (by omega) bounds.1
  rwa [Char.ofNat_toNat] at member

private theorem mem_digits_of_mem_toDigits {number : Nat} {c : Char}
    (member : c ∈ Nat.toDigits 10 number) :
    c ∈ digits :=
  mem_digits (Nat.isDigit_of_mem_toDigits (by decide) (by decide) member)

private theorem isAsciiDigit_of_mem : ∀ c ∈ digits, isAsciiDigit c = true :=
  List.all_eq_true.mp (by decide)

/-- Digits are no signs, and begin no name of infinity or of what is no number. -/
theorem not_mark_of_mem {c : Char} (member : c ∈ digits) :
    c ≠ '-' ∧ c ≠ '+' ∧ c.toLower ≠ 'i' ∧ c.toLower ≠ 'n' := by
  have noMark : digits.all fun c =>
      c != '-' && c != '+' && c.toLower != 'i' && c.toLower != 'n' := by
    decide
  simpa [and_assoc] using List.all_eq_true.mp noMark c member

private theorem digitsValue_toDigits (number : Nat) :
    digitsValue (Nat.toDigits 10 number) = number :=
  Nat.ofDigitChars_toDigits (by decide) (by decide)

/-! ## Characters that are kept -/

/-- A character of a plain integer: it is no blank and no underscore, and no digit of another
script. -/
structure IsPlain (c : Char) : Prop where
  noMargin : isMargin c = false
  ascii : asciiDigit c = c
  noUnderscore : c ≠ '_'

private theorem isPlain_of_mem {c : Char} (member : c ∈ '-' :: digits) : IsPlain c := by
  have plain : ('-' :: digits).all fun c => !isMargin c && asciiDigit c == c && c != '_' := by
    decide +kernel
  obtain ⟨⟨noMargin, ascii⟩, noUnderscore⟩ :
      (isMargin c = false ∧ asciiDigit c = c) ∧ c ≠ '_' := by
    simpa using List.all_eq_true.mp plain c member
  exact ⟨noMargin, ascii, noUnderscore⟩

private theorem dropWhile_isMargin {text : List Char} (plain : ∀ c ∈ text, IsPlain c) :
    text.dropWhile isMargin = text := by
  cases text with
  | nil =>
      rfl
  | cons c rest =>
      rw [List.dropWhile_cons_of_neg]
      simp [(plain c List.mem_cons_self).noMargin]

private theorem trimMargin_of_plain {text : List Char} (plain : ∀ c ∈ text, IsPlain c) :
    trimMargin text = text := by
  have reversed : ∀ c ∈ text.reverse, IsPlain c := by
    simpa using plain
  rw [trimMargin, dropWhile_isMargin plain, dropWhile_isMargin reversed, List.reverse_reverse]

theorem dropUnderscores_of_not_mem {isDigit : Char → Bool} {text : List Char}
    (absent : '_' ∉ text) (afterDigit : Bool) :
    dropUnderscores isDigit afterDigit text = some text := by
  induction text generalizing afterDigit with
  | nil =>
      rfl
  | cons c rest inductionHypothesis =>
      obtain ⟨noUnderscore, absentRest⟩ := not_or.mp (mt List.mem_cons.mpr absent)
      rw [dropUnderscores, inductionHypothesis absentRest]
      · rfl
      · intro _ _ same
        exact absurd same.symm noUnderscore
      · intro same
        exact absurd same.symm noUnderscore

private theorem readDouble?_of_plain {text : List Char} (plain : ∀ c ∈ text, IsPlain c) :
    readDouble? (String.ofList text) = readPlainDouble? text := by
  have kept : text.map asciiDigit = text := by
    conv_rhs => rw [← List.map_id text]
    exact List.map_congr_left fun c member => (plain c member).ascii
  have absent : '_' ∉ text := fun member => (plain '_' member).noUnderscore rfl
  rw [readDouble?, String.toList_ofList, trimMargin_of_plain plain, kept,
    dropUnderscores_of_not_mem absent]
  rfl

/-! ## Integers -/

private theorem readDecimal?_digits {text : List Char} (nonempty : text ≠ [])
    (areDigits : ∀ c ∈ text, c ∈ digits) : readDecimal? text = some (text, 0, 0) := by
  have ascii : ∀ c ∈ text, isAsciiDigit c = true :=
    fun c member => isAsciiDigit_of_mem c (areDigits c member)
  have whole : text.takeWhile isAsciiDigit = text := List.takeWhile_eq_self_iff.mpr ascii
  have nothing : text.dropWhile isAsciiDigit = [] := List.dropWhile_eq_nil_iff.mpr ascii
  simp [readDecimal?, whole, nothing, nonempty, readExponent?]

private theorem name_of_digits {text : List Char} (nonempty : text ≠ [])
    (areDigits : ∀ c ∈ text, c ∈ digits) :
    String.ofList (text.map Char.toLower) ∉ ["inf", "infinity", "nan"] := by
  cases text with
  | nil =>
      exact absurd rfl nonempty
  | cons c rest =>
      obtain ⟨_, _, noI, noN⟩ := not_mark_of_mem (areDigits c List.mem_cons_self)
      have characters (name : String)
          (same : String.ofList ((c :: rest).map Char.toLower) = name) :
          c.toLower :: rest.map Char.toLower = name.toList := by
        rw [← same, String.toList_ofList]
        rfl
      intro named
      simp only [List.mem_cons, List.not_mem_nil, or_false] at named
      rcases named with same | same | same
      · exact noI (List.cons.inj (characters _ same)).1
      · exact noI (List.cons.inj (characters _ same)).1
      · exact noN (List.cons.inj (characters _ same)).1

private theorem readPlainDouble?_digits (number : Nat) (negative : Bool) :
    readPlainDouble? ((if negative then ['-'] else []) ++ Nat.toDigits 10 number) =
      some (Double.ofDecimal negative number 0) := by
  have areDigits : ∀ c ∈ Nat.toDigits 10 number, c ∈ digits :=
    fun c member => mem_digits_of_mem_toDigits member
  have nonempty : Nat.toDigits 10 number ≠ [] := Nat.toDigits_ne_nil
  have signless : takeSign (Nat.toDigits 10 number) = (false, Nat.toDigits 10 number) := by
    cases split : Nat.toDigits 10 number with
    | nil =>
        rfl
    | cons c rest =>
        obtain ⟨noMinus, noPlus, _⟩ := not_mark_of_mem (areDigits c (by simp [split]))
        rw [takeSign]
        · intro _ same
          exact absurd (List.cons.inj same).1 noMinus
        · intro _ same
          exact absurd (List.cons.inj same).1 noPlus
  have signed : takeSign ((if negative then ['-'] else []) ++ Nat.toDigits 10 number) =
      (negative, Nat.toDigits 10 number) := by
    cases negative with
    | false =>
        exact signless
    | true =>
        rfl
  have noName := name_of_digits nonempty areDigits
  simp only [List.mem_cons, List.not_mem_nil, or_false, not_or] at noName
  obtain ⟨noInf, noInfinity, noNan⟩ := noName
  rw [readPlainDouble?, signed]
  simp only [noInf, noInfinity, noNan, or_self, if_false, readDecimal?_digits nonempty areDigits,
    Option.map_some, digitsValue_toDigits]
  rfl

/-- Digits without an exponent stand for the number that they are the digits of, which is out of
range if they are too many. -/
theorem ofDecimal_whole (negative : Bool) (number : Nat) :
    Double.ofDecimal negative number 0 = Double.round negative number 1 := by
  rw [Double.ofDecimal]
  by_cases isZero : number = 0
  · subst isZero
    rfl
  rw [if_neg isZero]
  by_cases long : 400 < (Nat.toDigits 10 number).length
  · have beyond : ¬ number < Double.limit := by
      have notShort := mt (Nat.length_toDigits_le_iff (by decide) (by decide)).mpr
        (Nat.not_le.mpr long)
      have isLarge : Double.limit ≤ 10 ^ 400 := by
        decide +kernel
      omega
    obtain ⟨_, _, _, isRounded⟩ := Double.round_one negative number
    rw [isRounded, if_neg beyond]
    simp [long]
  · have notShort : ¬ ((Nat.toDigits 10 number).length : Int) + 0 < -400 := by
      omega
    have notLong : ¬ (400 : Int) < (Nat.toDigits 10 number).length + 0 := by
      omega
    simp only [if_neg notLong, if_neg notShort]
    simp

theorem toList_intText (value : Int) : (Value.intText value).toList =
    (if decide (value < 0) = true then ['-'] else []) ++ Nat.toDigits 10 value.natAbs := by
  simp [Value.intText]

/-- An integer is written with digits and a sign. -/
theorem mem_of_mem_intText {value : Int} {c : Char} (member : c ∈ (Value.intText value).toList) :
    c ∈ '-' :: digits := by
  rw [toList_intText] at member
  rcases List.mem_append.mp member with sign | digit
  · split at sign
    · rw [List.mem_singleton.mp sign]
      exact List.mem_cons_self
    · cases sign
  · exact List.mem_cons_of_mem _ (mem_digits_of_mem_toDigits digit)

/-- A written integer is read as the double that it becomes. -/
theorem readDouble?_intText (value : Int) :
    readDouble? (Value.intText value) = some (Double.ofInt value) := by
  have plain : ∀ c ∈ (Value.intText value).toList, IsPlain c :=
    fun c member => isPlain_of_mem (mem_of_mem_intText member)
  rw [← String.ofList_toList (s := Value.intText value), readDouble?_of_plain plain, toList_intText,
    readPlainDouble?_digits, ofDecimal_whole, Double.ofInt]

end RecordSchema.Number
