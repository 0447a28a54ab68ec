import RecordSchema.Proofs.Number.Reading

/-!
# What counts as a number and what can be read

A text that counts as a number can be read as a double unless a separator control stands beside the
number: the recognisers take these characters for white space, and the reader does not.
-/

namespace RecordSchema

/-- The ASCII controls that separate files, groups, records and units. -/
def Text.separators : List Char :=
  ['\x1c', '\x1d', '\x1e', '\x1f']

namespace Number

/-! ## Blanks -/

private theorem mem_separators_iff {c : Char} :
    c ∈ Text.separators ↔ 28 ≤ c.toNat ∧ c.toNat ≤ 31 := by
  constructor
  · intro member
    have bounds : Text.separators.all fun mark => 28 ≤ mark.toNat && mark.toNat ≤ 31 := by
      decide
    simpa using List.all_eq_true.mp bounds c member
  · rintro ⟨least, most⟩
    have codes : ∀ code < 32, 28 ≤ code → Char.ofNat code ∈ Text.separators := by
      decide
    have member := codes c.toNat (by omega) least
    rwa [Char.ofNat_toNat] at member

/-- Apart from the separators, the same characters are blank for the recognisers and the reader. -/
theorem isBlank_eq_isMargin {c : Char} (noSeparator : c ∉ Text.separators) :
    Text.isBlank c = isMargin c := by
  rw [mem_separators_iff] at noSeparator
  rw [Bool.eq_iff_iff]
  simp only [isMargin, Text.isBlank, Bool.or_eq_true, Bool.and_eq_true, decide_eq_true_eq,
    beq_iff_eq]
  omega

private theorem dropWhile_eq_of_agree {first second : Char → Bool} {text : List Char}
    (agree : ∀ c ∈ text, first c = second c) : text.dropWhile first = text.dropWhile second := by
  induction text with
  | nil =>
      rfl
  | cons c rest inductionHypothesis =>
      obtain ⟨agreeHere, agreeRest⟩ := List.forall_mem_cons.mp agree
      rw [List.dropWhile_cons, List.dropWhile_cons, agreeHere, inductionHypothesis agreeRest]

private theorem trim_eq_trimMargin {text : List Char}
    (noSeparator : ∀ c ∈ text, c ∉ Text.separators) :
    Text.trim text = trimMargin text := by
  have atStart : text.dropWhile Text.isBlank = text.dropWhile isMargin :=
    dropWhile_eq_of_agree fun c member => isBlank_eq_isMargin (noSeparator c member)
  have atEnd : ∀ c ∈ (text.dropWhile isMargin).reverse, Text.isBlank c = isMargin c :=
    fun c member => isBlank_eq_isMargin
      (noSeparator c (List.dropWhile_subset _ (List.mem_reverse.mp member)))
  rw [Text.trim, trimMargin, atStart, dropWhile_eq_of_agree atEnd]

private theorem mem_dropWhile {kind : Char → Bool} {c : Char} {text : List Char} (member : c ∈ text)
    (other : kind c = false) : c ∈ text.dropWhile kind := by
  rw [← List.takeWhile_append_dropWhile (p := kind) (l := text)] at member
  rcases List.mem_append.mp member with taken | dropped
  · rw [List.mem_takeWhile_imp taken] at other
    cases other
  · exact dropped

private theorem mem_trimMargin {c : Char} {text : List Char} (member : c ∈ text)
    (noMargin : isMargin c = false) : c ∈ trimMargin text := by
  rw [trimMargin, List.mem_reverse]
  exact mem_dropWhile (List.mem_reverse.mpr (mem_dropWhile member noMargin)) noMargin

/-! ## Digits of every script -/

private theorem asciiDigit_of_not_digit {c : Char} (noDigit : Text.isDigit c = false) :
    asciiDigit c = c := by
  have noValue : Text.digitValue? c = none := by
    simpa [Text.isDigit] using noDigit
  rw [asciiDigit, noValue]

/-- The digits of all scripts become the digits of ASCII, and no other character does. -/
theorem isAsciiDigit_asciiDigit (c : Char) : isAsciiDigit (asciiDigit c) = Text.isDigit c := by
  cases isDigit : Text.isDigit c with
  | true =>
      obtain ⟨value, hasValue⟩ := Option.isSome_iff_exists.mp isDigit
      have small : value < 10 := by
        obtain ⟨span, _, rfl⟩ := Option.map_eq_some_iff.mp hasValue
        exact Nat.mod_lt _ (by decide)
      have digits : ∀ value < 10, isAsciiDigit (Char.ofNat (48 + value)) = true := by
        decide
      rw [asciiDigit, hasValue]
      exact digits value small
  | false =>
      rw [asciiDigit_of_not_digit isDigit]
      refine Bool.eq_false_iff.mpr fun ascii => ?_
      have spanned : (48, 57) ∈ Text.digitSpans := List.mem_cons_self
      have found : (Text.digitSpans.find? fun span =>
          span.1 ≤ c.toNat && c.toNat ≤ span.2).isSome = true :=
        List.find?_isSome.mpr ⟨_, spanned, ascii⟩
      rw [Text.isDigit, Text.digitValue?, Option.isSome_map, found] at isDigit
      cases isDigit

private theorem isAsciiDigit_comp_asciiDigit : isAsciiDigit ∘ asciiDigit = Text.isDigit :=
  funext isAsciiDigit_asciiDigit

private theorem asciiDigit_eq_iff {c mark : Char} (isMark : Text.isDigit mark = false) :
    asciiDigit c = mark ↔ c = mark := by
  constructor
  · rintro rfl
    have noDigit := isAsciiDigit_asciiDigit (asciiDigit c)
    rw [asciiDigit_of_not_digit isMark, isMark, isAsciiDigit_asciiDigit] at noDigit
    exact (asciiDigit_of_not_digit noDigit).symm
  · rintro rfl
    exact asciiDigit_of_not_digit isMark

/-- The marks of numbers, and the underscore that may stand between digits. -/
theorem isDigit_mark {mark : Char} (isMark : mark ∈ ['-', '+', '.', 'e', 'E', '_']) :
    Text.isDigit mark = false := by
  have noDigits : ['-', '+', '.', 'e', 'E', '_'].all fun mark => !Text.isDigit mark := by
    decide +kernel
  simpa using List.all_eq_true.mp noDigits mark isMark

/-! ## The two notations -/

private theorem takeSign_cons (c : Char) (rest : List Char) :
    takeSign (c :: rest) =
      if c = '-' then (true, rest) else if c = '+' then (false, rest) else (false, c :: rest) := by
  unfold takeSign
  split <;> simp_all

private theorem takeSign_map (text : List Char) :
    takeSign (text.map asciiDigit) = ((takeSign text).1, (takeSign text).2.map asciiDigit) := by
  cases text with
  | nil =>
      rfl
  | cons c rest =>
      rw [List.map_cons, takeSign_cons, takeSign_cons]
      simp only [asciiDigit_eq_iff (@isDigit_mark '-' (by simp)),
        asciiDigit_eq_iff (@isDigit_mark '+' (by simp))]
      split_ifs
      · rfl
      · rfl
      · rfl

/-- An exponent is recognised exactly if it can be read. -/
theorem isSome_readExponent? (text : List Char) :
    (readExponent? (text.map asciiDigit)).isSome = isExponentText text := by
  cases text with
  | nil =>
      rfl
  | cons mark rest =>
      simp only [List.map_cons, readExponent?, isExponentText, takeSign_map, List.isEmpty_map,
        List.all_map, isAsciiDigit_comp_asciiDigit, asciiDigit_eq_iff (@isDigit_mark 'e' (by simp)),
        asciiDigit_eq_iff (@isDigit_mark 'E' (by simp))]
      generalize (takeSign rest).2 = digits
      by_cases isMark : mark = 'e' ∨ mark = 'E'
      · have marked : (mark == 'e' || mark == 'E') = true := by
          simpa using isMark
        rw [if_pos isMark, marked]
        cases digits.isEmpty <;> cases digits.all Text.isDigit <;> rfl
      · have unmarked : (mark == 'e' || mark == 'E') = false := by
          simpa using isMark
        rw [if_neg isMark, unmarked]
        rfl

/-- A text counts as a number exactly if what stands between the blanks can be read as a decimal
number. -/
theorem isSome_readDecimal? (text : String) :
    (readDecimal? ((takeSign (Text.trim text.toList)).2.map asciiDigit)).isSome =
      isNumericText text := by
  unfold readDecimal? isNumericText
  generalize (takeSign (Text.trim text.toList)).2 = body
  simp only [List.takeWhile_map, List.dropWhile_map, isAsciiDigit_comp_asciiDigit, List.isEmpty_map]
  generalize (body.takeWhile Text.isDigit).isEmpty = noWhole
  cases body.dropWhile Text.isDigit with
  | nil =>
      cases noWhole <;> rfl
  | cons c rest =>
      by_cases isPoint : c = '.'
      · subst isPoint
        have point : asciiDigit '.' = '.' := asciiDigit_of_not_digit (@isDigit_mark '.' (by simp))
        have exponent := isSome_readExponent? (rest.dropWhile Text.isDigit)
        simp only [List.map_cons, point, List.takeWhile_map, List.dropWhile_map,
          isAsciiDigit_comp_asciiDigit, List.isEmpty_map]
        generalize (rest.takeWhile Text.isDigit).isEmpty = noFraction
        cases noWhole <;> cases noFraction <;> simp [exponent]
      · have exponent := isSome_readExponent? (c :: rest)
        have differs : asciiDigit c ≠ '.' :=
          mt (asciiDigit_eq_iff (@isDigit_mark '.' (by simp))).mp isPoint
        rw [List.map_cons] at exponent ⊢
        cases noWhole <;> simp [differs, isPoint, exponent]

/-! ## What can be read -/

/-- The characters of a number without blanks around it. -/
def IsNotation (c : Char) : Prop :=
  isAsciiDigit c = true ∨ c ∈ ['-', '+', '.', 'e', 'E']

private theorem mem_sign_or_body {c : Char} {text : List Char} (member : c ∈ text) :
    c ∈ ['-', '+'] ∨ c ∈ (takeSign text).2 := by
  cases text with
  | nil =>
      cases member
  | cons first rest =>
      rw [takeSign_cons]
      rcases List.mem_cons.mp member with rfl | later
      · split_ifs with minus plus
        · exact Or.inl (by simp [minus])
        · exact Or.inl (by simp [plus])
        · exact Or.inr List.mem_cons_self
      · split_ifs
        · exact Or.inr later
        · exact Or.inr later
        · exact Or.inr (List.mem_cons_of_mem _ later)

private theorem isNotation_of_sign {c : Char} (isSign : c ∈ ['-', '+']) : IsNotation c := by
  refine Or.inr ?_
  simp only [List.mem_cons, List.not_mem_nil, or_false] at isSign ⊢
  rcases isSign with rfl | rfl
  · exact Or.inl rfl
  · exact Or.inr (Or.inl rfl)

private theorem isNotation_of_readExponent? {text : List Char} {exponent : Int}
    (read : readExponent? text = some exponent) : ∀ c ∈ text, IsNotation c := by
  cases text with
  | nil =>
      exact List.forall_mem_nil _
  | cons mark rest =>
      rw [readExponent?] at read
      split at read
      · next isMark =>
          dsimp only at read
          split at read
          · cases read
          · next digits =>
              have areDigits : ∀ c ∈ (takeSign rest).2, isAsciiDigit c = true := by
                simpa using (not_or.mp (mt Bool.or_eq_true_iff.mpr digits)).2
              refine List.forall_mem_cons.mpr
                ⟨Or.inr (by rcases isMark with rfl | rfl <;> simp), ?_⟩
              intro c member
              rcases mem_sign_or_body member with isSign | isBody
              · exact isNotation_of_sign isSign
              · exact Or.inl (areDigits c isBody)
      · cases read

private theorem isNotation_of_readDecimal? {text : List Char} {number : List Char × Nat × Int}
    (read : readDecimal? text = some number) : ∀ c ∈ text, IsNotation c := by
  intro c member
  rw [← List.takeWhile_append_dropWhile (p := isAsciiDigit) (l := text)] at member
  rcases List.mem_append.mp member with whole | behind
  · exact Or.inl (List.mem_takeWhile_imp whole)
  · unfold readDecimal? at read
    dsimp only at read
    split at read
    · next rest isPoint =>
        split at read
        · cases read
        · obtain ⟨exponent, readExponent, _⟩ := Option.map_eq_some_iff.mp read
          rw [isPoint] at behind
          rcases List.mem_cons.mp behind with rfl | later
          · exact Or.inr (by simp)
          rw [← List.takeWhile_append_dropWhile (p := isAsciiDigit) (l := rest)] at later
          rcases List.mem_append.mp later with fraction | last
          · exact Or.inl (List.mem_takeWhile_imp fraction)
          · exact isNotation_of_readExponent? readExponent c last
    · split at read
      · cases read
      · obtain ⟨exponent, readExponent, _⟩ := Option.map_eq_some_iff.mp read
        exact isNotation_of_readExponent? readExponent c behind

/-- A text with a sign that may stand in front of a decimal number has the characters of numbers. -/
theorem isNotation_of_signed {text : List Char} {number : List Char × Nat × Int}
    (read : readDecimal? (takeSign text).2 = some number) : ∀ c ∈ text, IsNotation c := by
  intro c member
  rcases mem_sign_or_body member with isSign | isBody
  · exact isNotation_of_sign isSign
  · exact isNotation_of_readDecimal? read c isBody

/-- No separator is a digit, a mark of numbers, or a letter of their names, nor becomes one. -/
theorem separator_apart {c : Char} (separator : c ∈ Text.separators) :
    isMargin c = false ∧ asciiDigit c = c ∧ c ≠ '_' ∧ ¬ IsNotation c ∧
      ∀ name ∈ ["inf", "infinity", "nan"], c.toLower ∉ name.toList := by
  have apart : Text.separators.all fun c =>
      !isMargin c && (asciiDigit c == c && (c != '_' &&
        (!(isAsciiDigit c || ['-', '+', '.', 'e', 'E'].contains c) &&
          ["inf", "infinity", "nan"].all fun name => !name.toList.contains c.toLower))) := by
    decide +kernel
  simpa [IsNotation] using List.all_eq_true.mp apart c separator

private theorem mem_of_dropUnderscores {isDigit : Char → Bool} {c : Char} {text kept : List Char}
    {afterDigit : Bool} (dropped : dropUnderscores isDigit afterDigit text = some kept)
    (member : c ∈ text) (noUnderscore : c ≠ '_') : c ∈ kept := by
  fun_induction dropUnderscores isDigit afterDigit text generalizing kept with
  | case1 =>
      cases member
  | case2 afterDigit second rest between inductionHypothesis =>
      rcases List.mem_cons.mp member with rfl | later
      · exact absurd rfl noUnderscore
      · exact inductionHypothesis dropped later
  | case3 =>
      cases dropped
  | case4 =>
      cases dropped
  | case5 afterDigit first rest _ _ inductionHypothesis =>
      obtain ⟨keptRest, droppedRest, rfl⟩ := Option.map_eq_some_iff.mp dropped
      rcases List.mem_cons.mp member with rfl | later
      · exact List.mem_cons_self
      · exact List.mem_cons_of_mem _ (inductionHypothesis droppedRest later)

private theorem not_separator_of_readPlainDouble? {text : List Char} {number : Double}
    (read : readPlainDouble? text = some number) : ∀ c ∈ text, c ∉ Text.separators := by
  intro c member separator
  obtain ⟨_, _, _, noNotation, noName⟩ := separator_apart separator
  have isBody : c ∈ (takeSign text).2 :=
    (mem_sign_or_body member).resolve_left fun isSign => noNotation (isNotation_of_sign isSign)
  have notNamed : ∀ name ∈ ["inf", "infinity", "nan"],
      String.ofList ((takeSign text).2.map Char.toLower) ≠ name := by
    rintro name isName rfl
    refine noName _ isName ?_
    rw [String.toList_ofList]
    exact List.mem_map_of_mem isBody
  unfold readPlainDouble? at read
  dsimp only at read
  rw [if_neg, if_neg] at read
  · obtain ⟨decimal, readDecimal, _⟩ := Option.map_eq_some_iff.mp read
    exact noNotation (isNotation_of_signed readDecimal c member)
  · exact notNamed "nan" (by simp)
  · exact not_or.mpr ⟨notNamed "inf" (by simp), notNamed "infinity" (by simp)⟩

private theorem isSome_readPlainDouble? {text : List Char}
    (decimal : (readDecimal? (takeSign text).2).isSome = true) :
    (readPlainDouble? text).isSome = true := by
  unfold readPlainDouble?
  dsimp only
  split_ifs
  · rfl
  · rfl
  · rwa [Option.isSome_map]

/-! ## Numbers in texts -/

private theorem not_separator_of_readDouble? {text : String} {number : Double}
    (read : readDouble? text = some number) : ∀ c ∈ text.toList, c ∉ Text.separators := by
  intro c member separator
  obtain ⟨noMargin, ascii, noUnderscore, _⟩ := separator_apart separator
  obtain ⟨kept, dropped, readKept⟩ := Option.bind_eq_some_iff.mp read
  have isTrimmed : c ∈ (trimMargin text.toList).map asciiDigit :=
    List.mem_map.mpr ⟨c, mem_trimMargin member noMargin, ascii⟩
  exact not_separator_of_readPlainDouble? readKept c
    (mem_of_dropUnderscores dropped isTrimmed noUnderscore) separator

/-- A text that counts as a number can be read as one exactly if it holds no separator. -/
theorem isSome_readDouble?_iff {text : String} (counts : isNumericText text = true) :
    (readDouble? text).isSome = true ↔ ∀ c ∈ text.toList, c ∉ Text.separators := by
  constructor
  · intro read
    obtain ⟨number, readNumber⟩ := Option.isSome_iff_exists.mp read
    exact not_separator_of_readDouble? readNumber
  · intro noSeparator
    have decimal := isSome_readDecimal? text
    rw [counts, trim_eq_trimMargin noSeparator] at decimal
    have signed : (readDecimal? (takeSign ((trimMargin text.toList).map asciiDigit)).2).isSome =
        true := by
      rwa [takeSign_map]
    obtain ⟨number, read⟩ := Option.isSome_iff_exists.mp signed
    have absent : '_' ∉ (trimMargin text.toList).map asciiDigit := fun member =>
      absurd (isNotation_of_signed read '_' member) (by unfold IsNotation; decide)
    have plainly : readDouble? text =
        readPlainDouble? ((trimMargin text.toList).map asciiDigit) := by
      rw [readDouble?, dropUnderscores_of_not_mem absent, Option.bind_eq_bind, Option.bind_some]
    rw [plainly]
    exact isSome_readPlainDouble? signed

theorem isNumericText_of_isIntegerText {text : String} (integer : isIntegerText text = true) :
    isNumericText text = true := by
  unfold isIntegerText at integer
  unfold isNumericText
  generalize (takeSign (Text.trim text.toList)).2 = body at integer ⊢
  dsimp only at integer ⊢
  obtain ⟨nonempty, areDigits⟩ := Bool.and_eq_true_iff.mp integer
  have digits := List.all_eq_true.mp areDigits
  rw [List.dropWhile_eq_nil_iff.mpr digits, List.takeWhile_eq_self_iff.mpr digits, nonempty]
  rfl

end Number
end RecordSchema
