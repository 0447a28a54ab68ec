import Mathlib.Data.List.DropRight
import RecordSchema.Format.Email

/-!
# The grammar of mail addresses

A text is recognised as a mail address exactly if it follows the grammar: one at sign, a local part
in front of it, and behind it a domain, whose last point is not its first character and has at least
two letters behind it.  The recogniser tries every point of the domain, and the grammar names one:
only letters may stand behind the point that is taken, so it can only be the last.
-/

namespace RecordSchema.Format

/-! ## Cuts -/

private theorem cutsAt_cons (mark c : Char) (rest : List Char) :
    cutsAt mark (c :: rest) =
      if c = mark then ([], rest) :: (cutsAt mark rest).map (Prod.map (c :: ·) id)
      else (cutsAt mark rest).map (Prod.map (c :: ·) id) := rfl

private theorem mem_cutsAt_cons {mark c : Char} {rest before after : List Char} :
    (before, after) ∈ cutsAt mark (c :: rest) ↔
      (c = mark ∧ before = [] ∧ after = rest) ∨
        ∃ front, before = c :: front ∧ (front, after) ∈ cutsAt mark rest := by
  have later : (before, after) ∈ (cutsAt mark rest).map (Prod.map (c :: ·) id) ↔
      ∃ front, before = c :: front ∧ (front, after) ∈ cutsAt mark rest := by
    simp only [List.mem_map, Prod.map, Prod.mk.injEq, Prod.exists, id]
    constructor
    · rintro ⟨front, back, cut, rfl, rfl⟩
      exact ⟨front, rfl, cut⟩
    · rintro ⟨front, rfl, cut⟩
      exact ⟨front, after, cut, rfl, rfl⟩
  rw [cutsAt_cons]
  split
  · next here =>
      rw [List.mem_cons, later, Prod.mk.injEq, and_iff_right here]
  · next differs =>
      rw [later]
      simp only [differs, false_and, false_or]

/-- The ways to cut a text at a mark are those to write it with the mark in between. -/
theorem mem_cutsAt_iff {mark : Char} {text before after : List Char} :
    (before, after) ∈ cutsAt mark text ↔ text = before ++ mark :: after := by
  induction text generalizing before with
  | nil =>
      simp [cutsAt]
  | cons c rest inductionHypothesis =>
      simp only [mem_cutsAt_cons, inductionHypothesis]
      cases before with
      | nil =>
          simp [eq_comm]
      | cons first front =>
          simp [eq_comm]

/-- What follows the last occurrence of a mark, or the whole text if there is none. -/
def afterLast (mark : Char) (text : List Char) : List Char :=
  text.rtakeWhile (· != mark)

private theorem afterLast_append {mark : Char} {after : List Char} (absent : mark ∉ after)
    (before : List Char) : afterLast mark (before ++ mark :: after) = after := by
  have differ : ∀ c ∈ after.reverse, (c != mark) = true := by
    intro c member
    rw [bne_iff_ne]
    rintro rfl
    exact absent (List.mem_reverse.mp member)
  rw [afterLast, List.rtakeWhile, List.reverse_append, List.reverse_cons, List.append_assoc,
    List.takeWhile_append_of_pos differ]
  simp

private theorem exists_append_afterLast {mark : Char} {text : List Char} (member : mark ∈ text) :
    ∃ before, text = before ++ mark :: afterLast mark text ∧ mark ∉ afterLast mark text := by
  obtain ⟨after, before, reversed, absent⟩ :=
    List.eq_append_cons_of_mem (List.mem_reverse.mpr member)
  have whole : text = before.reverse ++ mark :: after.reverse := by
    have turned := congrArg List.reverse reversed
    simpa using turned
  have absentReversed : mark ∉ after.reverse := by
    rwa [List.mem_reverse]
  have last : afterLast mark text = after.reverse := by
    rw [whole, afterLast_append absentReversed]
  rw [last]
  exact ⟨before.reverse, whole, absentReversed⟩

/-! ## Characters -/

private theorem isPlainLetter_eq (c : Char) : isPlainLetter c = c.isAlpha := by
  have isUpper : (decide (65 ≤ c.toNat) && decide (c.toNat ≤ 90)) = c.isUpper :=
    (Bool.decide_and _ _).symm
  have isLower : (decide (97 ≤ c.toNat) && decide (c.toNat ≤ 122)) = c.isLower := rfl
  rw [isPlainLetter, isUpper, isLower]
  rfl

private theorem isPlainAlphanumeric_eq (c : Char) : isPlainAlphanumeric c = c.isAlphanum := by
  have isDigit : (decide (48 ≤ c.toNat) && decide (c.toNat ≤ 57)) = c.isDigit := rfl
  rw [isPlainAlphanumeric, isPlainLetter_eq, isDigit]
  rfl

private theorem isLocalChar_iff {c : Char} :
    isLocalChar c = true ↔ c.isAlphanum = true ∨ c ∈ ['.', '_', '%', '+', '-'] := by
  simp [isLocalChar, isPlainAlphanumeric_eq, or_assoc]

private theorem isHostChar_iff {c : Char} :
    isHostChar c = true ↔ c.isAlphanum = true ∨ c ∈ ['.', '-'] := by
  simp [isHostChar, isPlainAlphanumeric_eq, or_assoc]

/-! ## The grammar -/

/-- A local part is not empty, and made of the letters and digits of ASCII and five marks. -/
structure IsLocalPart (localPart : List Char) : Prop where
  nonempty : localPart ≠ []
  characters : ∀ c ∈ localPart, c.isAlphanum ∨ c ∈ ['.', '_', '%', '+', '-']

/-- A domain is made of the letters and digits of ASCII, points and hyphens.  It has a point that is
not its first character, and at least two letters, and nothing else, behind its last point. -/
structure IsMailDomain (domain : List Char) : Prop where
  characters : ∀ c ∈ domain, c.isAlphanum ∨ c ∈ ['.', '-']
  point : '.' ∈ domain.tail
  long : 2 ≤ (afterLast '.' domain).length
  letters : ∀ c ∈ afterLast '.' domain, c.isAlpha

/-- A domain is recognised if some point has a host in front of it and a suffix behind it. -/
theorem isDomain_iff_exists {domain : List Char} : isDomain domain = true ↔
    ∃ host suffix, domain = host ++ '.' :: suffix ∧ host ≠ [] ∧
      (∀ c ∈ host, c.isAlphanum ∨ c ∈ ['.', '-']) ∧ 2 ≤ suffix.length ∧
      ∀ c ∈ suffix, c.isAlpha := by
  rw [isDomain, List.any_eq_true]
  simp only [Prod.exists, mem_cutsAt_iff, Bool.and_eq_true, List.all_eq_true, isHostChar_iff,
    isPlainLetter_eq, decide_eq_true_eq, Bool.not_eq_true', List.isEmpty_eq_false_iff, and_assoc]

private theorem isDomain_iff {domain : List Char} :
    isDomain domain = true ↔ IsMailDomain domain := by
  rw [isDomain_iff_exists]
  constructor
  · rintro ⟨host, suffix, rfl, nonempty, hostCharacters, long, letters⟩
    have absent : '.' ∉ suffix := by
      intro member
      have isLetter := letters '.' member
      revert isLetter
      decide
    have last := afterLast_append absent host
    refine ⟨?_, ?_, ?_, ?_⟩
    · intro c member
      rcases List.mem_append.mp member with inHost | behind
      · exact hostCharacters c inHost
      · rcases List.mem_cons.mp behind with rfl | inSuffix
        · simp
        · simp [Char.isAlphanum, letters c inSuffix]
    · obtain ⟨first, rest, rfl⟩ := List.exists_cons_of_ne_nil nonempty
      simp
    · rwa [last]
    · rwa [last]
  · rintro ⟨characters, point, long, letters⟩
    obtain ⟨host, whole, absent⟩ := exists_append_afterLast (List.mem_of_mem_tail point)
    refine ⟨host, afterLast '.' domain, whole, ?_, ?_, long, letters⟩
    · -- The last point is not the first character, since there is a point behind that.
      rintro rfl
      rw [whole] at point
      exact absent point
    · intro c member
      refine characters c ?_
      rw [whole]
      exact List.mem_append_left _ member

/-- A text is recognised if some at sign has a local part in front of it and a domain behind it. -/
theorem isEmail_iff_exists {text : String} : isEmail text = true ↔
    ∃ localPart domain, text.toList = localPart ++ '@' :: domain ∧ IsLocalPart localPart ∧
      IsMailDomain domain := by
  rw [isEmail, List.any_eq_true]
  simp only [Prod.exists, mem_cutsAt_iff, Bool.and_eq_true, List.all_eq_true, isLocalChar_iff,
    isDomain_iff, Bool.not_eq_true', List.isEmpty_eq_false_iff]
  constructor
  · rintro ⟨localPart, domain, whole, ⟨nonempty, characters⟩, isDomain⟩
    exact ⟨localPart, domain, whole, ⟨nonempty, characters⟩, isDomain⟩
  · rintro ⟨localPart, domain, whole, isLocal, isDomain⟩
    exact ⟨localPart, domain, whole, ⟨isLocal.nonempty, isLocal.characters⟩, isDomain⟩

private theorem IsLocalPart.count_sign {localPart : List Char} (isLocal : IsLocalPart localPart) :
    localPart.count '@' = 0 := by
  rw [List.count_eq_zero]
  intro member
  have allowed := isLocal.characters '@' member
  revert allowed
  decide

private theorem IsMailDomain.count_sign {domain : List Char} (isDomain : IsMailDomain domain) :
    domain.count '@' = 0 := by
  rw [List.count_eq_zero]
  intro member
  have allowed := isDomain.characters '@' member
  revert allowed
  decide

/-- A text is a mail address exactly if it has one at sign, a local part in front of it and a domain
behind it. -/
theorem isEmail_iff (text : String) : isEmail text = true ↔
    text.toList.count '@' = 1 ∧
      ∃ localPart domain, text.toList = localPart ++ '@' :: domain ∧ IsLocalPart localPart ∧
        IsMailDomain domain := by
  rw [isEmail_iff_exists]
  constructor
  · rintro ⟨localPart, domain, whole, isLocal, isDomain⟩
    refine ⟨?_, localPart, domain, whole, isLocal, isDomain⟩
    rw [whole, List.count_append, List.count_cons_self, isLocal.count_sign, isDomain.count_sign]
  · rintro ⟨_, address⟩
    exact address

/-- The points in front of the last one belong to the host. -/
example : isEmail "ada.l@mail-1.example.com" = true := by
  decide +kernel

end RecordSchema.Format
