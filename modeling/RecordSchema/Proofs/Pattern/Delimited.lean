import Mathlib
import RecordSchema.Pattern.Search
import RecordSchema.Proofs.Outcome

/-!
# Where a delimited pattern is split

No delimiter is a modifier.  So a text that begins with a delimiter can be split in one way at most:
at the last place of that delimiter, and only if nothing but modifiers follows it.  The body is read
under the flags that the modifiers name, and any other text is read as it is.
-/

namespace RecordSchema.Pattern

/-! ## The split -/

/-- The text is a body between two equal delimiters, with modifiers behind the second. -/
def IsDelimited (text body letters : List Char) : Prop :=
  ∃ delimiter ∈ delimiters, text = delimiter :: (body ++ delimiter :: letters) ∧
    ∀ letter ∈ letters, letter ∈ modifiers

private theorem not_mem_modifiers {delimiter : Char} (isDelimiter : delimiter ∈ delimiters) :
    delimiter ∉ modifiers := by
  have apart : ∀ other ∈ delimiters, other ∉ modifiers := by
    simp [delimiters, modifiers]
  exact apart delimiter isDelimiter

private theorem cut_ne_append {delimiter : Char} {letters : List Char}
    (absent : delimiter ∉ letters)
    (rest : List Char) :
    (letters ++ delimiter :: rest).takeWhile (· != delimiter) = letters ∧
      (letters ++ delimiter :: rest).dropWhile (· != delimiter) = delimiter :: rest := by
  have differ : ∀ letter ∈ letters, (letter != delimiter) = true := by
    intro letter member
    rw [bne_iff_ne]
    rintro rfl
    exact absent member
  rw [List.takeWhile_append_of_pos differ, List.dropWhile_append_of_pos differ]
  simp

/-- A body and letters are found exactly if they make up the text. -/
theorem splitDelimited?_eq_some_iff {text body letters : List Char} :
    splitDelimited? text = some (body, letters) ↔ IsDelimited text body letters := by
  constructor
  · intro split
    cases text with
    | nil =>
        cases split
    | cons delimiter rest =>
        rw [splitDelimited?] at split
        split at split
        · next isDelimiter =>
            have parts := List.takeWhile_append_dropWhile (p := (· != delimiter))
              (l := rest.reverse)
            dsimp only at split
            split at split
            · cases split
            · next mark front dropped =>
                split at split
                · next areModifiers =>
                    cases split
                    have isMark : mark = delimiter := by
                      have stops := List.head_dropWhile_not (· != delimiter)
                        (l := rest.reverse) (by simp [dropped])
                      simpa [dropped] using stops
                    have whole : rest = front.reverse ++ delimiter ::
                        (rest.reverse.takeWhile (· != delimiter)).reverse := by
                      rw [dropped, isMark] at parts
                      have reversed := congrArg List.reverse parts
                      simpa using reversed.symm
                    refine ⟨delimiter, by simpa using isDelimiter, ?_, ?_⟩
                    · rw [← whole]
                    · simpa using areModifiers
                · cases split
        · cases split
  · rintro ⟨delimiter, isDelimiter, rfl, areModifiers⟩
    have absent : delimiter ∉ letters.reverse := by
      rw [List.mem_reverse]
      intro member
      exact not_mem_modifiers isDelimiter (areModifiers delimiter member)
    have reversed : (body ++ delimiter :: letters).reverse =
        letters.reverse ++ delimiter :: body.reverse := by
      simp
    have areKnown : letters.all modifiers.contains = true := by
      simpa using areModifiers
    rw [splitDelimited?, if_pos (by simpa using isDelimiter)]
    obtain ⟨before, after⟩ := cut_ne_append absent body.reverse
    simp only [reversed, before, after, List.reverse_reverse, areKnown, if_true]

/-! ## The flags -/

def Flags.named (letters : List Char) : Flags where
  ignoreCase := letters.contains 'i'
  multiline := letters.contains 'm'
  dotAll := letters.contains 's'
  verbose := letters.contains 'x'

namespace Flags

variable {letter : Char} {letters : List Char}

private theorem union_assoc (first second third : Flags) :
    (first.union second).union third = first.union (second.union third) := by
  simp only [union, Bool.or_assoc]

theorem named_cons : (modifierFlag letter).union (named letters) = named (letter :: letters) := by
  unfold modifierFlag
  split
  · simp [named, union]
  · simp [named, union]
  · simp [named, union]
  · simp [named, union]
  · next notCase notLines notDots notVerbose =>
      simp [named, union, Ne.symm notCase, Ne.symm notLines, Ne.symm notDots,
        Ne.symm notVerbose]

private theorem union_modifierFlags (flags : Flags) (letters : List Char) :
    letters.foldl (fun flags letter => flags.union (modifierFlag letter)) flags =
      flags.union (named letters) := by
  induction letters generalizing flags with
  | nil =>
      simp [named, union]
  | cons letter rest inductionHypothesis =>
      rw [List.foldl_cons, inductionHypothesis, union_assoc, named_cons]

private theorem none_union (flags : Flags) : ({} : Flags).union flags = flags := by
  simp [union]

end Flags

private theorem splitSource_of_isDelimited {source body letters : List Char}
    (isDelimited : IsDelimited source body letters) :
    splitSource source = (body, .named letters) := by
  rw [splitSource, splitDelimited?_eq_some_iff.mpr isDelimited]
  dsimp only
  rw [Flags.union_modifierFlags, Flags.none_union]

private theorem splitSource_of_bare {source : List Char}
    (bare : ∀ body letters, ¬ IsDelimited source body letters) :
    splitSource source = (source, {}) := by
  have noSplit : splitDelimited? source = none := by
    refine Option.eq_none_iff_forall_ne_some.mpr fun found isFound => ?_
    exact bare found.1 found.2 (splitDelimited?_eq_some_iff.mp isFound)
  rw [splitSource, noSplit]

/-! ## The reading -/

/-- Read an expression under flags from outside, without regard to delimiters. -/
def reading (release : Release) (flags : Flags) (body : List Char) :
    Except PatternError Pattern := do
  let pattern : Pattern := ⟨String.ofList body, ← readExpression flags body⟩
  if pattern.program.code.looksTooFarBack release.backLimit then throw release.backRefusal
  return pattern

variable {release : Release}

private theorem compile_eq (source : String) : compile release source =
    reading release (splitSource source.toList).2 (splitSource source.toList).1 := rfl

/-- A pattern is refused as a value that does not fit: it is malformed, or a part of it cannot be
converted. -/
inductive Misfit : Error → Prop
  | malformed (source : String) : Misfit (.patternInvalid source)
  | unconverted : Misfit .badValue

/-- The reader gives up on a pattern for its size: a bound of a repetition or a look behind is too
large, or groups lie too deep inside each other. -/
inductive PatternError.Exceeds : PatternError → Prop
  | repetition : Exceeds .repetitionTooLarge
  | lookBehind : Exceeds .looksTooFarBack
  | nesting : Exceeds .nestedTooDeep

private theorem misfit_refusal_iff {source : String} {reason : PatternError} :
    Misfit (refusal source reason) ↔ ¬ reason.Exceeds := by
  constructor
  · intro misfit exceeds
    cases exceeds <;> cases misfit
  · intro within
    cases reason with
    | malformed =>
        exact .malformed source
    | repetitionTooLong =>
        exact .unconverted
    | alphabetsConflict =>
        exact .unconverted
    | repetitionTooLarge =>
        exact absurd .repetition within
    | looksTooFarBack =>
        exact absurd .lookBehind within
    | nestedTooDeep =>
        exact absurd .nesting within

/-- A source is read as just this expression under just these flags, and fails as a value that does
not fit exactly if the expression is refused and not for its size. -/
structure ReadsAs (release : Release) (source : String) (flags : Flags) (body : List Char) :
    Prop where
  accepted : ∀ pattern, ofValue (.text source) release = .ok pattern ↔
    reading release flags body = .ok pattern
  refused : ∀ error, ofValue (.text source) release = .error error ↔
    ∃ reason, reading release flags body = .error reason ∧ error = refusal source reason
  misfit : (∃ error, ofValue (.text source) release = .error error ∧ Misfit error) ↔
    ∃ reason, reading release flags body = .error reason ∧ ¬ reason.Exceeds

private theorem ReadsAs.of_splitSource {source : String} {flags : Flags} {body : List Char}
    (split : splitSource source.toList = (body, flags)) : ReadsAs release source flags body := by
  have read : ofValue (.text source) release =
      (reading release flags body).mapError (refusal source) := by
    rw [ofValue, compile_eq, split]
  cases outcome : reading release flags body with
  | error reason =>
      have failed : ofValue (.text source) release = .error (refusal source reason) := by
        rw [read, outcome]
        rfl
      refine ⟨by simp [failed, outcome], ?_, ?_⟩
      · simp [failed, outcome, eq_comm]
      · simp [failed, outcome, misfit_refusal_iff]
  | ok pattern =>
      have done : ofValue (.text source) release = .ok pattern := by
        rw [read, outcome]
        rfl
      exact ⟨by simp [done, outcome], by simp [done, outcome], by simp [done, outcome]⟩

/-- In every release a body between delimiters is read under the flags that the modifiers name, and
any other text is read as it is and under no flags. -/
theorem ofValue_splits (release : Release) (source : String) :
    (∀ body letters, IsDelimited source.toList body letters →
      ReadsAs release source (.named letters) body) ∧
    ((∀ body letters, ¬ IsDelimited source.toList body letters) →
      ReadsAs release source {} source.toList) := by
  constructor
  · intro body letters isDelimited
    exact .of_splitSource (splitSource_of_isDelimited isDelimited)
  · intro bare
    exact .of_splitSource (splitSource_of_bare bare)

/-- A delimiter that is not the last one is part of the body. -/
theorem ofValue_splits_slashes :
    IsDelimited "/a/b/ix".toList "a/b".toList "ix".toList ∧
      ReadsAs .documented "/a/b/ix" (.named "ix".toList) "a/b".toList ∧
      (ofValue (.text "/a/b/ix") .documented).map
          (fun pattern => (pattern.body, pattern.expression.flags)) =
        .ok ("a/b", { ignoreCase := true, verbose := true }) := by
  have isDelimited : IsDelimited "/a/b/ix".toList "a/b".toList "ix".toList :=
    ⟨'/', by decide, rfl, by simp [modifiers]⟩
  have reads := (ofValue_splits .documented "/a/b/ix").1 _ _ isDelimited
  exact ⟨isDelimited, reads, by cbv⟩

/-- A bound that is too large for the reader keeps an expression from being read, and the error is
none of a value that does not fit. -/
theorem ofValue_exceeds_bound :
    IsDelimited "/a\x7b4294967296\x7d/".toList "a\x7b4294967296\x7d".toList [] ∧
      reading .early {} "a\x7b4294967296\x7d".toList = .error .repetitionTooLarge ∧
      ¬ ∃ error, ofValue (.text "/a\x7b4294967296\x7d/") = .error error ∧ Misfit error := by
  have isDelimited : IsDelimited "/a\x7b4294967296\x7d/".toList
      "a\x7b4294967296\x7d".toList [] := ⟨'/', by decide, rfl, List.forall_mem_nil _⟩
  have tooLarge : reading .early {} "a\x7b4294967296\x7d".toList =
      .error .repetitionTooLarge := by
    cbv
  have reads : ReadsAs .early _ _ _ :=
    ReadsAs.of_splitSource (splitSource_of_isDelimited isDelimited)
  refine ⟨isDelimited, tooLarge, fun misfits => ?_⟩
  obtain ⟨reason, refused, within⟩ := reads.misfit.mp misfits
  cases tooLarge.symm.trans refused
  exact within .repetition

end RecordSchema.Pattern
