import RecordSchema.Text.Pieces
import Mathlib.Data.List.Find
import Mathlib.Data.List.Infix

/-!
# Replacing marks

Marks can be replaced all at once or one after the other.  Where the pieces of a text between breaks
are marks or have none in them, both go piece by piece, and they differ in one respect: replaced in
turn, the later marks are replaced in what has been put in the places of the earlier ones as well.
-/

namespace RecordSchema.Text

/-- Marks and what is put in their places. -/
abbrev Marks :=
  List (List Char × List Char)

/-- Replace marks after `skipped` more characters, which belong to the mark replaced last.  Of the
marks that stand in one place the first counts. -/
def replaceAllAux (marks : Marks) : Nat → List Char → List Char
  | _, [] => []
  | skipped + 1, _ :: rest => replaceAllAux marks skipped rest
  | 0, c :: rest =>
    match marks.find? fun mark => mark.1.isPrefixOf (c :: rest) with
    | some (mark, put) => put ++ replaceAllAux marks (mark.length - 1) rest
    | none => c :: replaceAllAux marks 0 rest

/-- Replace marks all at once, from left to right without overlaps. -/
def replaceAll (marks : Marks) (text : List Char) : List Char :=
  replaceAllAux marks 0 text

/-- Replace marks one after the other, each in all that is there by then. -/
def replaceInTurn (marks : Marks) (text : List Char) : List Char :=
  marks.foldl (fun done mark => replaceChars mark.1 mark.2 done) text

/-- The marks with what has been put in their places when the later ones have been replaced too. -/
def settled : Marks → Marks
  | [] => []
  | (mark, put) :: rest => (mark, replaceInTurn rest put) :: settled rest

variable {marks : Marks} {breaks : Char → Bool}

/-! ## Breaks -/

/-- An edit that goes on behind a break as if the text began there. -/
def CutsAt (breaks : Char → Bool) (edit : List Char → List Char) : Prop :=
  ∀ left c right, breaks c = true → edit (left ++ c :: right) = edit left ++ c :: edit right

private theorem induction_on_breaks (breaks : Char → Bool) {motive : List Char → Prop}
    (piece : ∀ piece, (∀ c ∈ piece, breaks c = false) → motive piece)
    (cut : ∀ left c right, (∀ d ∈ left, breaks d = false) → breaks c = true → motive right →
      motive (left ++ c :: right))
    (text : List Char) : motive text := by
  suffices continued : ∀ left, (∀ d ∈ left, breaks d = false) → motive (left ++ text) from
    continued [] (List.forall_mem_nil _)
  induction text with
  | nil =>
      intro left unbroken
      rw [List.append_nil]
      exact piece left unbroken
  | cons c rest inductionHypothesis =>
      intro left unbroken
      by_cases isBreak : breaks c = true
      · exact cut left c rest unbroken isBreak (inductionHypothesis [] (List.forall_mem_nil _))
      · have longer : ∀ d ∈ left ++ [c], breaks d = false := by
          intro d member
          rcases List.mem_append.mp member with earlier | last
          · exact unbroken d earlier
          · rw [List.mem_singleton.mp last]
            exact Bool.of_not_eq_true isBreak
        simpa using inductionHypothesis (left ++ [c]) longer

theorem breaks_eq_false_of_mem {text piece : List Char} (member : piece ∈ text.splitOnP breaks)
    {c : Char} (occurs : c ∈ piece) : breaks c = false := by
  induction text using induction_on_breaks breaks with
  | piece whole unbroken =>
      rw [List.splitOnP_eq_singleton unbroken] at member
      exact unbroken c (List.mem_singleton.mp member ▸ occurs)
  | cut left d right unbroken isBreak inductionHypothesis =>
      rw [List.splitOnP_append_cons_of_forall_mem unbroken d isBreak right] at member
      rcases List.mem_cons.mp member with rfl | later
      · exact unbroken c occurs
      · exact inductionHypothesis later

/-- Edits that cut at breaks come to the same on a text if they do on its pieces. -/
theorem CutsAt.congr {edit other : List Char → List Char} (cuts : CutsAt breaks edit)
    (otherCuts : CutsAt breaks other) {text : List Char}
    (same : ∀ piece ∈ text.splitOnP breaks, edit piece = other piece) : edit text = other text := by
  induction text using induction_on_breaks breaks with
  | piece piece unbroken =>
      rw [List.splitOnP_eq_singleton unbroken] at same
      exact same piece List.mem_cons_self
  | cut left c right unbroken isBreak inductionHypothesis =>
      rw [List.splitOnP_append_cons_of_forall_mem unbroken c isBreak right] at same
      obtain ⟨sameLeft, sameRight⟩ := List.forall_mem_cons.mp same
      rw [cuts left c right isBreak, otherCuts left c right isBreak, sameLeft,
        inductionHypothesis sameRight]

/-- Equal texts that are cut at a character of which there are as many before either cut are cut in
the same place. -/
theorem eq_of_append_cons_eq {c : Char} {left right otherLeft otherRight : List Char}
    (same : left ++ c :: right = otherLeft ++ c :: otherRight)
    (asMany : left.count c = otherLeft.count c) : left = otherLeft ∧ right = otherRight := by
  induction left generalizing otherLeft with
  | nil =>
      cases otherLeft with
      | nil =>
          cases same
          exact ⟨rfl, rfl⟩
      | cons d rest =>
          cases same
          simp at asMany
  | cons d rest inductionHypothesis =>
      cases otherLeft with
      | nil =>
          cases same
          simp at asMany
      | cons e otherRest =>
          injection same with sameHead sameTail
          subst sameHead
          have asManyLater : rest.count c = otherRest.count c := by
            simpa [List.count_cons] using asMany
          obtain ⟨rfl, rfl⟩ := inductionHypothesis sameTail asManyLater
          exact ⟨rfl, rfl⟩

/-- An edit that leaves no fewer breaks than another in each piece leaves no fewer in a text. -/
theorem CutsAt.count_le {edit other : List Char → List Char} (cuts : CutsAt breaks edit)
    (otherCuts : CutsAt breaks other) {c : Char} {text : List Char}
    (noFewer : ∀ piece ∈ text.splitOnP breaks, (other piece).count c ≤ (edit piece).count c) :
    (other text).count c ≤ (edit text).count c := by
  induction text using induction_on_breaks breaks with
  | piece piece unbroken =>
      rw [List.splitOnP_eq_singleton unbroken] at noFewer
      exact noFewer piece List.mem_cons_self
  | cut left d right unbroken isBreak inductionHypothesis =>
      rw [List.splitOnP_append_cons_of_forall_mem unbroken d isBreak right] at noFewer
      obtain ⟨noFewerLeft, noFewerRight⟩ := List.forall_mem_cons.mp noFewer
      rw [cuts left d right isBreak, otherCuts left d right isBreak, List.count_append,
        List.count_append, List.count_cons, List.count_cons]
      have later := inductionHypothesis noFewerRight
      omega

/-- What an edit makes of a piece stands in what it makes of the text. -/
theorem CutsAt.piece_isInfix {edit : List Char → List Char} (cuts : CutsAt breaks edit)
    {text piece : List Char} (member : piece ∈ text.splitOnP breaks) :
    edit piece <:+: edit text := by
  induction text using induction_on_breaks breaks with
  | piece whole unbroken =>
      rw [List.splitOnP_eq_singleton unbroken] at member
      cases List.mem_singleton.mp member
      exact List.infix_rfl
  | cut left c right unbroken isBreak inductionHypothesis =>
      rw [List.splitOnP_append_cons_of_forall_mem unbroken c isBreak right] at member
      rw [cuts left c right isBreak]
      rcases List.mem_cons.mp member with rfl | later
      · exact (List.prefix_append _ _).isInfix
      · have behind : edit right <:+ edit left ++ c :: edit right :=
          (List.suffix_cons c _).trans (List.suffix_append _ _)
        exact (inductionHypothesis later).trans behind.isInfix

/-- If one of two edits leaves no fewer breaks than the other in each piece, they come to the same
on a text exactly if they do on its pieces. -/
theorem CutsAt.eq_iff {edit other : List Char → List Char} (cuts : CutsAt breaks edit)
    (otherCuts : CutsAt breaks other) {text : List Char}
    (noFewer : ∀ piece ∈ text.splitOnP breaks, ∀ c, breaks c = true →
      (other piece).count c ≤ (edit piece).count c) :
    edit text = other text ↔ ∀ piece ∈ text.splitOnP breaks, edit piece = other piece := by
  refine ⟨fun same => ?_, cuts.congr otherCuts⟩
  induction text using induction_on_breaks breaks with
  | piece piece unbroken =>
      rw [List.splitOnP_eq_singleton unbroken]
      exact List.forall_mem_singleton.mpr same
  | cut left c right unbroken isBreak inductionHypothesis =>
      rw [List.splitOnP_append_cons_of_forall_mem unbroken c isBreak right] at noFewer ⊢
      obtain ⟨noFewerLeft, noFewerRight⟩ := List.forall_mem_cons.mp noFewer
      rw [cuts left c right isBreak, otherCuts left c right isBreak] at same
      -- No fewer breaks on either side and as many in all: as many on each side.
      have asMany : (edit left).count c = (other left).count c := by
        have inAll := congrArg (List.count c) same
        rw [List.count_append, List.count_append, List.count_cons_self, List.count_cons_self]
          at inAll
        have before := noFewerLeft c isBreak
        have behind := cuts.count_le otherCuts fun piece member =>
          noFewerRight piece member c isBreak
        omega
      obtain ⟨sameLeft, sameRight⟩ := eq_of_append_cons_eq same asMany
      exact List.forall_mem_cons.mpr ⟨sameLeft, inductionHypothesis noFewerRight sameRight⟩

/-! ## All at once -/

/-- Whether a mark without a character stands at the head of a text does not depend on what comes
behind that character. -/
theorem isPrefixOf_append_cons {c : Char} {mark : List Char} (without : c ∉ mark)
    (left right : List Char) : mark.isPrefixOf (left ++ c :: right) = mark.isPrefixOf left := by
  induction mark generalizing left with
  | nil =>
      rfl
  | cons d rest inductionHypothesis =>
      obtain ⟨differs, withoutRest⟩ := not_or.mp (List.mem_cons.not.mp without)
      cases left with
      | nil =>
          simp [List.isPrefixOf, Ne.symm differs]
      | cons e left =>
          simp [List.isPrefixOf, inductionHypothesis withoutRest left]

/-- Marks that have a character, and none of some characters. -/
def ApartFrom (breaks : Char → Bool) (marks : Marks) : Prop :=
  ∀ mark ∈ marks, mark.1 ≠ [] ∧ ∀ c ∈ mark.1, breaks c = false

private theorem ApartFrom.not_mem (apart : ApartFrom breaks marks) {mark : List Char × List Char}
    (member : mark ∈ marks) {c : Char} (isBreak : breaks c = true) : c ∉ mark.1 := by
  intro occurs
  have noBreak := (apart mark member).2 c occurs
  rw [isBreak] at noBreak
  cases noBreak

private theorem replaceAllAux_append_cons (apart : ApartFrom breaks marks) {c : Char}
    (isBreak : breaks c = true) {skipped : Nat} {left : List Char} (within : skipped ≤ left.length)
    (right : List Char) :
    replaceAllAux marks skipped (left ++ c :: right) =
      replaceAllAux marks skipped left ++ c :: replaceAllAux marks 0 right := by
  have sameMark (left : List Char) :
      (marks.find? fun mark => mark.1.isPrefixOf (left ++ c :: right)) =
        marks.find? fun mark => mark.1.isPrefixOf left :=
    List.find?_congr fun mark member =>
      isPrefixOf_append_cons (apart.not_mem member isBreak) left right
  induction left generalizing skipped with
  | nil =>
      cases Nat.le_zero.mp within
      have noMark : (marks.find? fun mark => mark.1.isPrefixOf ([] : List Char)) = none := by
        refine List.find?_eq_none.mpr fun mark member => ?_
        simpa using (apart mark member).1
      have found := (sameMark []).trans noMark
      rw [List.nil_append] at found
      simp only [List.nil_append, replaceAllAux, found]
  | cons d rest inductionHypothesis =>
      cases skipped with
      | succ skipped =>
          exact inductionHypothesis (Nat.le_of_succ_le_succ within)
      | zero =>
          rw [List.cons_append, replaceAllAux, ← List.cons_append, sameMark, replaceAllAux]
          cases found : marks.find? fun mark => mark.1.isPrefixOf (d :: rest) with
          | none =>
              simp only [inductionHypothesis (Nat.zero_le _), List.cons_append]
          | some mark =>
              have fits := List.find?_some found
              have withinRest : mark.1.length - 1 ≤ rest.length :=
                Nat.sub_le_of_le_add (List.isPrefixOf_iff_prefix.mp fits).length_le
              simp only [inductionHypothesis withinRest, List.append_assoc]

private theorem cutsAt_replaceAll (apart : ApartFrom breaks marks) :
    CutsAt breaks (replaceAll marks) :=
  fun _ _ right isBreak => replaceAllAux_append_cons apart isBreak (Nat.zero_le _) right

/-- What is skipped to the end leaves nothing. -/
theorem replaceAllAux_of_length_le {skipped : Nat} {text : List Char}
    (skips : text.length ≤ skipped) : replaceAllAux marks skipped text = [] := by
  induction text generalizing skipped with
  | nil =>
      rfl
  | cons c rest inductionHypothesis =>
      cases skipped with
      | zero =>
          exact absurd skips (Nat.not_succ_le_zero _)
      | succ skipped =>
          exact inductionHypothesis (Nat.le_of_succ_le_succ skips)

private theorem replaceAll_nil (text : List Char) : replaceAll [] text = text := by
  induction text with
  | nil =>
      rfl
  | cons c rest inductionHypothesis =>
      exact congrArg (c :: ·) inductionHypothesis

/-- A mark that does not occur makes no difference. -/
theorem replaceAll_cons_of_absent {mark text : List Char} (absent : ¬ mark <:+: text)
    (put : List Char) : replaceAll ((mark, put) :: marks) text = replaceAll marks text := by
  suffices continued : ∀ skipped,
      replaceAllAux ((mark, put) :: marks) skipped text = replaceAllAux marks skipped text from
    continued 0
  induction text with
  | nil =>
      intro skipped
      cases skipped <;> rfl
  | cons c rest inductionHypothesis =>
      have later := inductionHypothesis fun occurs => absent (List.infix_cons occurs)
      intro skipped
      cases skipped with
      | succ skipped =>
          exact later skipped
      | zero =>
          have elsewhere : ¬ mark.isPrefixOf (c :: rest) = true :=
            fun fits => absent (List.isPrefixOf_iff_prefix.mp fits).isInfix
          simp only [replaceAllAux, List.find?_cons, elsewhere, later]

/-- A mark is replaced as a whole if it is the first that fits. -/
theorem replaceAll_cons_self {mark : List Char} (isMark : mark ≠ []) (put : List Char) :
    replaceAll ((mark, put) :: marks) mark = put := by
  obtain ⟨c, rest, rfl⟩ := List.exists_cons_of_ne_nil isMark
  have fits : (c :: rest).isPrefixOf (c :: rest) = true :=
    List.isPrefixOf_iff_prefix.mpr List.prefix_rfl
  simp [replaceAll, replaceAllAux, fits, replaceAllAux_of_length_le]

/-! ## In turn -/

/-- To replace one mark in turn is to replace it at once. -/
theorem replaceChars_eq (mark put text : List Char) :
    replaceChars mark put text = replaceAll [(mark, put)] text := by
  suffices continued : ∀ skipped,
      replaceCharsAux mark put skipped text = replaceAllAux [(mark, put)] skipped text from
    continued 0
  induction text with
  | nil =>
      intro skipped
      cases skipped <;> rfl
  | cons c rest inductionHypothesis =>
      intro skipped
      cases skipped with
      | succ skipped =>
          exact inductionHypothesis skipped
      | zero =>
          rw [replaceCharsAux, replaceAllAux, List.find?_cons, List.find?_nil]
          cases mark.isPrefixOf (c :: rest) with
          | true =>
              simp [inductionHypothesis]
          | false =>
              simp [inductionHypothesis]

theorem replaceChars_of_not_mem {c : Char} {text : List Char} (absent : c ∉ text)
    (put : List Char) : replaceChars [c] put text = text := by
  have noMark : ¬ [c] <:+: text := by
    rwa [List.singleton_infix_iff]
  rw [replaceChars_eq, replaceAll_cons_of_absent noMark, replaceAll_nil]

private theorem replaceInTurn_cons (mark put : List Char) (rest : Marks) (text : List Char) :
    replaceInTurn ((mark, put) :: rest) text =
      replaceInTurn rest (replaceAll [(mark, put)] text) := by
  rw [← replaceChars_eq]
  rfl

private theorem apartFrom_cons {mark : List Char × List Char} :
    ApartFrom breaks (mark :: marks) ↔ ApartFrom breaks [mark] ∧ ApartFrom breaks marks := by
  simp [ApartFrom]

private theorem cutsAt_replaceInTurn (apart : ApartFrom breaks marks) :
    CutsAt breaks (replaceInTurn marks) := by
  induction marks with
  | nil =>
      exact fun _ _ _ _ => rfl
  | cons mark rest inductionHypothesis =>
      obtain ⟨apartHere, apartRest⟩ := apartFrom_cons.mp apart
      intro left c right isBreak
      rw [replaceInTurn_cons, replaceInTurn_cons, replaceInTurn_cons,
        cutsAt_replaceAll apartHere left c right isBreak]
      exact inductionHypothesis apartRest _ c _ isBreak

private theorem replaceInTurn_cons_of_absent {mark text : List Char} (absent : ¬ mark <:+: text)
    (put : List Char) : replaceInTurn ((mark, put) :: marks) text = replaceInTurn marks text := by
  rw [replaceInTurn_cons, replaceAll_cons_of_absent absent, replaceAll_nil]

/-- What is put in the place of a mark goes through the marks that are replaced later. -/
theorem replaceInTurn_cons_self {mark : List Char} (isMark : mark ≠ []) (put : List Char) :
    replaceInTurn ((mark, put) :: marks) mark = replaceInTurn marks put := by
  rw [replaceInTurn_cons, replaceAll_cons_self isMark]

/-- Replacing marks leaves the characters that no mark has. -/
theorem count_le_count_replaceAllAux (apart : ApartFrom breaks marks) {c : Char}
    (isBreak : breaks c = true) (skipped : Nat) (text : List Char) :
    (text.drop skipped).count c ≤ (replaceAllAux marks skipped text).count c := by
  induction text generalizing skipped with
  | nil =>
      simp
  | cons d rest inductionHypothesis =>
      cases skipped with
      | succ skipped =>
          exact inductionHypothesis skipped
      | zero =>
          rw [replaceAllAux, List.drop_zero]
          cases found : marks.find? fun mark => mark.1.isPrefixOf (d :: rest) with
          | none =>
              simpa [List.count_cons] using inductionHypothesis 0
          | some mark =>
              have fits := List.find?_some found
              obtain ⟨behind, isWhole⟩ := List.isPrefixOf_iff_prefix.mp fits
              obtain ⟨isMark, _⟩ := apart mark (List.mem_of_find?_eq_some found)
              have noBreak : mark.1.count c = 0 :=
                List.count_eq_zero.mpr (apart.not_mem (List.mem_of_find?_eq_some found) isBreak)
              have isBehind : rest.drop (mark.1.length - 1) = behind := by
                have skipsAll := congrArg (List.drop mark.1.length) isWhole
                rw [List.drop_left, ← Nat.sub_add_cancel (List.length_pos_iff.mpr isMark),
                  List.drop_succ_cons] at skipsAll
                exact skipsAll.symm
              have later := inductionHypothesis (mark.1.length - 1)
              rw [isBehind] at later
              rw [← isWhole, List.count_append, noBreak, List.count_append]
              omega

private theorem count_le_count_replaceInTurn (apart : ApartFrom breaks marks) {c : Char}
    (isBreak : breaks c = true) (text : List Char) :
    text.count c ≤ (replaceInTurn marks text).count c := by
  induction marks generalizing text with
  | nil =>
      exact Nat.le_refl _
  | cons mark rest inductionHypothesis =>
      obtain ⟨apartHere, apartRest⟩ := apartFrom_cons.mp apart
      rw [replaceInTurn_cons]
      exact (count_le_count_replaceAllAux apartHere isBreak 0 text).trans
        (inductionHypothesis apartRest _)

/-! ## In turn and at once -/

/-- No mark occurs in one that is replaced later. -/
def Separate (marks : Marks) : Prop :=
  marks.Pairwise fun earlier later => ¬ earlier.1 <:+: later.1

def Fits (marks : Marks) (piece : List Char) : Prop :=
  (∃ mark ∈ marks, piece = mark.1) ∨ ∀ mark ∈ marks, ¬ mark.1 <:+: piece

variable {mark : List Char × List Char}

private theorem replaceInTurn_of_mem (apart : ApartFrom breaks marks) (separate : Separate marks)
    (member : mark ∈ marks) : replaceInTurn marks mark.1 = replaceAll (settled marks) mark.1 := by
  induction marks with
  | nil =>
      cases member
  | cons first rest inductionHypothesis =>
      obtain ⟨apartHere, apartRest⟩ := List.forall_mem_cons.mp apart
      obtain ⟨separateHere, separateRest⟩ := List.pairwise_cons.mp separate
      rw [settled]
      rcases List.mem_cons.mp member with rfl | later
      · rw [replaceInTurn_cons_self apartHere.1, replaceAll_cons_self apartHere.1]
      · have elsewhere := separateHere mark later
        rw [replaceInTurn_cons_of_absent elsewhere, replaceAll_cons_of_absent elsewhere]
        exact inductionHypothesis apartRest separateRest later

theorem replaceInTurn_of_absent {text : List Char} (absent : ∀ mark ∈ marks, ¬ mark.1 <:+: text) :
    replaceInTurn marks text = text := by
  induction marks with
  | nil =>
      rfl
  | cons first rest inductionHypothesis =>
      obtain ⟨absentHere, absentRest⟩ := List.forall_mem_cons.mp absent
      rw [replaceInTurn_cons_of_absent absentHere, inductionHypothesis absentRest]

private theorem replaceAll_of_absent {text : List Char}
    (absent : ∀ mark ∈ marks, ¬ mark.1 <:+: text) :
    replaceAll marks text = text := by
  induction marks with
  | nil =>
      exact replaceAll_nil text
  | cons first rest inductionHypothesis =>
      obtain ⟨absentHere, absentRest⟩ := List.forall_mem_cons.mp absent
      rw [replaceAll_cons_of_absent absentHere, inductionHypothesis absentRest]

/-- To settle marks changes what is put in their places, and not the marks. -/
theorem forall_mem_settled (property : List Char → Prop) :
    (∀ mark ∈ settled marks, property mark.1) ↔ ∀ mark ∈ marks, property mark.1 := by
  induction marks with
  | nil =>
      rfl
  | cons first rest inductionHypothesis =>
      rw [settled, List.forall_mem_cons, List.forall_mem_cons, inductionHypothesis]

/-- In a text whose pieces are marks or have none in them, replacing the marks in turn is replacing
them all at once by what settles in their places. -/
theorem replaceInTurn_eq (apart : ApartFrom breaks marks) (separate : Separate marks)
    {text : List Char} (fits : ∀ piece ∈ text.splitOnP breaks, Fits marks piece) :
    replaceInTurn marks text = replaceAll (settled marks) text := by
  have apartSettled : ApartFrom breaks (settled marks) :=
    (forall_mem_settled fun mark => mark ≠ [] ∧ ∀ c ∈ mark, breaks c = false).mpr apart
  refine (cutsAt_replaceInTurn apart).congr (cutsAt_replaceAll apartSettled) fun piece member => ?_
  rcases fits piece member with ⟨mark, isMark, rfl⟩ | absent
  · exact replaceInTurn_of_mem apart separate isMark
  · have absentSettled : ∀ mark ∈ settled marks, ¬ mark.1 <:+: piece :=
      (forall_mem_settled fun mark => ¬ mark <:+: piece).mpr absent
    rw [replaceInTurn_of_absent absent, replaceAll_of_absent absentSettled]

/-- What settles in the place of a mark stands in a text that has the mark as a piece. -/
theorem settled_isInfix (apart : ApartFrom breaks marks) (separate : Separate marks)
    {text : List Char} (occurs : ∀ mark ∈ marks, mark.1 ∈ text.splitOnP breaks) :
    ∀ mark ∈ settled marks, mark.2 <:+: replaceInTurn marks text := by
  suffices placed : ∀ mark ∈ settled marks, ∃ other ∈ marks, mark.2 = replaceInTurn marks other.1 by
    intro mark member
    obtain ⟨other, isMark, isPut⟩ := placed mark member
    rw [isPut]
    exact (cutsAt_replaceInTurn apart).piece_isInfix (occurs other isMark)
  clear occurs
  induction marks with
  | nil =>
      exact List.forall_mem_nil _
  | cons first rest inductionHypothesis =>
      obtain ⟨apartHere, apartRest⟩ := List.forall_mem_cons.mp apart
      obtain ⟨separateHere, separateRest⟩ := List.pairwise_cons.mp separate
      refine List.forall_mem_cons.mpr ⟨⟨first, List.mem_cons_self, ?_⟩, fun mark member => ?_⟩
      · exact (replaceInTurn_cons_self apartHere.1 first.2).symm
      · obtain ⟨other, isMark, isPut⟩ := inductionHypothesis apartRest separateRest mark member
        refine ⟨other, List.mem_cons_of_mem _ isMark, ?_⟩
        rw [isPut, replaceInTurn_cons_of_absent (separateHere other isMark)]

/-- Where a mark is replaced, there are no fewer breaks than in what is put there at once. -/
theorem count_replaceAll_le (apart : ApartFrom breaks marks) (separate : Separate marks)
    (member : mark ∈ marks) {c : Char} (isBreak : breaks c = true) :
    (replaceAll marks mark.1).count c ≤ (replaceInTurn marks mark.1).count c := by
  induction marks with
  | nil =>
      cases member
  | cons first rest inductionHypothesis =>
      obtain ⟨apartHere, apartRest⟩ := List.forall_mem_cons.mp apart
      obtain ⟨separateHere, separateRest⟩ := List.pairwise_cons.mp separate
      rcases List.mem_cons.mp member with rfl | later
      · rw [replaceInTurn_cons_self apartHere.1, replaceAll_cons_self apartHere.1]
        exact count_le_count_replaceInTurn apartRest isBreak _
      · have elsewhere := separateHere mark later
        rw [replaceInTurn_cons_of_absent elsewhere, replaceAll_cons_of_absent elsewhere]
        exact inductionHypothesis apartRest separateRest later

/-- Marks that come to the same in turn and at once are settled from the outset. -/
theorem settled_eq_self (apart : ApartFrom breaks marks) (separate : Separate marks)
    (same : ∀ mark ∈ marks, replaceInTurn marks mark.1 = replaceAll marks mark.1) :
    settled marks = marks := by
  induction marks with
  | nil =>
      rfl
  | cons first rest inductionHypothesis =>
      obtain ⟨apartHere, apartRest⟩ := List.forall_mem_cons.mp apart
      obtain ⟨separateHere, separateRest⟩ := List.pairwise_cons.mp separate
      obtain ⟨sameHere, sameRest⟩ := List.forall_mem_cons.mp same
      rw [replaceInTurn_cons_self apartHere.1, replaceAll_cons_self apartHere.1] at sameHere
      have sameLater : ∀ mark ∈ rest, replaceInTurn rest mark.1 = replaceAll rest mark.1 := by
        intro mark later
        have elsewhere := separateHere mark later
        rw [← replaceInTurn_cons_of_absent elsewhere, ← replaceAll_cons_of_absent elsewhere]
        exact sameRest mark later
      rw [settled, sameHere, inductionHypothesis apartRest separateRest sameLater]

/-- In a text that has all the marks as pieces, it makes no difference whether they are replaced in
turn or all at once exactly if they are settled from the outset. -/
theorem replaceInTurn_eq_replaceAll_iff (apart : ApartFrom breaks marks)
    (separate : Separate marks) {text : List Char}
    (fits : ∀ piece ∈ text.splitOnP breaks, Fits marks piece)
    (occurs : ∀ mark ∈ marks, mark.1 ∈ text.splitOnP breaks) :
    replaceInTurn marks text = replaceAll marks text ↔ settled marks = marks := by
  constructor
  · intro same
    have noFewer : ∀ piece ∈ text.splitOnP breaks, ∀ c, breaks c = true →
        (replaceAll marks piece).count c ≤ (replaceInTurn marks piece).count c := by
      intro piece member c isBreak
      rcases fits piece member with ⟨mark, isMark, rfl⟩ | absent
      · exact count_replaceAll_le apart separate isMark isBreak
      · rw [replaceInTurn_of_absent absent, replaceAll_of_absent absent]
    have samePieces :=
      ((cutsAt_replaceInTurn apart).eq_iff (cutsAt_replaceAll apart) noFewer).mp same
    exact settled_eq_self apart separate fun mark isMark => samePieces _ (occurs mark isMark)
  · intro isSettled
    rw [replaceInTurn_eq apart separate fits, isSettled]

end RecordSchema.Text
