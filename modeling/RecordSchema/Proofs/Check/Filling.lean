import RecordSchema.Proofs.Check.Wording
import RecordSchema.Proofs.Text.Replacement
import Mathlib.Data.List.Basic

/-!
# Filling in templates

Marks are filled in one after the other.  Where the marks of a template stand between spaces and
full stops, each once and no longer one after a shorter one, the result is the template with all
marks filled in at once, by texts that have the later marks filled into them.  So a text that holds
a mark that is filled in later need not stay as it is.
-/

namespace RecordSchema.Message

/-! ## In turn and at once -/

/-- The marks of names, with the texts that they stand for. -/
def marksOf (texts : Fields String) : Text.Marks :=
  texts.map fun field => (':' :: field.1.toList, field.2.toList)

def fillInTurn (texts : Fields String) (template : String) : String :=
  String.ofList (Text.replaceInTurn (marksOf texts) template.toList)

def fillAtOnce (texts : Fields String) (template : String) : String :=
  String.ofList (Text.replaceAll (marksOf texts) template.toList)

/-- What texts come to when the marks of the later ones are filled into them. -/
def settled : Fields String → Fields String
  | [] => []
  | (name, text) :: rest => (name, fillInTurn rest text) :: settled rest

def asValues (texts : Fields String) : Fields Value :=
  texts.map fun field => (field.1, .text field.2)

variable {texts : Fields String} {template : String}

@[simp]
theorem names_asValues (texts : Fields String) : (asValues texts).names = texts.names := by
  simp [asValues]

private theorem marksOf_settled (texts : Fields String) :
    marksOf (settled texts) = Text.settled (marksOf texts) := by
  induction texts with
  | nil =>
      rfl
  | cons field rest inductionHypothesis =>
      change (_, (fillInTurn rest field.2).toList) :: marksOf (settled rest) = _
      rw [inductionHypothesis, fillInTurn, String.toList_ofList]
      rfl

private theorem marksOf_injective {others : Fields String} (same : marksOf texts = marksOf others) :
    texts = others := by
  refine List.map_injective_iff.mpr ?_ same
  rintro ⟨name, text⟩ ⟨otherName, otherText⟩ sameMark
  injection sameMark with sameName sameText
  injection sameName with _ sameName
  exact Prod.ext (String.toList_injective sameName) (String.toList_injective sameText)

/-- Texts without colons are settled from the outset. -/
theorem settled_eq_self (plain : ∀ field ∈ texts, ':' ∉ field.2.toList) :
    settled texts = texts := by
  induction texts with
  | nil =>
      rfl
  | cons field rest inductionHypothesis =>
      obtain ⟨plainHere, plainRest⟩ := List.forall_mem_cons.mp plain
      have absent : ∀ mark ∈ marksOf rest, ¬ mark.1 <:+: field.2.toList := by
        intro mark member occurs
        obtain ⟨other, _, rfl⟩ := List.mem_map.mp member
        exact plainHere (occurs.subset List.mem_cons_self)
      rw [settled, fillInTurn, Text.replaceInTurn_of_absent absent, inductionHypothesis plainRest,
        String.ofList_toList]

private theorem fillAll_eq {replacements : Fields Value}
    (found : ∀ field ∈ texts, replacements.get? field.1 = some (.text field.2))
    (template : String) :
    fillAll replacements texts.names (.text template) =
      .ok (.text (fillInTurn texts template)) := by
  induction texts generalizing template with
  | nil =>
      simp [fillAll, fillInTurn, Text.replaceInTurn, marksOf]
  | cons field rest inductionHypothesis =>
      obtain ⟨foundHere, foundRest⟩ := List.forall_mem_cons.mp found
      have isMark : (":" ++ field.1).toList = ':' :: field.1.toList := by
        simp
      rw [Fields.names_cons, fillAll, foundHere, Option.getD_some, fillOne, Outcome.ok_bind,
        inductionHypothesis foundRest, Text.replace, isMark, fillInTurn, String.toList_ofList]
      rfl

/-! ## Regular templates -/

/-- The characters that marks stand between. -/
def isGap (c : Char) : Bool :=
  c == ' ' || c == '.'

def pieces (template : String) : List (List Char) :=
  template.toList.splitOnP isGap

def markName? : List Char → Option String
  | ':' :: name => some (String.ofList name)
  | _ => none

/-- The names of the marks of a template, in order. -/
def marksIn (template : String) : List String :=
  (pieces template).filterMap markName?

/-- A template in which colons stand at the heads of pieces alone, and the marks are those of some
names, each once and no longer one after a shorter one. -/
structure Regular (template : String) (names : List String) : Prop where
  heads : ∀ piece ∈ pieces template, ':' ∉ piece.tail
  marks : marksIn template = names
  distinct : names.Nodup
  ordered : names.Pairwise fun earlier later => later.length ≤ earlier.length

private theorem mem_marksIn {name : String} :
    name ∈ marksIn template ↔ ':' :: name.toList ∈ pieces template := by
  rw [marksIn, List.mem_filterMap]
  constructor
  · rintro ⟨piece, member, isMark⟩
    unfold markName? at isMark
    split at isMark
    · cases isMark
      rw [String.toList_ofList]
      exact member
    · cases isMark
  · intro member
    exact ⟨_, member, by simp [markName?]⟩

namespace Regular

variable (regular : Regular template texts.names)

include regular

theorem occurs : ∀ mark ∈ marksOf texts, mark.1 ∈ template.toList.splitOnP isGap := by
  refine List.forall_mem_map.mpr fun field member => mem_marksIn.mp ?_
  rw [regular.marks]
  exact List.mem_map_of_mem member

private theorem apartFrom : Text.ApartFrom isGap (marksOf texts) := by
  intro mark member
  refine ⟨?_, fun c => Text.breaks_eq_false_of_mem (regular.occurs mark member)⟩
  obtain ⟨field, _, rfl⟩ := List.mem_map.mp member
  exact List.cons_ne_nil _ _

/-- A mark does not occur in another one that is no longer. -/
theorem separate : Text.Separate (marksOf texts) := by
  have apart := List.pairwise_map.mp (regular.distinct.and regular.ordered)
  refine List.pairwise_map.mpr (apart.imp ?_)
  rintro ⟨name, text⟩ ⟨other, otherText⟩ ⟨differs, noLonger⟩ occurs
  have sameMark := occurs.eq_of_length_le (Nat.succ_le_succ noLonger)
  injection sameMark with _ sameName
  exact differs (String.toList_injective sameName)

theorem fits : ∀ piece ∈ template.toList.splitOnP isGap, Text.Fits (marksOf texts) piece := by
  intro piece member
  by_cases isMark : ∃ name, piece = ':' :: name
  · obtain ⟨name, rfl⟩ := isMark
    have known : String.ofList name ∈ texts.names := by
      rw [← regular.marks, mem_marksIn, String.toList_ofList]
      exact member
    obtain ⟨field, isField, named⟩ := List.mem_map.mp known
    refine Or.inl ⟨_, List.mem_map_of_mem isField, ?_⟩
    rw [named, String.toList_ofList]
  · refine Or.inr (List.forall_mem_map.mpr fun field _ occurs => ?_)
    have colon : ':' ∈ piece := occurs.subset List.mem_cons_self
    cases piece with
    | nil =>
        cases colon
    | cons c rest =>
        rcases List.mem_cons.mp colon with rfl | later
        · exact isMark ⟨rest, rfl⟩
        · exact regular.heads _ member later

/-- The marks of a regular template are filled in from the first to the last. -/
theorem fill_eq :
    fill (.text template) (asValues texts) = .ok (.text (fillInTurn texts template)) := by
  have inOrder : fillingOrder texts.names = texts.names :=
    List.mergeSort_of_pairwise (regular.ordered.imp fun noLonger => decide_eq_true noLonger)
  have distinct : Fields.Distinct (asValues texts) := by
    rw [Fields.distinct_iff_nodup, names_asValues]
    exact regular.distinct
  rw [fill, names_asValues, inOrder]
  refine fillAll_eq (fun field member => ?_) template
  exact Fields.get?_of_mem distinct (List.mem_map_of_mem member)

end Regular

/-- A text is what texts filled into a template come to.  The template has a mark for each of them;
the result is the template with all marks filled in at once by the settled texts, which are found in
it as they are; and it is the template filled in at once by the texts themselves exactly if these
are settled from the outset. -/
structure FilledIn (texts : Fields String) (template text : String) : Prop where
  marks : marksIn template = texts.names
  inTurn : text = fillAtOnce (settled texts) template
  verbatim : ∀ field ∈ settled texts, field.2.toList <:+: text.toList
  atOnce_iff : text = fillAtOnce texts template ↔ settled texts = texts

/-- What is filled into a regular template is filled in at once, by texts that have settled. -/
theorem Regular.filledIn (regular : Regular template texts.names) :
    FilledIn texts template (fillInTurn texts template) where
  marks := regular.marks
  inTurn := by
    rw [fillAtOnce, marksOf_settled, fillInTurn,
      Text.replaceInTurn_eq regular.apartFrom regular.separate regular.fits]
  verbatim := by
    have stands := Text.settled_isInfix regular.apartFrom regular.separate regular.occurs
    rw [← marksOf_settled] at stands
    rw [fillInTurn, String.toList_ofList]
    exact fun field member => stands _ (List.mem_map_of_mem member)
  atOnce_iff := by
    have sameMarks : Text.settled (marksOf texts) = marksOf texts ↔ settled texts = texts := by
      rw [← marksOf_settled]
      exact ⟨marksOf_injective, congrArg marksOf⟩
    rw [fillAtOnce, fillInTurn, String.ofList_inj, ← sameMarks]
    exact Text.replaceInTurn_eq_replaceAll_iff regular.apartFrom regular.separate regular.fits
      regular.occurs

/-- Texts without colons are filled in at once, and found as they are. -/
theorem FilledIn.of_plain {text : String} (filled : FilledIn texts template text)
    (plain : ∀ field ∈ texts, ':' ∉ field.2.toList) :
    text = fillAtOnce texts template ∧ ∀ field ∈ texts, field.2.toList <:+: text.toList := by
  have isSettled := settled_eq_self plain
  exact ⟨filled.atOnce_iff.mpr isSettled, isSettled ▸ filled.verbatim⟩

/-! ## Filling in values -/

private theorem isText_of_fillAll {replacements : Fields Value} {names : List String}
    {filled : Value}
    {template : String} (isFilled : fillAll replacements names (.text template) = .ok filled) :
    ∀ name ∈ names, ((replacements.get? name).getD .null).IsText := by
  induction names generalizing template with
  | nil =>
      exact List.forall_mem_nil _
  | cons name rest inductionHypothesis =>
      obtain ⟨first, isFirst, afterFirst⟩ := Outcome.bind_eq_ok_iff.mp isFilled
      cases isPut : (replacements.get? name).getD .null with
      | text put =>
          rw [isPut] at isFirst
          cases isFirst
          exact List.forall_mem_cons.mpr ⟨isPut ▸ ⟨put, rfl⟩, inductionHypothesis afterFirst⟩
      | _ =>
          rw [isPut] at isFirst
          cases isFirst

private theorem exists_asValues {fields : Fields Value} (texts : fields.AreTexts) :
    ∃ texts : Fields String, fields = asValues texts := by
  induction fields with
  | nil =>
      exact ⟨[], rfl⟩
  | cons field rest inductionHypothesis =>
      obtain ⟨name, value⟩ := field
      obtain ⟨⟨text, rfl⟩, restTexts⟩ := Fields.areTexts_cons.mp texts
      obtain ⟨others, rfl⟩ := inductionHypothesis restTexts
      exact ⟨(name, text) :: others, rfl⟩

/-- What a regular template is filled with are texts, and the result is the template filled in. -/
theorem Regular.of_fill {template : String} {replacements : Fields Value}
    (regular : Regular template replacements.names) {filled : Value}
    (isFilled : fill (.text template) replacements = .ok filled) :
    ∃ texts text, replacements = asValues texts ∧ filled = .text text ∧
      FilledIn texts template text := by
  have distinct : replacements.Distinct := Fields.distinct_iff_nodup.mpr regular.distinct
  have areTexts : replacements.AreTexts := by
    intro field member
    have named : field.1 ∈ fillingOrder replacements.names :=
      List.mem_mergeSort.mpr (List.mem_map_of_mem member)
    have isText := isText_of_fillAll isFilled field.1 named
    rwa [Fields.get?_of_mem distinct member] at isText
  obtain ⟨texts, rfl⟩ := exists_asValues areTexts
  rw [names_asValues] at regular
  rw [regular.fill_eq] at isFilled
  cases isFilled
  exact ⟨texts, _, rfl, rfl, regular.filledIn⟩

end RecordSchema.Message
