import RecordSchema.Rule.Token

/-!
# Reading tokens

A token that is written as a name, a colon and parameters with commas between them is read as just
that, exactly if no parameter has a comma in it and there is more to write than one empty text.
-/

namespace RecordSchema

namespace Text

variable {mark : Char}

private theorem cutChars_append {before : List Char} (absent : mark ∉ before) (after : List Char) :
    cutChars mark (before ++ mark :: after) = (before, after) := by
  induction before with
  | nil =>
      simp [cutChars]
  | cons first rest inductionHypothesis =>
      obtain ⟨differs, restAbsent⟩ : mark ≠ first ∧ mark ∉ rest := by
        simpa using absent
      simp [cutChars, Ne.symm differs, inductionHypothesis restAbsent]

private theorem splitChars_of_not_mem {piece : List Char} (absent : mark ∉ piece) :
    splitChars mark piece = [piece] := by
  induction piece with
  | nil =>
      rfl
  | cons first rest inductionHypothesis =>
      obtain ⟨differs, restAbsent⟩ : mark ≠ first ∧ mark ∉ rest := by
        simpa using absent
      simp [splitChars, Ne.symm differs, inductionHypothesis restAbsent]

private theorem splitChars_append {piece : List Char} (absent : mark ∉ piece) (rest : List Char) :
    splitChars mark (piece ++ mark :: rest) = piece :: splitChars mark rest := by
  induction piece with
  | nil =>
      simp [splitChars]
  | cons first others inductionHypothesis =>
      obtain ⟨differs, othersAbsent⟩ : mark ≠ first ∧ mark ∉ others := by
        simpa using absent
      simp [splitChars, Ne.symm differs, inductionHypothesis othersAbsent]

/-- Pieces without the mark are found again after they have been joined with it. -/
theorem splitChars_joinChars {pieces : List (List Char)} (nonempty : pieces ≠ [])
    (absent : ∀ piece ∈ pieces, mark ∉ piece) :
    splitChars mark (joinChars [mark] pieces) = pieces := by
  induction pieces with
  | nil =>
      exact absurd rfl nonempty
  | cons piece rest inductionHypothesis =>
      obtain ⟨pieceAbsent, restAbsent⟩ := List.forall_mem_cons.mp absent
      cases rest with
      | nil =>
          exact splitChars_of_not_mem pieceAbsent
      | cons next others =>
          have remaining := inductionHypothesis (List.cons_ne_nil _ _) restAbsent
          simp only [joinChars, List.append_assoc, List.singleton_append] at remaining ⊢
          rw [splitChars_append pieceAbsent, remaining]

private theorem splitChars_ne_nil (text : List Char) : splitChars mark text ≠ [] := by
  cases text with
  | nil =>
      exact List.cons_ne_nil _ _
  | cons first rest =>
      unfold splitChars
      split
      · exact List.cons_ne_nil _ _
      · split
        · exact List.cons_ne_nil _ _
        · exact List.cons_ne_nil _ _

private theorem not_mem_of_mem_splitChars {text piece : List Char}
    (member : piece ∈ splitChars mark text) :
    mark ∉ piece := by
  induction text generalizing piece with
  | nil =>
      cases List.mem_singleton.mp member
      exact List.not_mem_nil
  | cons first rest inductionHypothesis =>
      unfold splitChars at member
      split at member
      · rcases List.mem_cons.mp member with rfl | later
        · exact List.not_mem_nil
        · exact inductionHypothesis later
      · next differs =>
          split at member
          · next noPieces =>
              exact absurd noPieces (splitChars_ne_nil rest)
          · next start others pieces =>
              rw [pieces] at inductionHypothesis
              rcases List.mem_cons.mp member with rfl | later
              · have absent := inductionHypothesis List.mem_cons_self
                simpa [Ne.symm differs] using absent
              · exact inductionHypothesis (List.mem_cons_of_mem _ later)

private theorem splitChars_joinChars_iff {pieces : List (List Char)} (nonempty : pieces ≠ []) :
    splitChars mark (joinChars [mark] pieces) = pieces ↔ ∀ piece ∈ pieces, mark ∉ piece := by
  constructor
  · intro found piece member
    rw [← found] at member
    exact not_mem_of_mem_splitChars member
  · exact splitChars_joinChars nonempty

private theorem joinChars_eq_nil_iff {pieces : List (List Char)} :
    joinChars [mark] pieces = [] ↔ pieces = [] ∨ pieces = [[]] := by
  cases pieces with
  | nil =>
      simp [joinChars]
  | cons piece rest =>
      cases rest with
      | nil =>
          simp [joinChars]
      | cons next others =>
          simp [joinChars]

end Text

namespace Rule

def Invocation.token (rule : Invocation) : String :=
  rule.name ++ ":" ++ Text.join "," rule.parameters

/-- Parameters that are found again in a token: none has a comma in it, and they are not just one
empty text. -/
structure Separable (parameters : List String) : Prop where
  noComma : ∀ parameter ∈ parameters, ',' ∉ parameter.toList
  notBlank : parameters ≠ [""]

/-- Names that can be the parameters of a token: there are some, and none has a comma in it or is
the empty text. -/
structure Listable (names : List String) : Prop where
  nonempty : names ≠ []
  noComma : ∀ name ∈ names, ',' ∉ name.toList
  noneEmpty : ∀ name ∈ names, name ≠ ""

theorem Listable.separable {names : List String} (listable : Listable names) :
    Separable names where
  noComma := listable.noComma
  notBlank := by
    rintro rfl
    exact listable.noneEmpty "" List.mem_cons_self rfl

/-- A rule is read from its token under its own name, and with its own parameters exactly if they
are separable. -/
theorem parse_token_iff {name : String} (noColon : ':' ∉ name.toList)
    (trimmed : Text.trim name.toList = name.toList) (notRegex : name ≠ "regex")
    (parameters : List String) :
    (parse (Invocation.token ⟨name, parameters⟩)).name = name ∧
      (parse (Invocation.token ⟨name, parameters⟩) = ⟨name, parameters⟩ ↔
        Separable parameters) := by
  have characters : (Invocation.token ⟨name, parameters⟩).toList =
      name.toList ++ ':' :: Text.joinChars [','] (parameters.map String.toList) := by
    simp [Invocation.token, Text.join]
  have cut := Text.cutChars_append noColon (Text.joinChars [','] (parameters.map String.toList))
  rw [← characters] at cut
  by_cases nothing : Text.joinChars [','] (parameters.map String.toList) = []
  · have read : parse (Invocation.token ⟨name, parameters⟩) = ⟨name, []⟩ := by
      simp [parse, cut, nothing, trimmed]
    rw [read]
    refine ⟨rfl, ?_⟩
    rcases Text.joinChars_eq_nil_iff.mp nothing with none | blank
    · cases List.map_eq_nil_iff.mp none
      exact iff_of_true rfl ⟨List.forall_mem_nil _, nofun⟩
    · obtain ⟨parameter, rfl, isBlank⟩ := List.map_eq_singleton_iff.mp blank
      cases String.toList_eq_nil_iff.mp isBlank
      exact iff_of_false nofun fun separable => separable.notBlank rfl
  · have read : parse (Invocation.token ⟨name, parameters⟩) =
        ⟨name, (Text.splitChars ',' (Text.joinChars [','] (parameters.map String.toList))).map
          String.ofList⟩ := by
      simp [parse, cut, nothing, trimmed, notRegex]
    rw [read]
    refine ⟨rfl, ?_⟩
    have someParameters : parameters.map String.toList ≠ [] := fun none =>
      nothing (Text.joinChars_eq_nil_iff.mpr (Or.inl none))
    have notBlank : parameters ≠ [""] := by
      rintro rfl
      exact nothing rfl
    rw [Invocation.mk.injEq, and_iff_right rfl]
    constructor
    · intro same
      refine ⟨?_, notBlank⟩
      have pieces := congrArg (List.map String.toList) same
      simp only [List.map_map, Function.comp_def, String.toList_ofList, List.map_id'] at pieces
      simpa using (Text.splitChars_joinChars_iff someParameters).mp pieces
    · intro separable
      have pieces := (Text.splitChars_joinChars_iff someParameters).mpr
        (by simpa using separable.noComma)
      rw [pieces]
      simp [Function.comp_def]

/-- What is read from a token that lists names behind a colon. -/
theorem parse_join {name : String} (noColon : ':' ∉ name.toList)
    (trimmed : Text.trim name.toList = name.toList) (notRegex : name ≠ "regex")
    {parameters : List String} (listable : Listable parameters) :
    parse (name ++ ":" ++ Text.join "," parameters) = ⟨name, parameters⟩ :=
  (parse_token_iff noColon trimmed notRegex parameters).2.mpr listable.separable

end Rule
end RecordSchema
