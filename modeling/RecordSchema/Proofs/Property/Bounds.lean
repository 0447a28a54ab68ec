import RecordSchema.Proofs.Property.Acceptance
import RecordSchema.Proofs.Property.Edit

/-!
# Bounds of numbers

Bounds are for properties whose primary type has numbers: such a property accepts no integer that is
out of its bounds, whatever the other members of its type are and in whatever order.  A property
that merely has numbers among the members of its type ignores its bounds.
-/

namespace RecordSchema

namespace Facets

variable {facets : Facets} {context : Value} {number : Int}

/-! ## Integers within bounds -/

private theorem withinBound_less_int (number least : Int) :
    withinBound .less (.int number) (.int least) = .ok (decide (least ≤ number)) := by
  have related : Value.relate? .less (.int number) (.int least) =
      some (compare number least == .lt) := by
    simp [Value.relate?, Value.ordered?, Value.numeral?, Numeral.compare?, Relation.allows]
  simp only [withinBound, related]
  by_cases below : number < least
  · simp [Int.compare_eq_lt.mpr below, below]
  · have notLess : compare number least ≠ .lt := fun less => below (Int.compare_eq_lt.mp less)
    simp [notLess, Int.not_lt.mp below]

private theorem withinBound_greater_int (number most : Int) :
    withinBound .greater (.int number) (.int most) = .ok (decide (number ≤ most)) := by
  have related : Value.relate? .greater (.int number) (.int most) =
      some (compare number most == .gt) := by
    simp [Value.relate?, Value.ordered?, Value.numeral?, Numeral.compare?, Relation.allows]
  simp only [withinBound, related]
  by_cases above : most < number
  · simp [Int.compare_eq_gt.mpr above, above]
  · have notGreater : compare number most ≠ .gt := fun greater =>
      above (Int.compare_eq_gt.mp greater)
    simp [notGreater, Int.not_lt.mp above]

private theorem within_of_withinBounds (within : facets.withinBounds (.int number) = .ok true) :
    (∀ least, facets.minimum = .int least → least ≤ number) ∧
      ∀ most, facets.maximum = .int most → number ≤ most := by
  obtain ⟨isAbove, isBelow⟩ := withinBounds_iff.mp within
  constructor
  · intro least isMinimum
    rw [isMinimum, withinBound_less_int] at isAbove
    simpa using isAbove
  · intro most isMaximum
    rw [isMaximum, withinBound_greater_int] at isBelow
    simpa using isBelow

/-- A property whose primary type has numbers accepts only integers that are within its bounds. -/
theorem accepted_within_bounds
    (numeric : facets.declared.primary = "number" ∨ facets.declared.primary = "integer")
    (accepted : facets.accepts (.int number) context = .ok true) :
    (∀ least, facets.minimum = .int least → least ≤ number) ∧
      ∀ most, facets.maximum = .int most → number ≤ most := by
  have hasBounds : facets.hasBounds = true := by
    simpa [Facets.hasBounds] using numeric
  obtain ⟨_, admits⟩ := accepts_iff.mp accepted
  cases admits with
  | present _ fits =>
      have within := fits.bounds
      rw [isInBounds, hasBounds] at within
      exact within_of_withinBounds within

/-- An age between two bounds, which may be a text or missing as well. -/
def boundedAge : Facets where
  name := .text "age"
  declared := .union ["null", "integer", "string"]
  minimum := .int 18
  maximum := .int 65

theorem accepted_within_bounds_age :
    boundedAge.declared.primary = "integer" ∧
      boundedAge.accepts (.int 30) .null = .ok true ∧ (18 : Int) ≤ 30 ∧ (30 : Int) ≤ 65 := by
  have accepted : boundedAge.accepts (.int 30) .null = .ok true := rfl
  obtain ⟨above, below⟩ := accepted_within_bounds (.inr rfl) accepted
  exact ⟨rfl, accepted, above 18 rfl, below 65 rfl⟩

/-! ## Bounds that are ignored -/

private theorem isInBounds_of_numberless (numberless : facets.hasBounds = false) (value : Value) :
    facets.isInBounds value = .ok true := by
  simp [isInBounds, numberless]

/-- A property whose primary type has no numbers accepts what it would accept under any other
bounds. -/
theorem accepts_withBounds (numberless : facets.hasBounds = false)
    (minimum maximum value context : Value) :
    ({ facets with minimum := minimum, maximum := maximum } : Facets).accepts value context =
      facets.accepts value context := by
  let rebounded : Facets := { facets with minimum := minimum, maximum := maximum }
  have ignored : rebounded.isInBounds value = facets.isInBounds value := by
    rw [isInBounds_of_numberless numberless, @isInBounds_of_numberless rebounded numberless]
  have sameVerdict : rebounded.verdict value = facets.verdict value :=
    verdict_congr (fun _ => rfl) rfl fun _ => acceptsPresent_congr rfl rfl ignored rfl
  change rebounded.accepts value context = _
  rw [accepts_eq, accepts_eq, sameVerdict]

end Facets

namespace Property

/-- An age of 18 at least, or a text.  Texts come first, so the bound is ignored. -/
def textOrAge : Property :=
  (Edit.apply (leaf { name := .text "age", declared := .union ["string", "integer"] })
    (.facets (.setMinimum (.int 18)))).state

theorem accepted_below_minimum :
    Reachable Fresh textOrAge ∧
      "integer" ∈ textOrAge.facets.declared.members ∧
      textOrAge.facets.minimum = .int 18 ∧
      textOrAge.facets.accepts (.int 3) .null = .ok true := by
  have declared : Fresh (leaf { name := .text "age", declared := .union ["string", "integer"] }) :=
    @Fresh.declared (.text "age") (.list [.text "string", .text "integer"]) .null _ rfl
  exact ⟨.edit _ (.origin declared) (List.forall_mem_nil _), by decide, rfl, rfl⟩

end Property
end RecordSchema
