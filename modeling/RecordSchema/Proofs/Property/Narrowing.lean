import RecordSchema.Proofs.Property.Acceptance
import RecordSchema.Proofs.Property.History

/-!
# Constraints only narrow

A property answers at the first question that decides, and a question near the front may say yes.
Still no edit that adds a constraint makes a property accept a value that it turned down before:
what such an edit leaves behind asks at least the same questions, and is no more lenient with values
that are absent.
-/

namespace RecordSchema

namespace Facets

variable {facets after : Facets} {value context : Value} {token : String}

/-- Facets that ask for at least as much of a value. -/
structure Narrower (facets after : Facets) : Prop where
  declared : after.declared = facets.declared
  nullable : after.isNullable = true → facets.isNullable = true
  required : facets.isRequired = true → after.isRequired = true
  mail : "email" ∈ facets.rules → "email" ∈ after.rules
  minimum : facets.minimum = .null ∨ after.minimum = facets.minimum
  maximum : facets.maximum = .null ∨ after.maximum = facets.maximum
  pattern : facets.pattern = none ∨ after.pattern = facets.pattern
  conditionals : facets.conditionals <+: after.conditionals

/-! ## Fewer values are accepted -/

theorem Narrower.matchesPattern (narrower : facets.Narrower after)
    (matched : after.matchesPattern value = .ok true) : facets.matchesPattern value = .ok true := by
  rcases narrower.pattern with unset | same
  · simp only [Facets.matchesPattern, unset]
  · simpa only [Facets.matchesPattern, same] using matched

theorem Narrower.withinBounds (narrower : facets.Narrower after)
    (within : after.withinBounds value = .ok true) : facets.withinBounds value = .ok true := by
  rw [withinBounds_iff] at within ⊢
  constructor
  · rcases narrower.minimum with unset | same
    · rw [unset]
      rfl
    · exact same ▸ within.1
  · rcases narrower.maximum with unset | same
    · rw [unset]
      rfl
    · exact same ▸ within.2

theorem Narrower.isInBounds (narrower : facets.Narrower after)
    (within : after.isInBounds value = .ok true) : facets.isInBounds value = .ok true := by
  have sameKind : after.hasBounds = facets.hasBounds := by
    rw [hasBounds, hasBounds, narrower.declared]
  rw [Facets.isInBounds, sameKind] at within
  rw [Facets.isInBounds]
  split
  · next asked =>
      rw [if_pos asked] at within
      exact narrower.withinBounds within
  · rfl

theorem Narrower.isAddressed (narrower : facets.Narrower after)
    (addressed : after.isAddressed value = true) : facets.isAddressed value = true := by
  cases value with
  | text text =>
      by_cases asked : "email" ∈ facets.rules
      · have isMail : Format.isEmail text = true := by
          simpa [Facets.isAddressed, narrower.mail asked] using addressed
        simp [Facets.isAddressed, isMail]
      · simp [Facets.isAddressed, asked]
  | _ =>
      rfl

theorem Narrower.fits (narrower : facets.Narrower after) (fits : after.Fits value) :
    facets.Fits value where
  type := narrower.declared ▸ fits.type
  pattern := narrower.matchesPattern fits.pattern
  bounds := narrower.isInBounds fits.bounds
  mail := narrower.isAddressed fits.mail

theorem Narrower.optional (narrower : facets.Narrower after) (optional : after.isRequired = false) :
    facets.isRequired = false := by
  cases demanded : facets.isRequired with
  | false => rfl
  | true => cases (narrower.required demanded).symm.trans optional

theorem Narrower.admits (narrower : facets.Narrower after) (admits : after.Admits value) :
    facets.Admits value := by
  cases admits with
  | absent mayBeAbsent => exact .absent (mayBeAbsent.imp narrower.nullable narrower.optional)
  | empty optional => exact .empty (narrower.optional optional)
  | present present fits => exact .present present (narrower.fits fits)

/-- What narrower facets accept, the wider ones accept as well. -/
theorem Narrower.accepts (narrower : facets.Narrower after)
    (accepted : after.accepts value context = .ok true) :
    facets.accepts value context = .ok true := by
  rw [accepts_iff] at accepted ⊢
  obtain ⟨nothingLacks, admits⟩ := accepted
  refine ⟨?_, narrower.admits admits⟩
  obtain ⟨added, isWhole⟩ := narrower.conditionals
  rw [← isWhole, lacksForSiblings_append] at nothingLacks
  obtain ⟨lacks, walked, rest⟩ := Outcome.bind_eq_ok_iff.mp nothingLacks
  cases lacks with
  | false => exact walked
  | true => cases rest

/-! ## Edits that add a constraint -/

theorem Narrower.refl (facets : Facets) : facets.Narrower facets where
  declared := rfl
  nullable := id
  required := id
  mail := id
  minimum := .inr rfl
  maximum := .inr rfl
  pattern := .inr rfl
  conditionals := List.prefix_refl _

theorem Narrower.addConditional (facets : Facets) (rule : ConditionalRule) :
    facets.Narrower (facets.addConditional rule) :=
  { Narrower.refl facets with conditionals := List.prefix_append _ _ }

theorem Narrower.addToken (narrower : facets.Narrower after) (differs : token ≠ "nullable") :
    facets.Narrower (after.addToken token) where
  declared := narrower.declared
  nullable := by
    intro nullable
    rw [isNullable, List.contains_iff_mem, mem_addToken_iff, or_iff_right differs.symm] at nullable
    exact narrower.nullable (List.contains_iff_mem.mpr nullable)
  required := by
    intro required
    simp [Facets.addToken, narrower.required required]
  mail := by
    intro asked
    exact mem_addToken_iff.mpr (.inr (narrower.mail asked))
  minimum := narrower.minimum
  maximum := narrower.maximum
  pattern := narrower.pattern
  conditionals := narrower.conditionals

theorem Narrower.atomic {outcome : Except Error Facets}
    (narrower : ∀ changed, outcome = .ok changed → facets.Narrower changed) :
    facets.Narrower (Change.atomic facets outcome).state :=
  Change.state_atomic (.refl facets) narrower

private theorem colon_mem_token (rule : Rule.Invocation) : ':' ∈ rule.token.toList := by
  simp [Rule.Invocation.token]

private theorem colon_mem_fieldValueToken {rule : String} {field value : Value}
    (built : fieldValueToken rule field value = .ok token) : ':' ∈ token.toList := by
  obtain ⟨rendered, _, guarded⟩ := Outcome.bind_eq_ok_iff.mp built
  split at guarded
  · cases guarded
  · split at guarded
    · cases guarded
    · cases guarded
      simp

/-- The token of a rule about other fields is none of the tokens that are plain words. -/
theorem ne_nullable_of_colon_mem (colon : ':' ∈ token.toList) : token ≠ "nullable" := by
  rintro rfl
  exact absurd colon (by decide)

theorem Narrower.addSiblingRule (facets : Facets) (rule : List Value → ConditionalRule)
    (tokenName : String) (siblings : Value) :
    facets.Narrower (addSiblingRule rule tokenName facets siblings).state := by
  rcases addSiblingRule_cases rule tokenName facets siblings with
    ⟨error, _, ended⟩ | ⟨names, error, _, _, ended⟩ | ⟨names, _, ended⟩
  · rw [ended]
    exact .refl facets
  · rw [ended]
    exact .addConditional facets (rule names)
  · rw [ended]
    exact (Narrower.addConditional facets _).addToken
      (ne_nullable_of_colon_mem (colon_mem_token _))

theorem Narrower.addFieldValueRule {tokenName ruleName : String} {field value : Value}
    (added : facets.addFieldValueRule tokenName ruleName field value = .ok after) :
    facets.Narrower after := by
  obtain ⟨token, built, isAdded⟩ := Outcome.bind_eq_ok_iff.mp added
  cases isAdded
  exact (Narrower.addConditional facets _).addToken
    (ne_nullable_of_colon_mem (colon_mem_fieldValueToken built))

namespace Edit

/-- An edit that adds a constraint: a rule other than `nullable`, or a bound or a pattern where
there is none. -/
def Constrains (facets : Facets) : Facets.Edit → Prop
  | .setMinimum _ => facets.minimum = .null
  | .setMaximum _ => facets.maximum = .null
  | .setPattern _ => facets.pattern = none
  | .setRequired required => required = true
  | .addRule rule => rule ≠ .text "nullable"
  | .addWhen _ _ _ | .addWhenMatches _ _ _ | .addWhenCompares _ _ _ _ => True
  | .addRequiredWith _ | .addRequiredWithout _ | .addRequiredIf _ _ | .addProhibitedIf _ _ => True
  | _ => False

/-- An edit that adds a constraint leaves narrower facets behind, whether it has failed or not. -/
theorem Constrains.narrower {edit : Facets.Edit} (constrains : edit.Constrains facets) :
    facets.Narrower (edit.apply facets).state := by
  cases edit with
  | setMinimum bound => exact { Narrower.refl facets with minimum := .inl constrains }
  | setMaximum bound => exact { Narrower.refl facets with maximum := .inl constrains }
  | setPattern pattern =>
      apply Narrower.atomic
      intro changed set
      obtain ⟨read, _, isSet⟩ := Outcome.bind_eq_ok_iff.mp set
      cases isSet
      exact { Narrower.refl facets with pattern := .inl constrains }
  | setRequired required =>
      cases constrains
      exact (Narrower.refl facets).addToken (by decide)
  | addRule rule =>
      apply Narrower.atomic
      intro changed added
      cases rule with
      | text token =>
          cases added
          exact (Narrower.refl facets).addToken fun same => constrains (congrArg Value.text same)
      | _ =>
          cases added
  | addWhen condition value rules =>
      apply Narrower.atomic
      intro changed added
      obtain ⟨rule, _, rfl⟩ := addWhen_eq_ok added
      exact .addConditional facets rule
  | addWhenMatches field source rules =>
      apply Narrower.atomic
      intro changed added
      obtain ⟨rule, _, rfl⟩ := addWhenMatches_eq_ok added
      exact .addConditional facets rule
  | addWhenCompares field operator operand rules =>
      apply Narrower.atomic
      intro changed added
      obtain ⟨rule, _, rfl⟩ := addWhenCompares_eq_ok added
      exact .addConditional facets rule
  | addRequiredWith siblings => exact .addSiblingRule facets _ _ siblings
  | addRequiredWithout siblings => exact .addSiblingRule facets _ _ siblings
  | addRequiredIf field value => exact .atomic fun _ added => .addFieldValueRule added
  | addProhibitedIf field value => exact .atomic fun _ added => .addFieldValueRule added
  | _ => exact constrains.elim

end Edit
end Facets

namespace Property

/-- An edit that adds a constraint to a property. -/
def Edit.Constrains (property : Property) : Edit → Prop
  | .facets edit => edit.Constrains property.facets
  | _ => False

/-- Edits each of which adds a constraint to what those before it have left behind. -/
inductive Constraining : Property → List Edit → Prop
  | nil {property : Property} : Constraining property []
  | cons {property : Property} {edit : Edit} {later : List Edit} :
      edit.Constrains property → Constraining (edit.apply property).state later →
      Constraining property (edit :: later)

variable {property : Property} {value context : Value}

/-- What a property accepts after one constraint more, it accepted before. -/
theorem Edit.Constrains.accepts {edit : Edit} (constrains : edit.Constrains property)
    (accepted : (edit.apply property).state.facets.accepts value context = .ok true) :
    property.facets.accepts value context = .ok true := by
  cases edit with
  | facets edit => exact (Facets.Edit.Constrains.narrower constrains).accepts accepted
  | _ => exact constrains.elim

/-- However many constraints are added, a property accepts nothing that it did not accept before. -/
theorem Constraining.accepted_before {edits : List Edit}
    (constraining : property.Constraining edits)
    (accepted : (property.edited edits).facets.accepts value context = .ok true) :
    property.facets.accepts value context = .ok true := by
  induction constraining with
  | nil =>
      exact accepted
  | cons constrains _ inductionHypothesis =>
      exact constrains.accepts (inductionHypothesis accepted)

/-- A required age between two bounds, which may not be missing when there is a mail address. -/
def ageConstraints : List Edit :=
  [.facets (.setMinimum (.int 18)), .facets (.addRequiredWith (.text "mail")),
    .facets (.setMaximum (.int 65)), .facets (.setRequired true)]

theorem accepted_before_age :
    Constraining (plain "integer" "age") ageConstraints ∧
      ((plain "integer" "age").edited ageConstraints).facets.accepts (.int 30)
          (.map [("mail", .text "m")]) = .ok true ∧
      (plain "integer" "age").facets.accepts (.int 30) (.map [("mail", .text "m")]) =
        .ok true := by
  have constraining : Constraining (plain "integer" "age") ageConstraints :=
    .cons rfl (.cons trivial (.cons rfl (.cons rfl .nil)))
  have accepted : ((plain "integer" "age").edited ageConstraints).facets.accepts (.int 30)
      (.map [("mail", .text "m")]) = .ok true := rfl
  exact ⟨constraining, accepted, constraining.accepted_before accepted⟩

end Property
end RecordSchema
