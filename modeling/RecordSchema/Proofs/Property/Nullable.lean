import RecordSchema.Proofs.Property.Acceptance
import RecordSchema.Proofs.Property.History

/-!
# Properties that may be without a value

Making a property nullable adds `null` to its type, which makes a single type a union.  No value
then counts as missing any more unless a rule about siblings asks for one.  Other values are
accepted as before, but for those that the single type took for what they mean: the union only looks
at how they report their types.
-/

namespace RecordSchema

namespace Facets

variable {facets : Facets} {value context : Value}

@[simp]
theorem isNullable_setNullable (facets : Facets) : (facets.setNullable true).isNullable = true := by
  rw [isNullable, List.contains_iff_mem, mem_setNullable_iff]
  exact .inl ⟨rfl, rfl⟩

@[simp]
theorem isRequired_setNullable (facets : Facets) :
    (facets.setNullable true).isRequired = facets.isRequired := by
  simp [setNullable, addToken]

private theorem isInBounds_setNullable (facets : Facets) (value : Value) :
    (facets.setNullable true).isInBounds value = facets.isInBounds value := by
  have sameKind : (facets.setNullable true).hasBounds = facets.hasBounds := by
    simp [setNullable, addToken, hasBounds]
  rw [isInBounds, isInBounds, sameKind]
  rfl

private theorem isAddressed_setNullable (facets : Facets) (value : Value) :
    (facets.setNullable true).isAddressed value = facets.isAddressed value := by
  have sameToken : (facets.setNullable true).rules.contains "email" =
      facets.rules.contains "email" := by
    rw [Bool.eq_iff_iff, List.contains_iff_mem, List.contains_iff_mem, mem_setNullable_iff]
    simp
  unfold isAddressed
  rw [sameToken]

/-- A value that a single type takes for what it means is not accepted any more. -/
theorem verdict_setNullable_of_meaning (meant : facets.declared.TakesMeaning value) :
    (facets.setNullable true).verdict value = .ok false := by
  have present : value.isBlank = false := by
    obtain ⟨tag, _, means⟩ := meant
    cases value with
    | null => cases means
    | text text => cases means
    | _ => rfl
  rw [verdict_of_present present, acceptsPresent_eq]
  have untaken : (facets.setNullable true).declared.accepts value = false :=
    SchemaType.accepts_withNull_of_meaning meant
  rw [untaken]
  rfl

/-- All other values are accepted as before. -/
theorem verdict_setNullable_of_not_meaning (present : value ≠ .null)
    (reported : ¬ facets.declared.TakesMeaning value) :
    (facets.setNullable true).verdict value = facets.verdict value := by
  refine verdict_congr (fun absent => absurd absent present) (isRequired_setNullable facets)
    fun _ => ?_
  exact acceptsPresent_congr (SchemaType.accepts_withNull_of_not_meaning reported) rfl
    (isInBounds_setNullable facets value) (isAddressed_setNullable facets value)

private theorem setNullable_setNullable (facets : Facets) :
    (facets.setNullable true).setNullable true = facets.setNullable true := by
  by_cases listed : "nullable" ∈ facets.rules
  · simp [setNullable, addToken, listed]
  · simp [setNullable, addToken, listed]

end Facets

namespace Property

def nullable (property : Property) : Property :=
  (Edit.apply property (.facets (.setNullable true))).state

@[simp]
theorem nullable_mk (facets : Facets) (children : List (Name × Child Property))
    (items : Option (Child Property)) :
    (mk facets children items).nullable = mk (facets.setNullable true) children items := rfl

private theorem nullable_nullable (property : Property) :
    property.nullable.nullable = property.nullable := by
  cases property with
  | mk facets children items =>
      simp [Facets.setNullable_setNullable]

private theorem accepts_nullable (property : Property) (value context : Value) :
    property.nullable.facets.accepts value context =
      Facets.lacksForSiblings (context.orElse (.map [])) value property.facets.conditionals >>=
        fun lacks =>
          if lacks then .ok false else (property.facets.setNullable true).verdict value :=
  rfl

/-- A nullable property turns down no value exactly if a rule about siblings asks for one.  Other
values it accepts as the property did before, but none that a single type takes for what they mean.
Making it nullable again changes nothing. -/
theorem nullable_effect {property : Property} {value context : Value} {accepted : Bool}
    (returns : property.facets.accepts value context = .ok accepted) :
    (value = .null → ∃ answer, property.nullable.facets.accepts value context = .ok answer ∧
      (answer = false ↔ property.facets.IsAskedFor context)) ∧
    (property.facets.declared.TakesMeaning value →
      property.nullable.facets.accepts value context = .ok false) ∧
    (value ≠ .null → ¬ property.facets.declared.TakesMeaning value →
      property.nullable.facets.accepts value context = .ok accepted) ∧
    property.nullable.nullable = property.nullable := by
  rw [Facets.accepts_eq] at returns
  obtain ⟨lacks, walked, decided⟩ := Outcome.bind_eq_ok_iff.mp returns
  have answer := accepts_nullable property value context
  rw [walked, Outcome.ok_bind] at answer
  refine ⟨?_, ?_, ?_, ?_⟩
  · rintro rfl
    refine ⟨!lacks, ?_, ?_⟩
    · rw [answer]
      cases lacks with
      | true => rfl
      | false => simp [Facets.verdict]
    · have asked := Facets.lacksForSiblings_iff walked
      simpa [Value.isBlank, Facets.IsAskedFor] using asked
  · intro meant
    rw [answer, Facets.verdict_setNullable_of_meaning meant, ite_self]
  · intro present reported
    rw [answer, Facets.verdict_setNullable_of_not_meaning present reported]
    exact decided
  · exact nullable_nullable property

/-- A price takes integers, and none any more when it is nullable. -/
theorem nullable_effect_price :
    (plain "number" "price").facets.accepts (.int 5) .null = .ok true ∧
      (plain "number" "price").facets.declared.TakesMeaning (.int 5) ∧
      (plain "number" "price").nullable.facets.accepts (.int 5) .null = .ok false := by
  have returns : (plain "number" "price").facets.accepts (.int 5) .null = .ok true := rfl
  have meant : (plain "number" "price").facets.declared.TakesMeaning (.int 5) := ⟨_, rfl, rfl⟩
  obtain ⟨_, turnsDown, _, _⟩ := nullable_effect returns
  exact ⟨returns, meant, turnsDown meant⟩

end Property
end RecordSchema
