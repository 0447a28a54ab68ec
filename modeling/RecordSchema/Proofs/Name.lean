import RecordSchema.Proofs.Fields
import RecordSchema.Name

/-!
# Names that are texts

Only texts name the fields of a record, and a name that is the same as a text is that text.
-/

namespace RecordSchema.Name

theorem eq_text_of_beq {name : Name} {text : String} (same : (name == Name.text text) = true) :
    name = Name.text text := by
  have identical : identityOf name.value = .text text := beq_iff.mp same
  obtain ⟨value, isKey⟩ := name
  cases value with
  | text other =>
      cases identical
      rfl
  | double value =>
      simp only [identityOf] at identical
      split at identical <;> cases identical
  | _ =>
      cases identical

theorem text?_eq_some_iff {name : Name} {text : String} :
    name.text? = some text ↔ name = Name.text text := by
  constructor
  · intro isText
    obtain ⟨value, isKey⟩ := name
    cases value <;> cases isText
    rfl
  · rintro rfl
    rfl

end RecordSchema.Name

namespace RecordSchema.Fields

theorem named_of_texts? {fields : Fields Value Name} {entries : Fields Value}
    (areTexts : fields.texts? = some entries) : named entries = fields := by
  induction fields generalizing entries with
  | nil =>
      cases areTexts
      rfl
  | cons field rest inductionHypothesis =>
      obtain ⟨name, value⟩ := field
      obtain ⟨text, isText, afterText⟩ := Option.bind_eq_some_iff.mp areTexts
      obtain ⟨others, restTexts, isWhole⟩ := Option.bind_eq_some_iff.mp afterText
      cases isWhole
      rw [Name.text?_eq_some_iff.mp isText, ← inductionHypothesis restTexts]
      rfl

private theorem ofKeyed_map_value (fields : Fields Value Name) :
    ofKeyed (fields.map fun field => (field.1.value, field.2)) = fields := by
  induction fields with
  | nil =>
      rfl
  | cons field rest inductionHypothesis =>
      unfold ofKeyed at inductionHypothesis ⊢
      simp [field.1.isKey, inductionHypothesis]

@[simp]
theorem get?_named {α : Type} (fields : Fields α) (name : String) :
    fields.named.get? (Name.text name) = fields.get? name := by
  induction fields with
  | nil =>
      rfl
  | cons field rest inductionHypothesis =>
      have step : named (field :: rest) = (Name.text field.1, field.2) :: named rest := rfl
      rw [step, get?_cons, get?_cons, Name.text_beq_text, inductionHypothesis]

@[simp]
theorem mapping?_text (text : String) : (Value.text text).mapping? = none := rfl

@[simp]
theorem mapping?_map (entries : Fields Value) :
    (Value.map entries).mapping? = some (named entries) := rfl

/-- Fields are those of the map that they make. -/
@[simp]
theorem mapping?_toValue (fields : Fields Value Name) : fields.toValue.mapping? = some fields := by
  unfold toValue
  split
  · next entries areTexts =>
      exact congrArg some (named_of_texts? areTexts)
  · exact congrArg some (ofKeyed_map_value fields)

end RecordSchema.Fields
