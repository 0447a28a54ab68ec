import RecordSchema.Check.Message
import RecordSchema.Proofs.Fields
import RecordSchema.Proofs.Outcome

/-!
# Messages made of texts

Where messages and labels are texts, there is a message for every rule that is not met, whatever
the rule and its parameters are.
-/

namespace RecordSchema

def Value.IsText (value : Value) : Prop :=
  ∃ text, value = .text text

def Fields.AreTexts (fields : Fields Value) : Prop :=
  ∀ field ∈ fields, field.2.IsText

namespace Fields

variable {fields : Fields Value}

theorem AreTexts.get? (texts : fields.AreTexts) {name : String} {value : Value}
    (found : fields.get? name = some value) : value.IsText := by
  obtain ⟨key, _, member⟩ := mem_of_get?_eq_some found
  exact texts (key, value) member

private theorem areTexts_nil : AreTexts [] :=
  List.forall_mem_nil _

theorem areTexts_cons {field : String × Value} :
    AreTexts (field :: fields) ↔ field.2.IsText ∧ fields.AreTexts :=
  List.forall_mem_cons

theorem AreTexts.getD (texts : fields.AreTexts) {name : String} (member : name ∈ fields.names) :
    ((fields.get? name).getD .null).IsText := by
  cases found : fields.get? name with
  | none =>
      exact absurd member (get?_eq_none_iff_not_mem.mp found)
  | some value =>
      exact texts.get? found

end Fields

namespace Message

/-- Filling texts into a text yields a text, if each name that is filled in is there. -/
theorem fillAll_isText {replacements : Fields Value} (texts : replacements.AreTexts)
    {names : List String} (known : ∀ name ∈ names, name ∈ replacements.names) {template : Value}
    (isText : template.IsText) :
    ∃ filled, fillAll replacements names template = .ok filled ∧ filled.IsText := by
  induction names generalizing template with
  | nil =>
      exact ⟨template, rfl, isText⟩
  | cons name rest inductionHypothesis =>
      obtain ⟨knownName, knownRest⟩ := List.forall_mem_cons.mp known
      obtain ⟨text, rfl⟩ := isText
      obtain ⟨put, isPut⟩ := texts.getD knownName
      rw [fillAll, isPut, fillOne, Outcome.ok_bind]
      exact inductionHypothesis knownRest ⟨_, rfl⟩

private theorem fill_isText {replacements : Fields Value} (texts : replacements.AreTexts)
    {template : Value} (isText : template.IsText) :
    ∃ filled, fill template replacements = .ok filled ∧ filled.IsText := by
  apply fillAll_isText texts _ isText
  intro name member
  exact List.mem_mergeSort.mp member

namespace Wording

/-- Messages and labels that are texts. -/
structure IsTexts (wording : Wording) : Prop where
  messages : ∃ fields : Fields Value, wording.messages = .map fields ∧ fields.AreTexts
  labels : ∃ fields : Fields Value, wording.labels = .map fields ∧ fields.AreTexts

theorem isTexts_empty : IsTexts {} :=
  ⟨⟨[], rfl, Fields.areTexts_nil⟩, ⟨[], rfl, Fields.areTexts_nil⟩⟩

variable {wording : Wording} {known : Fields Value}

theorem IsTexts.field (texts : wording.IsTexts) (name : String) :
    ∃ own, wording.messages.field name = .ok own ∧ (own = .null ∨ own.IsText) := by
  obtain ⟨fields, isMap, areTexts⟩ := texts.messages
  rw [isMap]
  refine ⟨_, rfl, ?_⟩
  cases found : fields.lookup name with
  | none =>
      exact Or.inl rfl
  | some value =>
      exact Or.inr (areTexts.get? found)

theorem IsTexts.label (texts : wording.IsTexts) (name : String) :
    ∃ label, wording.label (.text name) = .ok label ∧ label.IsText := by
  obtain ⟨fields, isMap, areTexts⟩ := texts.labels
  simp only [Wording.label, isMap, Name.text, Value.entry, Value.lookupField, Outcome.ok_bind]
  cases found : fields.get? name with
  | none =>
      exact ⟨_, rfl, _, rfl⟩
  | some value =>
      obtain ⟨text, rfl⟩ := areTexts.get? found
      simp only [Option.getD_some]
      split
      · exact ⟨_, rfl, text, rfl⟩
      · exact ⟨_, rfl, _, rfl⟩

theorem IsTexts.joinedLabels (texts : wording.IsTexts) (names : List String) :
    ∃ labels, (wording.joinedLabels names >>= labelTexts) = .ok labels := by
  induction names with
  | nil =>
      exact ⟨[], rfl⟩
  | cons name rest inductionHypothesis =>
      obtain ⟨label, isLabel, text, rfl⟩ := texts.label name
      obtain ⟨others, joined⟩ := inductionHypothesis
      obtain ⟨values, areValues, areTexts⟩ := Outcome.bind_eq_ok_iff.mp joined
      refine ⟨text :: others, ?_⟩
      simp [Wording.joinedLabels, isLabel, areValues, labelTexts, areTexts]

theorem IsTexts.template (texts : wording.IsTexts) (areKnown : known.AreTexts) (call : Call)
    (rule : String) :
    ∃ template, wording.template known call rule = .ok template ∧ template.IsText := by
  have standing : ((known.get? rule).getD (.text fallback)).IsText := by
    cases found : known.get? rule with
    | none =>
        exact ⟨fallback, rfl⟩
    | some value =>
        exact areKnown.get? found
  obtain ⟨forField, isForField, forFieldText⟩ :=
    texts.field (call.field.toText ++ "." ++ rule)
  obtain ⟨forRule, isForRule, forRuleText⟩ := texts.field rule
  rw [Wording.template, isForField, Outcome.ok_bind, isForRule]
  by_cases isOwn : forField.isTruthy = true
  · rcases forFieldText with rfl | ⟨text, rfl⟩
    · cases isOwn
    · simp [isOwn, Value.IsText]
  · simp only [isOwn, Bool.false_eq_true, if_false, Outcome.ok_bind]
    rcases forRuleText with rfl | ⟨text, rfl⟩
    · cases ofSize? rule call.sizeKind with
      | some text =>
          exact ⟨_, rfl, text, rfl⟩
      | none =>
          exact ⟨_, rfl, standing⟩
    · exact ⟨_, rfl, text, rfl⟩

theorem IsTexts.details (texts : wording.IsTexts) (call : Call) (rule : String) :
    ∃ details, wording.details call rule = .ok details ∧ details.AreTexts := by
  have joined (others : List String) :
      ∃ found, details.joined wording others = .ok found ∧ found.AreTexts := by
    obtain ⟨labels, areLabels⟩ := texts.joinedLabels others
    obtain ⟨values, areValues, areTexts⟩ := Outcome.bind_eq_ok_iff.mp areLabels
    refine ⟨[("values", .text (Text.join " / " labels))], ?_, ?_⟩
    · simp [details.joined, areValues, areTexts]
    · exact Fields.areTexts_cons.mpr ⟨⟨_, rfl⟩, Fields.areTexts_nil⟩
  have dependent (other : String) (values : List String) :
      ∃ found, details.dependent wording other values = .ok found ∧ found.AreTexts := by
    obtain ⟨label, isLabel, labelText⟩ := texts.label other
    refine ⟨[("other", label), ("value", .text (Text.join ", " values))], ?_, ?_⟩
    · simp [details.dependent, isLabel]
    · exact Fields.areTexts_cons.mpr
        ⟨labelText, Fields.areTexts_cons.mpr ⟨⟨_, rfl⟩, Fields.areTexts_nil⟩⟩
  unfold Wording.details
  split
  · exact ⟨_, rfl, Fields.areTexts_cons.mpr ⟨⟨_, rfl⟩, Fields.areTexts_nil⟩⟩
  · exact ⟨_, rfl, Fields.areTexts_cons.mpr ⟨⟨_, rfl⟩, Fields.areTexts_nil⟩⟩
  · exact ⟨_, rfl, Fields.areTexts_cons.mpr ⟨⟨_, rfl⟩, Fields.areTexts_nil⟩⟩
  · exact ⟨_, rfl, Fields.areTexts_cons.mpr
      ⟨⟨_, rfl⟩, Fields.areTexts_cons.mpr ⟨⟨_, rfl⟩, Fields.areTexts_nil⟩⟩⟩
  · exact joined _
  · exact joined _
  · exact dependent _ _
  · exact dependent _ _
  · exact ⟨[], rfl, Fields.areTexts_nil⟩

theorem IsTexts.message (texts : wording.IsTexts) (areKnown : known.AreTexts) (call : Call)
    {name : String} (named : call.field = .text name) (rule : String) :
    ∃ text, wording.message known call rule = .ok text := by
  obtain ⟨template, isTemplate, templateText⟩ := texts.template areKnown call rule
  obtain ⟨label, isLabel, labelText⟩ := texts.label name
  obtain ⟨details, areDetails, detailTexts⟩ := texts.details call rule
  have replacementTexts : Fields.AreTexts (("attribute", label) :: details) :=
    Fields.areTexts_cons.mpr ⟨labelText, detailTexts⟩
  obtain ⟨filled, isFilled, _⟩ := fill_isText replacementTexts templateText
  refine ⟨filled.toText, ?_⟩
  simp [Wording.message, isTemplate, named, isLabel, areDetails, isFilled]

end Wording
end Message
end RecordSchema
