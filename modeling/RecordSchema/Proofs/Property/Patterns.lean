import RecordSchema.Proofs.Property.Origin
import RecordSchema.Proofs.Property.History

/-!
# Where stored patterns come from

A property may hold conditional rules that match a field against a pattern.  Attaching such a rule
reads the pattern first; reading the rule from a document stores the pattern as it came, at any
depth.  No edit checks the patterns that are there already, so those of a document stay until they
are replaced.
-/

namespace RecordSchema

def ConditionalRule.Readable : ConditionalRule → Prop
  | .pattern _ source _ => ∃ pattern, Pattern.ofValue source = .ok pattern
  | _ => True

namespace Facets

variable {facets after : Facets}

/-- A change after which every conditional rule that is new is readable. -/
def AddsReadable (facets after : Facets) : Prop :=
  ∀ rule ∈ after.conditionals, rule ∈ facets.conditionals ∨ rule.Readable

theorem AddsReadable.of_same (same : after.conditionals = facets.conditionals) :
    AddsReadable facets after := by
  intro rule member
  rw [same] at member
  exact .inl member

theorem AddsReadable.addConditional {attached : ConditionalRule} (readable : attached.Readable) :
    AddsReadable facets (facets.addConditional attached) := by
  intro rule member
  rcases List.mem_append.mp member with old | new
  · exact .inl old
  · cases List.mem_singleton.mp new
    exact .inr readable

theorem AddsReadable.atomic {outcome : Except Error Facets}
    (adds : ∀ changed, outcome = .ok changed → AddsReadable facets changed) :
    AddsReadable facets (Change.atomic facets outcome).state :=
  Change.state_atomic (.of_same rfl) adds

theorem Edit.Attaches.readable {edit : Facets.Edit} {attached : ConditionalRule}
    (attaches : edit.Attaches attached) : attached.Readable := by
  cases attaches with
  | pattern read _ => exact ⟨_, read⟩
  | _ => trivial

/-- Only one edit attaches a pattern, and it reads the pattern first. -/
theorem Edit.addsReadable (edit : Facets.Edit) (facets : Facets) :
    AddsReadable facets (edit.apply facets).state := by
  cases edit with
  | setName name => exact .of_same rfl
  | setDescription description => exact .of_same rfl
  | setDefault default => exact .of_same rfl
  | setFormat format => exact .of_same rfl
  | setMinimum bound => exact .of_same rfl
  | setMaximum bound => exact .of_same rfl
  | setReference reference => exact .of_same rfl
  | addRule rule =>
      apply AddsReadable.atomic
      intro changed added
      cases rule with
      | text token =>
          cases added
          exact .of_same rfl
      | _ =>
          cases added
  | addRules rules =>
      apply AddsReadable.atomic
      intro changed added
      obtain ⟨tokens, _, rfl⟩ := Outcome.map_eq_ok_iff.mp added
      exact .of_same (conditionals_addTokens facets tokens)
  | setRequired required =>
      cases required with
      | true => exact .of_same rfl
      | false => exact .of_same rfl
  | setNullable nullable =>
      cases nullable with
      | true => exact .of_same rfl
      | false => exact .of_same rfl
  | addAttribute key value =>
      apply AddsReadable.atomic
      intro changed added
      unfold Facets.addAttribute at added
      split at added
      · cases added
        exact .of_same rfl
      · cases added
  | setChoices choices =>
      apply AddsReadable.atomic
      intro changed set
      obtain ⟨parts, _, isSet⟩ := Outcome.bind_eq_ok_iff.mp set
      cases isSet
      exact .of_same rfl
  | setPattern pattern =>
      apply AddsReadable.atomic
      intro changed set
      obtain ⟨read, _, isSet⟩ := Outcome.bind_eq_ok_iff.mp set
      cases isSet
      exact .of_same rfl
  | addWhen condition value rules =>
      apply AddsReadable.atomic
      intro changed added
      obtain ⟨attached, attaches, rfl⟩ := addWhen_eq_ok added
      exact .addConditional attaches.readable
  | addWhenMatches field source rules =>
      apply AddsReadable.atomic
      intro changed added
      obtain ⟨attached, attaches, rfl⟩ := addWhenMatches_eq_ok added
      exact .addConditional attaches.readable
  | addWhenCompares field operator operand rules =>
      apply AddsReadable.atomic
      intro changed added
      obtain ⟨attached, attaches, rfl⟩ := addWhenCompares_eq_ok added
      exact .addConditional attaches.readable
  | addRequiredWith siblings =>
      intro rule member
      rcases mem_conditionals_addSiblingRule member with old | ⟨names, _, rfl⟩
      · exact .inl old
      · exact .inr trivial
  | addRequiredWithout siblings =>
      intro rule member
      rcases mem_conditionals_addSiblingRule member with old | ⟨names, _, rfl⟩
      · exact .inl old
      · exact .inr trivial
  | addRequiredIf field value =>
      intro rule member
      rcases mem_conditionals_addFieldValueRule member with old | rfl
      · exact .inl old
      · exact .inr trivial
  | addProhibitedIf field value =>
      intro rule member
      rcases mem_conditionals_addFieldValueRule member with old | rfl
      · exact .inl old
      · exact .inr trivial

end Facets

namespace Property

variable {property : Property} {rule : ConditionalRule}

/-- A conditional rule is held by a property, or by one that is nested in it. -/
def HoldsRule (property : Property) (rule : ConditionalRule) : Prop :=
  ∃ part, Within part property ∧ rule ∈ part.facets.conditionals

private theorem holdsRule_iff :
    property.HoldsRule rule ↔
      rule ∈ property.facets.conditionals ∨
      (∃ name nested, (name, .property nested) ∈ property.children ∧ nested.HoldsRule rule) ∨
      ∃ nested, property.items = some (.property nested) ∧ nested.HoldsRule rule :=
  exists_within_iff

/-! ## Edits -/

/-- A rule that is held after an edit was held before it, or by a part that the edit brings in, or
is readable. -/
theorem Edit.holdsRule_apply (edit : Edit) (held : (edit.apply property).state.HoldsRule rule) :
    property.HoldsRule rule ∨ (∃ part ∈ edit.parts, part.HoldsRule rule) ∨ rule.Readable := by
  have nests := edit.nestsFrom property
  rcases holdsRule_iff.mp held with
    here | ⟨name, nested, member, inside⟩ | ⟨nested, isItems, inside⟩
  · rcases edit.facets_apply property with ⟨inner, rfl, same⟩ | ⟨_, same⟩
    · rw [same] at here
      rcases inner.addsReadable property.facets rule here with old | readable
      · exact .inl (holdsRule_iff.mpr (.inl old))
      · exact .inr (.inr readable)
    · rw [same] at here
      exact .inl (holdsRule_iff.mpr (.inl here))
  · rcases nests.children name nested member with ⟨key, old⟩ | isPart
    · exact .inl (holdsRule_iff.mpr (.inr (.inl ⟨key, nested, old, inside⟩)))
    · exact .inr (.inl ⟨nested, isPart, inside⟩)
  · rcases nests.items nested isItems with old | isPart
    · exact .inl (holdsRule_iff.mpr (.inr (.inr ⟨nested, old, inside⟩)))
    · exact .inr (.inl ⟨nested, isPart, inside⟩)

/-- A rule on a property that edits have made was there at its origin, or is readable. -/
theorem Reachable.holdsRule {origin : Property → Prop} (reachable : Reachable origin property)
    (held : property.HoldsRule rule) :
    rule.Readable ∨ ∃ start, origin start ∧ start.HoldsRule rule := by
  induction reachable with
  | origin isOrigin =>
      exact .inr ⟨_, isOrigin, held⟩
  | edit edit _ _ inductionHypothesis partsHypothesis =>
      rcases edit.holdsRule_apply held with before | ⟨part, isPart, inside⟩ | readable
      · exact inductionHypothesis before
      · exact partsHypothesis part isPart inside
      · exact .inl readable
  | @child facets before after name nested changed items _ _ whole part =>
      rcases holdsRule_iff.mp held with here | ⟨key, child, member, inside⟩ | inItems
      · exact whole (holdsRule_iff.mpr (.inl here))
      · rcases List.mem_append.mp member with early | late
        · exact whole (holdsRule_iff.mpr
            (.inr (.inl ⟨key, child, List.mem_append_left _ early, inside⟩)))
        · rcases List.mem_cons.mp late with isChanged | later
          · cases isChanged
            exact part inside
          · exact whole (holdsRule_iff.mpr
              (.inr (.inl ⟨key, child, List.mem_append_right _ (List.mem_cons_of_mem _ later),
                inside⟩)))
      · exact whole (holdsRule_iff.mpr (.inr (.inr inItems)))
  | @items facets children nested changed _ _ whole part =>
      rcases holdsRule_iff.mp held with here | inChild | ⟨child, isItems, inside⟩
      · exact whole (holdsRule_iff.mpr (.inl here))
      · exact whole (holdsRule_iff.mpr (.inr (.inl inChild)))
      · cases isItems
        exact part inside

/-! ## Documents -/

/-- A conditional rule stands in the document of a property, or in that of a nested one. -/
inductive Listed (rule : ConditionalRule) : Value → Prop
  | here {document given : Value} {fields : Fields Value} {documents : List Value} :
      document.toFields = .ok fields →
      ((Facets.entry fields "conditionalRules").orElse (.list [])).parts = .ok documents →
      given ∈ documents → ConditionalRule.ofDocument given = .ok rule → Listed rule document
  | child {document nested : Value} {fields entries : Fields Value} {key : String} :
      document.toFields = .ok fields → fields.get? "properties" = some (.map entries) →
      (key, nested) ∈ entries → Listed rule nested → Listed rule document
  | items {document nested : Value} {fields : Fields Value} :
      document.toFields = .ok fields → fields.get? "items" = some nested →
      Listed rule nested → Listed rule document

theorem HoldsRule.listed (name document : Value) {property : Property}
    (read : ofDocument name document = .ok property) (held : property.HoldsRule rule) :
    Listed rule document := by
  -- By recursion on the document, since names are handed down along with it.
  obtain ⟨fields, facets, children, items, converted, parts⟩ := ofDocument_eq_ok read
  rcases holdsRule_iff.mp held with here | ⟨key, nested, member, inside⟩ | ⟨nested, isItems, inside⟩
  · obtain ⟨documents, listed, rulesRead⟩ := parts.conditionals
    obtain ⟨given, isListed, isRule⟩ := (Facets.mem_conditionalsOf_iff rulesRead).mp here
    exact .here converted listed isListed isRule
  · obtain ⟨entries, text, nestedDocument, _, found, isEntry, _, same, nestedRead⟩ :=
      parts.child member
    cases same
    exact .child converted found isEntry
      (HoldsRule.listed (.text text) nestedDocument nestedRead inside)
  · obtain ⟨entries, _, found, same, nestedRead⟩ := parts.item isItems
    cases same
    exact .items converted found
      (HoldsRule.listed (itemName entries) (.map entries) nestedRead inside)
termination_by document.weight
decreasing_by
  · have entryLighter := Value.weight_lt_entryWeights isEntry
    have mapLighter := Value.weight_lt_of_toFields converted found
    simp only [Value.weight] at mapLighter
    omega
  · exact Value.weight_lt_of_toFields converted found

theorem Listed.holdsRule {document : Value} (listed : Listed rule document) (name : Value)
    (read : ofDocument name document = .ok property) : property.HoldsRule rule := by
  induction listed generalizing name property with
  | here converted isListed member isRule =>
      obtain ⟨_, _, _, _, again, parts⟩ := ofDocument_eq_ok read
      rw [converted] at again
      cases again
      obtain ⟨documents, listedAgain, rulesRead⟩ := parts.conditionals
      rw [isListed] at listedAgain
      cases listedAgain
      exact holdsRule_iff.mpr (.inl
        ((Facets.mem_conditionalsOf_iff rulesRead).mpr ⟨_, member, isRule⟩))
  | child converted found member _ inductionHypothesis =>
      obtain ⟨_, _, _, _, again, parts⟩ := ofDocument_eq_ok read
      rw [converted] at again
      cases again
      obtain ⟨nested, isChild, nestedRead⟩ := mem_of_childrenOf (parts.childrenOf found) member
      exact holdsRule_iff.mpr (.inr (.inl ⟨_, nested, isChild, inductionHypothesis _ nestedRead⟩))
  | @items document nested fields converted found listed inductionHypothesis =>
      obtain ⟨_, _, _, _, again, parts⟩ := ofDocument_eq_ok read
      rw [converted] at again
      cases again
      have itemsRead := parts.itemsRead
      unfold itemsIn at itemsRead
      rw [found] at itemsRead
      cases nested with
      | map entries =>
          obtain ⟨schema, schemaRead, rfl⟩ := Outcome.map_eq_ok_iff.mp itemsRead
          exact holdsRule_iff.mpr
            (.inr (.inr ⟨schema, parts.hasItems, inductionHypothesis _ schemaRead⟩))
      | null =>
          cases listed with
          | here notDocument => cases notDocument
          | child notDocument => cases notDocument
          | items notDocument => cases notDocument
      | _ =>
          cases itemsRead

/-- Reading a property stores the conditional rules of its document, whatever their patterns. -/
theorem holdsRule_iff_listed {name document : Value}
    (read : ofDocument name document = .ok property) :
    property.HoldsRule rule ↔ Listed rule document :=
  ⟨HoldsRule.listed name document read, fun listed => listed.holdsRule name read⟩

/-! ## Origins -/

private theorem not_holdsRule_asChildren {facets : Facets} (noneHere : facets.conditionals = [])
    {properties : Fields Property} (noneBelow : ∀ entry ∈ properties, ¬ entry.2.HoldsRule rule) :
    ¬ (Property.mk facets (asChildren properties) none).HoldsRule rule := by
  intro held
  rcases holdsRule_iff.mp held with here | ⟨name, nested, member, inside⟩ | ⟨_, isItems, _⟩
  · rw [Property.facets, noneHere] at here
    cases here
  · obtain ⟨key, isChild⟩ := mem_of_asChildren member
    exact noneBelow (key, nested) isChild inside
  · cases isItems

@[simp]
theorem not_holdsRule_leaf {facets : Facets} (noneHere : facets.conditionals = []) :
    ¬ (leaf facets).HoldsRule rule :=
  not_holdsRule_asChildren noneHere (List.forall_mem_nil _)

private theorem not_holdsRule_pickerOptions : ¬ pickerOptions.HoldsRule rule := by
  have dates : ¬ (Property.mk { name := .text "disabledDates", declared := .single "array" } []
      (some (.property (formatted "date" "date" .null)))).HoldsRule rule := by
    intro held
    rcases holdsRule_iff.mp held with here | ⟨_, _, member, _⟩ | ⟨nested, isItems, inside⟩
    · cases here
    · cases member
    · cases isItems
      exact not_holdsRule_leaf rfl inside
  refine not_holdsRule_asChildren rfl ?_
  simpa [formatted, defaulting] using dates

/-- Only a property that has been read holds conditional rules from the start. -/
theorem Fresh.read_of_holdsRule (fresh : Fresh property) (held : property.HoldsRule rule) :
    ∃ name document, ofDocument name document = .ok property := by
  cases fresh with
  | declared made =>
      obtain ⟨declared, _, isMade⟩ := Outcome.bind_eq_ok_iff.mp made
      cases isMade
      exact absurd held (not_holdsRule_leaf rfl)
  | preset isPreset made =>
      refine absurd held ?_
      unfold preset? at isPreset
      split at isPreset
      · cases isPreset
        obtain ⟨label, _, isMade⟩ := Outcome.bind_eq_ok_iff.mp made
        cases isMade
        refine not_holdsRule_asChildren rfl ?_
        simp [formatted]
      · cases isPreset
        obtain ⟨label, _, isMade⟩ := Outcome.bind_eq_ok_iff.mp made
        cases isMade
        refine not_holdsRule_asChildren rfl ?_
        simp [formatted, not_holdsRule_pickerOptions]
      · cases isPreset
        obtain ⟨label, _, isMade⟩ := Outcome.bind_eq_ok_iff.mp made
        cases isMade
        exact not_holdsRule_leaf rfl
      · cases isPreset
        obtain ⟨label, _, isMade⟩ := Outcome.bind_eq_ok_iff.mp made
        cases isMade
        refine not_holdsRule_asChildren rfl ?_
        simp [plain, typed]
      · split at isPreset
        · cases isPreset
          cases made
          exact not_holdsRule_leaf rfl
        · cases isPreset
  | read isRead =>
      exact ⟨_, _, isRead⟩

end Property
end RecordSchema
