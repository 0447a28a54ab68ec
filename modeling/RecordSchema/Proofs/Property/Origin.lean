import RecordSchema.Proofs.Property.Soundness

/-!
# Where sound properties come from

A property is declared, made by a preset or read from a document.  It is sound in each case,
whatever it is declared as and whatever the document says.
-/

namespace RecordSchema

namespace Facets

private theorem sound_patternFrom {facets changed : Facets} {primary : String}
    (sound : facets.Sound primary) {pattern : Value}
    (read : facets.patternFrom pattern = .ok changed) : changed.Sound primary := by
  cases pattern with
  | null =>
      cases read
      exact sound
  | _ =>
      exact sound.setPattern read

/-- Facets are sound as they are read, even before what is nested in them. -/
theorem sound_ofFields {name : Value} {fields : Fields Value} {facets : Facets}
    (read : ofFields name fields = .ok facets) : facets.Sound facets.declared.primary := by
  obtain ⟨declared, _, afterType⟩ := Outcome.bind_eq_ok_iff.mp read
  obtain ⟨withRules, rulesAdded, afterRules⟩ := Outcome.bind_eq_ok_iff.mp afterType
  obtain ⟨withPattern, patternSet, afterPattern⟩ := Outcome.bind_eq_ok_iff.mp afterRules
  cases afterPattern
  obtain ⟨tokens, _, rfl⟩ := Outcome.map_eq_ok_iff.mp rulesAdded
  have bare := @sound_new {
    name := (fields.get? "name").getD name
    declared := declared
    description := entry fields "description"
    default := entry fields "default" } rfl rfl rfl Fields.distinct_nil
  have ruled := bare.addTokens tokens
  have flagged := ruled.setRequired true
  have patterned : withPattern.Sound declared.primary := by
    split at patternSet
    · refine sound_patternFrom ?_ patternSet
      exact flagged.congr rfl rfl rfl rfl rfl
    · refine sound_patternFrom ?_ patternSet
      exact ruled.congr rfl rfl rfl rfl rfl
  rw [← patterned.samePrimary] at patterned
  exact patterned.congr rfl rfl rfl rfl rfl

/-- The conditional rules and the attributes that are read at the end leave facets sound. -/
theorem sound_addRest {facets changed : Facets} {primary : String}
    (sound : facets.Sound primary) {fields : Fields Value}
    (read : facets.addRest fields = .ok changed) : changed.Sound primary := by
  obtain ⟨_, _, _, _, rfl⟩ := addRest_eq_ok read
  exact {
    samePrimary := sound.samePrimary
    distinctRules := sound.distinctRules
    requiredToken := sound.requiredToken
    readablePattern := sound.readablePattern
    distinctAttributes := sound.distinctAttributes.putAll _ }

end Facets

namespace Property

/-! ## Presets -/

theorem mem_of_asChildren {properties : Fields Property} {name : Name} {nested : Property}
    (member : (name, .property nested) ∈ asChildren properties) :
    ∃ key, (key, nested) ∈ properties := by
  obtain ⟨entry, named, same⟩ := List.mem_map.mp member
  obtain ⟨field, isField, rfl⟩ := List.mem_map.mp named
  cases same
  exact ⟨field.1, isField⟩

private theorem sound_formatted (name format : String) (description : Value) :
    (formatted name format description).Sound :=
  sound_leaf (Facets.sound_new rfl rfl rfl Fields.distinct_nil)

private theorem sound_defaulting (tag name : String) (default : Value) :
    (defaulting tag name default).Sound :=
  sound_leaf (Facets.sound_new rfl rfl rfl Fields.distinct_nil)

theorem sound_typed (tag : String) (name description : Value) :
    (typed tag name description).Sound :=
  sound_leaf (Facets.sound_new rfl rfl rfl Fields.distinct_nil)

theorem sound_object (name description : Value) {properties : Fields Property}
    (sound : ∀ entry ∈ properties, entry.2.Sound) :
    (object name description properties).Sound := by
  apply every_mk
  · exact ⟨Facets.sound_new rfl rfl rfl Fields.distinct_nil, fun _ => rfl,
      fun some => absurd rfl some⟩
  · intro key nested member
    obtain ⟨own, isChild⟩ := mem_of_asChildren member
    exact sound _ isChild
  · intro nested isItems
    cases isItems

private theorem sound_timeRange {name description format : Value} {property : Property}
    (made : timeRange name description format = .ok property) : property.Sound := by
  obtain ⟨label, _, isMade⟩ := Outcome.bind_eq_ok_iff.mp made
  cases isMade
  apply every_mk
  · exact ⟨Facets.sound_new rfl rfl rfl (by simp [Fields.Distinct]), fun _ => rfl,
      fun some => absurd rfl some⟩
  · intro key nested member
    obtain ⟨own, isChild⟩ := mem_of_asChildren member
    rcases List.mem_cons.mp isChild with start | others
    · cases start
      exact sound_formatted _ _ _
    · cases List.mem_singleton.mp others
      exact sound_formatted _ _ _
  · intro nested isItems
    cases isItems

private theorem sound_pickerOptions : pickerOptions.Sound := by
  have dates : (Property.mk { name := .text "disabledDates", declared := .single "array" } []
      (some (.property (formatted "date" "date" .null)))).Sound := by
    refine every_mk ⟨Facets.sound_new rfl rfl rfl Fields.distinct_nil,
      fun nonempty => absurd rfl nonempty, fun _ => rfl⟩ ?_ ?_
    · intro key nested member
      cases member
    · intro nested isItems
      cases isItems
      exact sound_formatted _ _ _
  apply sound_object
  simp [sound_formatted, sound_defaulting, dates]

private theorem sound_dateRange {name description : Value} {property : Property}
    (made : dateRange name description = .ok property) : property.Sound := by
  obtain ⟨label, _, isMade⟩ := Outcome.bind_eq_ok_iff.mp made
  cases isMade
  apply sound_object
  simp [sound_formatted, sound_pickerOptions]

private theorem sound_time {name description : Value} {property : Property}
    (made : time name description = .ok property) : property.Sound := by
  obtain ⟨label, _, isMade⟩ := Outcome.bind_eq_ok_iff.mp made
  cases isMade
  exact sound_leaf (Facets.sound_new rfl rfl rfl Fields.distinct_nil)

private theorem sound_duration {name description : Value} {property : Property}
    (made : duration name description = .ok property) : property.Sound := by
  obtain ⟨label, _, isMade⟩ := Outcome.bind_eq_ok_iff.mp made
  cases isMade
  apply sound_object
  intro entry member
  rcases List.mem_cons.mp member with value | others
  · cases value
    exact sound_typed _ _ _
  · cases List.mem_singleton.mp others
    exact sound_leaf (Facets.sound_new rfl rfl rfl (by simp [Fields.Distinct]))

/-! ## Documents -/

theorem sound_ofDocument (name document : Value) {property : Property}
    (read : ofDocument name document = .ok property) : property.Sound := by
  refine every_ofDocument (fun {name document property} read => ?_) name document read
  obtain ⟨fields, facets, children, items, _, parts⟩ := ofDocument_eq_ok read
  have complete := Facets.sound_addRest (Facets.sound_ofFields parts.facetsRead) parts.restAdded
  refine ⟨complete.samePrimary.symm ▸ complete, fun nonempty => ?_, fun some => ?_⟩
  · have isRead : children ≠ none := by
      rintro rfl
      exact nonempty parts.hasChildren
    exact complete.samePrimary.trans (parts.isObject isRead)
  · have isRead : items ≠ none := by
      rintro rfl
      exact some parts.hasItems
    exact complete.samePrimary.trans (parts.isArray isRead)

/-- A property is sound when it has just been made. -/
theorem Fresh.sound {property : Property} (fresh : Fresh property) : property.Sound := by
  cases fresh with
  | declared made =>
      obtain ⟨declared, _, isMade⟩ := Outcome.bind_eq_ok_iff.mp made
      cases isMade
      exact sound_leaf (Facets.sound_new rfl rfl rfl Fields.distinct_nil)
  | preset isPreset made =>
      unfold preset? at isPreset
      split at isPreset
      · cases isPreset
        exact sound_timeRange made
      · cases isPreset
        exact sound_dateRange made
      · cases isPreset
        exact sound_time made
      · cases isPreset
        exact sound_duration made
      · split at isPreset
        · cases isPreset
          cases made
          exact sound_typed _ _ _
        · cases isPreset
  | read isRead =>
      exact sound_ofDocument _ _ isRead

end Property
end RecordSchema
