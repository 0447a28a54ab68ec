import RecordSchema.Proofs.Fields
import RecordSchema.Proofs.Property.Edit
import RecordSchema.Proofs.Property.Reading
import RecordSchema.Proofs.Property.Type

/-!
# Sound properties

What no edit of a property breaks: no rule is listed twice, the property is required exactly when
a rule says so, its pattern can be read, no attribute is there twice, the primary type stays, and
children and items are only where that type has a place for them.
-/

namespace RecordSchema

/-- What no edit of the facets of a property of this primary type breaks. -/
structure Facets.Sound (primary : String) (facets : Facets) : Prop where
  samePrimary : facets.declared.primary = primary
  distinctRules : facets.rules.Nodup
  requiredToken : facets.isRequired = true ↔ "required" ∈ facets.rules
  readablePattern : ∀ source, facets.pattern = some source →
    ∃ pattern, Pattern.ofValue (.text source) = .ok pattern
  distinctAttributes : facets.attributes.Distinct

namespace Facets

variable {primary : String}

theorem Sound.congr {facets changed : Facets} (sound : facets.Sound primary)
    (samePrimary : changed.declared.primary = facets.declared.primary)
    (sameRules : changed.rules = facets.rules)
    (sameRequired : changed.isRequired = facets.isRequired)
    (samePattern : changed.pattern = facets.pattern)
    (sameAttributes : changed.attributes = facets.attributes) : changed.Sound primary where
  samePrimary := samePrimary.trans sound.samePrimary
  distinctRules := sameRules ▸ sound.distinctRules
  requiredToken := by
    rw [sameRules, sameRequired]
    exact sound.requiredToken
  readablePattern := samePattern ▸ sound.readablePattern
  distinctAttributes := sameAttributes ▸ sound.distinctAttributes

theorem Sound.addToken {facets : Facets} (sound : facets.Sound primary) (token : String) :
    (facets.addToken token).Sound primary where
  samePrimary := sound.samePrimary
  distinctRules := by
    simp only [Facets.addToken, List.contains_iff_mem]
    split
    · exact sound.distinctRules
    · next absent =>
        refine List.nodup_append.mpr ⟨sound.distinctRules, by simp, ?_⟩
        intro rule member other isToken equal
        rw [List.mem_singleton.mp isToken] at equal
        exact absent (equal ▸ member)
  requiredToken := by
    have before := sound.requiredToken
    simp only [Facets.addToken, List.contains_iff_mem, Bool.or_eq_true, beq_iff_eq, before]
    split
    · next present =>
        constructor
        · rintro (member | rfl)
          · exact member
          · exact present
        · exact Or.inl
    · simp [eq_comm]
  readablePattern := sound.readablePattern
  distinctAttributes := sound.distinctAttributes

theorem Sound.addTokens {facets : Facets} (sound : facets.Sound primary) (tokens : List String) :
    (facets.addTokens tokens).Sound primary := by
  induction tokens generalizing facets with
  | nil =>
      exact sound
  | cons token rest inductionHypothesis =>
      exact inductionHypothesis (sound.addToken token)

theorem Sound.setRequired {facets : Facets} (sound : facets.Sound primary) (required : Bool) :
    (facets.setRequired required).Sound primary := by
  cases required with
  | true =>
      exact sound.addToken "required"
  | false =>
      have gone : Text.startsWith "required" "required" = true := by
        decide
      exact {
        samePrimary := by
          simp [Facets.setRequired, sound.samePrimary]
        distinctRules := sound.distinctRules.filter _
        requiredToken := by
          simp [Facets.setRequired, gone]
        readablePattern := sound.readablePattern
        distinctAttributes := sound.distinctAttributes }

theorem Sound.setNullable {facets : Facets} (sound : facets.Sound primary) (nullable : Bool) :
    (facets.setNullable nullable).Sound primary := by
  cases nullable with
  | true =>
      have retyped :
          ({ facets with declared := facets.declared.withNull } : Facets).Sound primary :=
        sound.congr (by simp) rfl rfl rfl rfl
      exact retyped.addToken "nullable"
  | false =>
      exact {
        samePrimary := by
          simp [Facets.setNullable, sound.samePrimary]
        distinctRules := sound.distinctRules.filter _
        requiredToken := by
          simp [Facets.setNullable, sound.requiredToken]
        readablePattern := sound.readablePattern
        distinctAttributes := sound.distinctAttributes }

private theorem Sound.putAttribute {facets : Facets} (sound : facets.Sound primary) (key : String)
    (value : Value) :
    ({ facets with attributes := facets.attributes.put key value } : Facets).Sound primary where
  samePrimary := sound.samePrimary
  distinctRules := sound.distinctRules
  requiredToken := sound.requiredToken
  readablePattern := sound.readablePattern
  distinctAttributes := sound.distinctAttributes.put key value

theorem Sound.addConditional {facets : Facets} (sound : facets.Sound primary)
    (rule : ConditionalRule) :
    (facets.addConditional rule).Sound primary :=
  sound.congr rfl rfl rfl rfl rfl

theorem Sound.setPattern {facets changed : Facets} (sound : facets.Sound primary) {pattern : Value}
    (set : facets.setPattern pattern = .ok changed) : changed.Sound primary := by
  obtain ⟨read, isRead, isSet⟩ := Outcome.bind_eq_ok_iff.mp set
  cases isSet
  refine ⟨sound.samePrimary, sound.distinctRules, sound.requiredToken, ?_, sound.distinctAttributes⟩
  intro source isText
  cases pattern with
  | text given =>
      cases isText
      exact ⟨read, isRead⟩
  | _ =>
      cases isText

/-- What an all-or-nothing change leaves behind is the old state or the new one. -/
theorem Sound.atomic {facets : Facets} (sound : facets.Sound primary) {result : Except Error Facets}
    (changed : ∀ after, result = .ok after → after.Sound primary) :
    (Change.atomic facets result).state.Sound primary :=
  Change.state_atomic sound changed

theorem Sound.addSiblingRule {facets : Facets} (sound : facets.Sound primary)
    (rule : List Value → ConditionalRule) (tokenName : String) (siblings : Value) :
    (facets.addSiblingRule rule tokenName siblings).state.Sound primary := by
  unfold Facets.addSiblingRule
  split
  · exact sound
  · next names named =>
      split
      · exact sound.addConditional (rule names)
      · exact (sound.addConditional (rule names)).addToken _

theorem Sound.addFieldValueRule {facets changed : Facets} (sound : facets.Sound primary)
    {tokenName ruleName : String} {field value : Value}
    (added : facets.addFieldValueRule tokenName ruleName field value = .ok changed) :
    changed.Sound primary := by
  obtain ⟨token, _, isAdded⟩ := Outcome.bind_eq_ok_iff.mp added
  cases isAdded
  exact (sound.addConditional _).addToken token

/-- No edit makes facets unsound, not even one that fails. -/
theorem Sound.edit {facets : Facets} (sound : facets.Sound primary) (edit : Facets.Edit) :
    (edit.apply facets).state.Sound primary := by
  cases edit with
  | setName name => exact sound.congr rfl rfl rfl rfl rfl
  | setDescription description => exact sound.congr rfl rfl rfl rfl rfl
  | setDefault default => exact sound.congr rfl rfl rfl rfl rfl
  | setFormat format => exact sound.congr rfl rfl rfl rfl rfl
  | setMinimum bound => exact sound.congr rfl rfl rfl rfl rfl
  | setMaximum bound => exact sound.congr rfl rfl rfl rfl rfl
  | setReference reference => exact sound.congr rfl rfl rfl rfl rfl
  | addRule rule =>
      apply sound.atomic
      intro after added
      cases rule with
      | text token =>
          cases added
          exact sound.addToken token
      | _ =>
          cases added
  | addRules rules =>
      apply sound.atomic
      intro after added
      obtain ⟨tokens, _, rfl⟩ := Outcome.map_eq_ok_iff.mp added
      exact sound.addTokens tokens
  | setRequired required => exact sound.setRequired required
  | setNullable nullable => exact sound.setNullable nullable
  | addAttribute key value =>
      apply sound.atomic
      intro after added
      simp only [Facets.addAttribute] at added
      split at added
      · cases added
        exact sound.putAttribute _ value
      · cases added
  | setChoices choices =>
      apply sound.atomic
      intro after set
      obtain ⟨parts, _, isSet⟩ := Outcome.bind_eq_ok_iff.mp set
      cases isSet
      exact sound.putAttribute "enum" (.list parts)
  | setPattern pattern =>
      exact sound.atomic fun after set => sound.setPattern set
  | addWhen condition value rules =>
      apply sound.atomic
      intro after added
      obtain ⟨rule, _, rfl⟩ := addWhen_eq_ok added
      exact sound.addConditional rule
  | addWhenMatches field source rules =>
      apply sound.atomic
      intro after added
      obtain ⟨rule, _, rfl⟩ := addWhenMatches_eq_ok added
      exact sound.addConditional rule
  | addWhenCompares field operator operand rules =>
      apply sound.atomic
      intro after added
      obtain ⟨rule, _, rfl⟩ := addWhenCompares_eq_ok added
      exact sound.addConditional rule
  | addRequiredWith siblings => exact sound.addSiblingRule _ _ siblings
  | addRequiredWithout siblings => exact sound.addSiblingRule _ _ siblings
  | addRequiredIf field value =>
      exact sound.atomic fun after added => sound.addFieldValueRule added
  | addProhibitedIf field value =>
      exact sound.atomic fun after added => sound.addFieldValueRule added

theorem sound_new {facets : Facets} (noRules : facets.rules = [])
    (notRequired : facets.isRequired = false) (noPattern : facets.pattern = none)
    (distinct : facets.attributes.Distinct) : facets.Sound facets.declared.primary where
  samePrimary := rfl
  distinctRules := by
    simp [noRules]
  requiredToken := by
    simp [noRules, notRequired]
  readablePattern := by
    simp [noPattern]
  distinctAttributes := distinct

end Facets

/-- What no edit of a property breaks at its root. -/
structure Node.Sound (node : Node Property) : Prop where
  facets : node.facets.Sound node.facets.declared.primary
  children : node.children ≠ [] → node.facets.declared.primary = "object"
  items : node.items ≠ none → node.facets.declared.primary = "array"

namespace Node

variable {Ref : Type} {node changed : Node Ref}

/-- A change of what is nested in a node, where its primary type has a place for that. -/
inductive Nests (node : Node Ref) : Node Ref → Prop
  | children (isObject : node.facets.declared.primary = "object")
      (children : Fields (Child Ref) Name) : Nests node { node with children := children }
  | items (isArray : node.facets.declared.primary = "array") (items : Child Ref) :
      Nests node { node with items := some items }

theorem Nests.facets_eq (nests : node.Nests changed) : changed.facets = node.facets := by
  cases nests with
  | children => rfl
  | items => rfl

theorem nests_addChild {name : Value} {ref : Ref} (added : node.addChild name ref = .ok changed) :
    node.Nests changed := by
  obtain ⟨_, isObject, rest⟩ := Outcome.bind_eq_ok_iff.mp added
  obtain ⟨key, _, isAdded⟩ := Outcome.bind_eq_ok_iff.mp rest
  cases isAdded
  exact .children (Property.requirePrimary_eq_ok isObject) _

theorem nests_setChildren {view : Value → Offered Ref} {offered : Fields (Offered Ref) Name}
    (set : node.setChildren view offered = .ok changed) : node.Nests changed := by
  obtain ⟨_, isObject, rest⟩ := Outcome.bind_eq_ok_iff.mp set
  obtain ⟨children, _, isSet⟩ := Outcome.bind_eq_ok_iff.mp rest
  cases isSet
  exact .children (Property.requirePrimary_eq_ok isObject) children

theorem nests_adoptChildren {refs : Fields Ref Name}
    (adopted : node.adoptChildren refs = .ok changed) : node.Nests changed := by
  obtain ⟨_, isObject, isAdopted⟩ := Outcome.bind_eq_ok_iff.mp adopted
  cases isAdopted
  exact .children (Property.requirePrimary_eq_ok isObject) _

theorem nests_setItems {offered : Offered Ref} (set : node.setItems offered = .ok changed) :
    node.Nests changed := by
  obtain ⟨_, isArray, rest⟩ := Outcome.bind_eq_ok_iff.mp set
  cases offered with
  | property ref =>
      cases rest
      exact .items (Property.requirePrimary_eq_ok isArray) _
  | value given =>
      obtain ⟨fields, _, isSet⟩ := Outcome.bind_eq_ok_iff.mp rest
      cases isSet
      exact .items (Property.requirePrimary_eq_ok isArray) _

theorem Sound.nests {node changed : Node Property} (sound : node.Sound)
    (nests : node.Nests changed) : changed.Sound := by
  cases nests with
  | children isObject children =>
      exact ⟨sound.facets, fun _ => isObject, sound.items⟩
  | items isArray items =>
      exact ⟨sound.facets, sound.children, fun _ => isArray⟩

end Node

namespace Offered

private theorem property_of_toChildren {offered : Fields (Offered Property) Name}
    {children : Fields (Child Property) Name} {name : Name} {nested : Property}
    (taken : toChildren offered = .ok children) (member : (name, .property nested) ∈ children) :
    ∃ key, (key, .property nested) ∈ offered := by
  induction offered generalizing children with
  | nil =>
      cases taken
      cases member
  | cons entry rest inductionHypothesis =>
      obtain ⟨key, first⟩ := entry
      obtain ⟨child, isChild, tail⟩ := Outcome.bind_eq_ok_iff.mp taken
      obtain ⟨others, areOthers, isWhole⟩ := Outcome.bind_eq_ok_iff.mp tail
      cases isWhole
      rcases List.mem_cons.mp member with here | later
      · cases here
        cases first with
        | property ref =>
            cases isChild
            exact ⟨_, List.mem_cons_self⟩
        | value given =>
            cases given <;> cases isChild
      · obtain ⟨found, isOffered⟩ := inductionHypothesis areOthers later
        exact ⟨found, List.mem_cons_of_mem _ isOffered⟩

end Offered

namespace Property

def Sound : Property → Prop :=
  Every Node.Sound

/-- A property without nested properties is sound when its facets are. -/
theorem sound_leaf {facets : Facets} (sound : facets.Sound facets.declared.primary) :
    (leaf facets).Sound := by
  apply every_mk
  · exact ⟨sound, fun nonempty => absurd rfl nonempty, fun some => absurd rfl some⟩
  · intro name nested member
    cases member
  · intro nested isItems
    cases isItems

/-- Other facets of the same primary type leave the root of a property sound. -/
theorem sound_node_withFacets {property : Property} (sound : property.node.Sound) {facets : Facets}
    (changed : facets.Sound property.facets.declared.primary) :
    (property.node.withFacets facets).Sound := by
  refine ⟨?_, fun nonempty => ?_, fun some => ?_⟩
  · rw [← changed.samePrimary] at changed
    exact changed
  · exact changed.samePrimary.trans (sound.children nonempty)
  · exact changed.samePrimary.trans (sound.items some)

/-- Other facets of the same primary type leave a property sound. -/
theorem Sound.withFacets {property : Property} (sound : property.Sound) {facets : Facets}
    (changed : facets.Sound property.facets.declared.primary) :
    (ofNode (property.node.withFacets facets)).Sound :=
  every_mk (sound_node_withFacets sound.here changed) (fun _ _ member => sound.child member)
    fun _ isItems => sound.items isItems

/-! ## Edits -/

section

/-- After a change, a nested property is one that was there before or one of some parts. -/
structure NestsFrom (parts : List Property) (property after : Property) : Prop where
  children : ∀ name nested, (name, .property nested) ∈ after.children →
    (∃ key, (key, .property nested) ∈ property.children) ∨ nested ∈ parts
  items : ∀ nested, after.items = some (.property nested) →
    property.items = some (.property nested) ∨ nested ∈ parts

variable {parts : List Property} {property : Property}

theorem NestsFrom.of_same {after : Property} (children : after.children = property.children)
    (items : after.items = property.items) : NestsFrom parts property after where
  children := by
    intro name nested member
    exact .inl ⟨name, children ▸ member⟩
  items := by
    intro nested isItems
    exact .inl (items ▸ isItems)

theorem NestsFrom.withChildren {children : Fields (Child Property) Name}
    (nests : ∀ name nested, (name, .property nested) ∈ children →
      (∃ key, (key, .property nested) ∈ property.children) ∨ nested ∈ parts) :
    NestsFrom parts property (ofNode { property.node with children := children }) where
  children := nests
  items := fun _ isItems => .inl isItems

theorem NestsFrom.atomic {outcome : Except Error (Node Property)}
    (nests : ∀ node, outcome = .ok node → NestsFrom parts property (ofNode node)) :
    NestsFrom parts property (Change.atomic property (outcome.map ofNode)).state := by
  refine Change.state_atomic (.of_same rfl rfl) fun after changed => ?_
  obtain ⟨node, isNode, rfl⟩ := Outcome.map_eq_ok_iff.mp changed
  exact nests node isNode

theorem Edit.nestsFrom (edit : Edit) (property : Property) :
    NestsFrom edit.parts property (edit.apply property).state := by
  cases edit with
  | facets inner =>
      exact .of_same rfl rfl
  | addChild child =>
      apply NestsFrom.atomic
      intro node added
      obtain ⟨_, _, rest⟩ := Outcome.bind_eq_ok_iff.mp added
      obtain ⟨key, _, isAdded⟩ := Outcome.bind_eq_ok_iff.mp rest
      cases isAdded
      apply NestsFrom.withChildren
      intro name nested member
      rcases Fields.mem_put member with ⟨_, new⟩ | old
      · rw [Child.property.inj new]
        exact .inr (List.mem_singleton_self child)
      · exact .inl ⟨name, old⟩
  | setChildren offered =>
      apply NestsFrom.atomic
      intro node set
      obtain ⟨_, _, rest⟩ := Outcome.bind_eq_ok_iff.mp set
      obtain ⟨children, taken, isSet⟩ := Outcome.bind_eq_ok_iff.mp rest
      cases isSet
      apply NestsFrom.withChildren
      intro name nested member
      obtain ⟨key, isOffered⟩ := Offered.property_of_toChildren taken member
      split at isOffered
      · -- The document of an object holds values only.
        obtain ⟨field, _, isValue⟩ := List.mem_map.mp isOffered
        cases isValue
      · exact .inr (List.mem_filterMap.mpr ⟨_, isOffered, rfl⟩)
  | setItems offered =>
      apply NestsFrom.atomic
      intro node set
      obtain ⟨_, _, rest⟩ := Outcome.bind_eq_ok_iff.mp set
      cases offered with
      | property ref =>
          cases rest
          refine ⟨fun name nested member => .inl ⟨name, member⟩, fun nested isItems => ?_⟩
          cases isItems
          exact .inr (List.mem_singleton_self ref)
      | value given =>
          obtain ⟨fields, _, isSet⟩ := Outcome.bind_eq_ok_iff.mp rest
          cases isSet
          refine ⟨fun name nested member => .inl ⟨name, member⟩, fun nested isItems => ?_⟩
          cases isItems
  | adoptChildren collected =>
      apply NestsFrom.atomic
      intro node adopted
      obtain ⟨_, _, isAdopted⟩ := Outcome.bind_eq_ok_iff.mp adopted
      cases isAdopted
      apply NestsFrom.withChildren
      intro name nested member
      rcases Fields.mem_putAll member with ⟨key, new⟩ | old
      · obtain ⟨entry, isCollected, same⟩ := List.mem_map.mp new
        cases same
        exact .inr (List.mem_map.mpr ⟨entry, isCollected, rfl⟩)
      · exact .inl ⟨name, old⟩

end

/-- An all-or-nothing change of a node keeps its root sound. -/
theorem sound_node_atomic {property : Property} (sound : property.node.Sound)
    {outcome : Except Error (Node Property)}
    (changed : ∀ node, outcome = .ok node → node.Sound) :
    (Change.atomic property (outcome.map ofNode)).state.node.Sound := by
  have kept := @Change.state_atomic Property property (outcome.map ofNode)
    fun after => after.node.Sound
  refine kept sound fun after isChanged => ?_
  obtain ⟨node, isNode, rfl⟩ := Outcome.map_eq_ok_iff.mp isChanged
  exact changed node isNode

/-- No edit breaks the root of a property, not even one that fails. -/
theorem sound_node_apply {property : Property} (sound : property.node.Sound) (edit : Edit) :
    (edit.apply property).state.node.Sound := by
  cases edit with
  | facets inner =>
      exact sound_node_withFacets sound (sound.facets.edit inner)
  | addChild child =>
      exact sound_node_atomic sound fun _ added => sound.nests (Node.nests_addChild added)
  | setChildren offered =>
      exact sound_node_atomic sound fun _ set => sound.nests (Node.nests_setChildren set)
  | setItems offered =>
      exact sound_node_atomic sound fun _ set => sound.nests (Node.nests_setItems set)
  | adoptChildren collected =>
      exact sound_node_atomic sound fun _ adopted => sound.nests (Node.nests_adoptChildren adopted)

/-- No edit makes a property unsound that brings in sound properties only, not even one that
fails. -/
theorem Sound.edit {property : Property} (sound : property.Sound) (edit : Edit)
    (parts : ∀ part ∈ edit.parts, part.Sound) : (edit.apply property).state.Sound := by
  have nests := edit.nestsFrom property
  refine every_intro (sound_node_apply sound.here edit) ?_ ?_
  · intro name nested member
    rcases nests.children name nested member with ⟨key, old⟩ | isPart
    · exact sound.child old
    · exact parts nested isPart
  · intro nested isItems
    rcases nests.items nested isItems with old | isPart
    · exact sound.items old
    · exact parts nested isPart

/-- Whatever edits make of sound properties is sound. -/
theorem Reachable.sound {origin : Property → Prop}
    (start : ∀ property, origin property → property.Sound)
    {property : Property} (reachable : Reachable origin property) : property.Sound := by
  induction reachable with
  | origin isOrigin =>
      exact start _ isOrigin
  | edit edit _ _ inductionHypothesis partsHypothesis =>
      exact inductionHypothesis.edit edit partsHypothesis
  | @child facets before after name nested changed items _ _ whole part =>
      have nonempty : before ++ (name, Child.property nested) :: after ≠ [] := by
        simp
      refine every_mk ⟨whole.here.facets, fun _ => whole.here.children nonempty,
        whole.here.items⟩ ?_ fun _ isItems => whole.items isItems
      intro key child member
      rcases List.mem_append.mp member with early | late
      · exact whole.child (List.mem_append_left _ early)
      · rcases List.mem_cons.mp late with here | later
        · cases here
          exact part
        · exact whole.child (List.mem_append_right _ (List.mem_cons_of_mem _ later))
  | @items facets children nested changed _ _ whole part =>
      refine every_mk ⟨whole.here.facets, whole.here.children,
        fun _ => whole.here.items (by simp [node, Property.items])⟩
        (fun _ _ member => whole.child member) ?_
      intro child isItems
      cases isItems
      exact part

end Property
end RecordSchema
