import RecordSchema.Property.Preset
import RecordSchema.Property.Reader
import RecordSchema.Proofs.Outcome
import RecordSchema.Proofs.Property.Tree

/-!
# Edits of properties

All the ways to change a property, as data, and the properties that can be made: those that are
declared, come from a preset or are read from a document, and whatever edits make of them.  A nested
property is shared with whoever made it and may change later, so a property that can be made may
take its place.
-/

namespace RecordSchema

/-- A change of what a property says about itself. -/
inductive Facets.Edit where
  | setName (name : Value)
  | setDescription (description : Value)
  | setDefault (default : Value)
  | setFormat (format : Value)
  | setMinimum (bound : Value)
  | setMaximum (bound : Value)
  | setReference (reference : Value)
  | addRule (rule : Value)
  | addRules (rules : Value)
  | setRequired (required : Bool)
  | setNullable (nullable : Bool)
  | addAttribute (key value : Value)
  | setChoices (choices : Value)
  | setPattern (pattern : Value)
  | addWhen (condition value rules : Value)
  | addWhenMatches (field source rules : Value)
  | addWhenCompares (field operator operand rules : Value)
  | addRequiredWith (siblings : Value)
  | addRequiredWithout (siblings : Value)
  | addRequiredIf (field value : Value)
  | addProhibitedIf (field value : Value)

def Facets.Edit.apply (facets : Facets) : Facets.Edit → Change Facets
  | .setName name => .done { facets with name := name }
  | .setDescription description => .done { facets with description := description }
  | .setDefault default => .done { facets with default := default }
  | .setFormat format => .done { facets with format := format }
  | .setMinimum bound => .done { facets with minimum := bound }
  | .setMaximum bound => .done { facets with maximum := bound }
  | .setReference reference => .done { facets with reference := reference }
  | .addRule rule => .atomic facets (facets.addRule rule)
  | .addRules rules => .atomic facets (facets.addRules rules)
  | .setRequired required => .done (facets.setRequired required)
  | .setNullable nullable => .done (facets.setNullable nullable)
  | .addAttribute key value => .atomic facets (facets.addAttribute key value)
  | .setChoices choices => .atomic facets (facets.setChoices choices)
  | .setPattern pattern => .atomic facets (facets.setPattern pattern)
  | .addWhen condition value rules => .atomic facets (facets.addWhen condition value rules)
  | .addWhenMatches field source rules =>
    .atomic facets (facets.addWhenMatches field source rules)
  | .addWhenCompares field operator operand rules =>
    .atomic facets (facets.addWhenCompares field operator operand rules)
  | .addRequiredWith siblings => facets.addRequiredWith siblings
  | .addRequiredWithout siblings => facets.addRequiredWithout siblings
  | .addRequiredIf field value => .atomic facets (facets.addRequiredIf field value)
  | .addProhibitedIf field value => .atomic facets (facets.addProhibitedIf field value)

/-! ## Rules under conditions -/

/-- The rule that an edit attaches under a condition on the record. -/
inductive Facets.Edit.Attaches : Facets.Edit → ConditionalRule → Prop
  | closure {identity : Nat} {value rules : Value} {tokens : List String} :
      Rule.normalize (orNext rules value) = .ok tokens →
      Attaches (.addWhen (.closure identity) value rules) (.closure identity tokens)
  | allFields {condition value rules : Value} {expected : Fields Value Name}
      {tokens : List String} :
      condition.mapping? = some expected → Rule.normalize (orNext rules value) = .ok tokens →
      Attaches (.addWhen condition value rules) (.allFields expected tokens)
  | equality {name : String} {value rules : Value} {tokens : List String} :
      Rule.normalize rules = .ok tokens →
      Attaches (.addWhen (.text name) value rules) (.equality (.text name) value tokens)
  | pattern {field source rules : Value} {pattern : Pattern} {tokens : List String} :
      Pattern.ofValue source = .ok pattern → Rule.normalize rules = .ok tokens →
      Attaches (.addWhenMatches field source rules) (.pattern field source tokens)
  | comparison {field operator operand rules : Value} {tokens : List String} :
      Rule.normalize rules = .ok tokens →
      Attaches (.addWhenCompares field operator operand rules)
        (.comparison field operator operand tokens)

namespace Facets

variable {facets after : Facets}

theorem addWhen_eq_ok {condition value rules : Value}
    (added : facets.addWhen condition value rules = .ok after) :
    ∃ rule, Edit.Attaches (.addWhen condition value rules) rule ∧
      after = facets.addConditional rule := by
  unfold addWhen at added
  split at added
  · obtain ⟨tokens, normal, isAdded⟩ := Outcome.bind_eq_ok_iff.mp added
    cases isAdded
    exact ⟨_, .closure normal, rfl⟩
  · obtain ⟨tokens, normal, isAdded⟩ := Outcome.bind_eq_ok_iff.mp added
    cases isAdded
    exact ⟨_, .equality normal, rfl⟩
  · split at added
    · next expected isMap =>
        obtain ⟨tokens, normal, isAdded⟩ := Outcome.bind_eq_ok_iff.mp added
        cases isAdded
        exact ⟨_, .allFields isMap normal, rfl⟩
    · cases added

theorem addWhenMatches_eq_ok {field source rules : Value}
    (added : facets.addWhenMatches field source rules = .ok after) :
    ∃ rule, Edit.Attaches (.addWhenMatches field source rules) rule ∧
      after = facets.addConditional rule := by
  obtain ⟨pattern, read, afterRead⟩ := Outcome.bind_eq_ok_iff.mp added
  obtain ⟨tokens, normal, isAdded⟩ := Outcome.bind_eq_ok_iff.mp afterRead
  cases isAdded
  exact ⟨_, .pattern read normal, rfl⟩

theorem addWhenCompares_eq_ok {field operator operand rules : Value}
    (added : facets.addWhenCompares field operator operand rules = .ok after) :
    ∃ rule, Edit.Attaches (.addWhenCompares field operator operand rules) rule ∧
      after = facets.addConditional rule := by
  obtain ⟨tokens, normal, isAdded⟩ := Outcome.bind_eq_ok_iff.mp added
  cases isAdded
  exact ⟨_, .comparison normal, rfl⟩

end Facets

/-! ## Edits of trees -/

def Offered.property? : Offered Property → Option Property
  | .property nested => some nested
  | .value _ => none

namespace Property

/-- A change of a property. -/
inductive Edit where
  | facets (edit : Facets.Edit)
  | addChild (child : Property)
  | setChildren (offered : Fields (Offered Property) Name)
  | setItems (offered : Offered Property)
  | adoptChildren (collected : Fields Property Name)

namespace Edit

def apply (property : Property) : Edit → Change Property
  | .facets edit =>
    (edit.apply property.facets).lift fun facets => ofNode (property.node.withFacets facets)
  | .addChild child =>
    .atomic property ((property.node.addChild child.facets.name child).map ofNode)
  | .setChildren offered => .atomic property ((property.node.setChildren noView offered).map ofNode)
  | .setItems offered => .atomic property ((property.node.setItems offered).map ofNode)
  | .adoptChildren collected =>
    .atomic property ((property.node.adoptChildren collected).map ofNode)

def parts : Edit → List Property
  | .facets _ => []
  | .addChild child => [child]
  | .setChildren offered => offered.filterMap fun entry => entry.2.property?
  | .setItems offered => offered.property?.toList
  | .adoptChildren collected => collected.map (·.2)

end Edit

/-- A property that is declared, that a preset makes, or that is read from a document. -/
inductive Fresh : Property → Prop
  | declared {name type description : Value} {property : Property} :
      declare name type description = .ok property → Fresh property
  | preset {kind : String} {name description format : Value} {property : Property}
      {make : Value → Value → Value → Except Error Property} :
      preset? kind = some make → make name description format = .ok property → Fresh property
  | read {name document : Value} {property : Property} :
      ofDocument name document = .ok property → Fresh property

/-- A property that edits can make, starting from properties of some origin. -/
inductive Reachable (origin : Property → Prop) : Property → Prop
  | origin {property : Property} : origin property → Reachable origin property
  | edit {property : Property} (edit : Edit) :
      Reachable origin property →
      (∀ part ∈ edit.parts, Reachable origin part) →
      Reachable origin (edit.apply property).state
  | child {facets : Facets} {before after : List (Name × Child Property)} {name : Name}
      {nested changed : Property} {items : Option (Child Property)} :
      Reachable origin (.mk facets (before ++ (name, .property nested) :: after) items) →
      Reachable origin changed →
      Reachable origin (.mk facets (before ++ (name, .property changed) :: after) items)
  | items {facets : Facets} {children : List (Name × Child Property)}
      {nested changed : Property} :
      Reachable origin (.mk facets children (some (.property nested))) →
      Reachable origin changed →
      Reachable origin (.mk facets children (some (.property changed)))

end Property
end RecordSchema
