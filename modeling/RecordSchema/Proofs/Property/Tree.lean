import RecordSchema.Property.Basic

/-!
# Trees of properties

Induction over the properties that are nested in a property, and features that a property shares
with everything nested in it.
-/

namespace RecordSchema.Property

private theorem sizeOf_child {facets : Facets} {children : List (Name × Child Property)}
    {items : Option (Child Property)} {name : Name} {nested : Property}
    (member : (name, .property nested) ∈ children) :
    sizeOf nested < sizeOf (Property.mk facets children items) := by
  have below := List.sizeOf_lt_of_mem member
  simp only [Prod.mk.sizeOf_spec, Child.property.sizeOf_spec] at below
  simp only [mk.sizeOf_spec]
  omega

private theorem sizeOf_items {facets : Facets} {children : List (Name × Child Property)}
    {nested : Property} :
    sizeOf nested < sizeOf (Property.mk facets children (some (.property nested))) := by
  simp only [mk.sizeOf_spec, Option.some.sizeOf_spec, Child.property.sizeOf_spec]
  omega

/-- What holds of a property when it holds of its children and its items, holds of every
property. -/
theorem induction {motive : Property → Prop}
    (step : ∀ facets children items,
      (∀ name nested, (name, .property nested) ∈ children → motive nested) →
      (∀ nested, items = some (.property nested) → motive nested) →
      motive (.mk facets children items)) :
    ∀ property, motive property
  | .mk facets children items => by
      apply step
      · intro name nested member
        exact induction step nested
      · intro nested isItems
        exact induction step nested
termination_by property => sizeOf property
decreasing_by
  · exact sizeOf_child member
  · subst isItems
    exact sizeOf_items

/-- A property is nested in another one, at any depth, or is that property itself. -/
inductive Within : Property → Property → Prop
  | self (property : Property) : Within property property
  | child {part property nested : Property} {name : Name} :
      (name, .property nested) ∈ property.children →
      Within part nested → Within part property
  | items {part property nested : Property} :
      property.items = some (.property nested) →
      Within part nested → Within part property

/-- A feature of a part is one of the property itself, or of a part of something nested in it. -/
theorem exists_within_iff {feature : Property → Prop} {property : Property} :
    (∃ part, Within part property ∧ feature part) ↔
      feature property ∨
      (∃ name nested, (name, .property nested) ∈ property.children ∧
        ∃ part, Within part nested ∧ feature part) ∨
      ∃ nested, property.items = some (.property nested) ∧
        ∃ part, Within part nested ∧ feature part := by
  constructor
  · rintro ⟨part, within, held⟩
    cases within with
    | self =>
        exact .inl held
    | child member inner =>
        exact .inr (.inl ⟨_, _, member, part, inner, held⟩)
    | items isItems inner =>
        exact .inr (.inr ⟨_, isItems, part, inner, held⟩)
  · rintro (held | ⟨name, nested, member, part, inner, held⟩ | ⟨nested, isItems, part, inner, held⟩)
    · exact ⟨_, .self _, held⟩
    · exact ⟨part, .child member inner, held⟩
    · exact ⟨part, .items isItems inner, held⟩

def Every (feature : Node Property → Prop) (property : Property) : Prop :=
  ∀ part, Within part property → feature part.node

variable {feature : Node Property → Prop}

theorem Every.here {property : Property} (every : Every feature property) :
    feature property.node :=
  every property (.self property)

theorem Every.child {property nested : Property} {name : Name}
    (every : Every feature property) (member : (name, .property nested) ∈ property.children) :
    Every feature nested :=
  fun part within => every part (.child member within)

theorem Every.items {property nested : Property}
    (every : Every feature property) (isItems : property.items = some (.property nested)) :
    Every feature nested :=
  fun part within => every part (.items isItems within)

theorem every_intro {property : Property} (here : feature property.node)
    (ofChildren : ∀ name nested, (name, .property nested) ∈ property.children →
      Every feature nested)
    (ofItems : ∀ nested, property.items = some (.property nested) → Every feature nested) :
    Every feature property := by
  intro part within
  cases within with
  | self =>
      exact here
  | child member inner =>
      exact ofChildren _ _ member part inner
  | items isItems inner =>
      exact ofItems _ isItems part inner

theorem every_mk {facets : Facets} {children : List (Name × Child Property)}
    {items : Option (Child Property)}
    (here : feature ⟨facets, children, items⟩)
    (ofChildren : ∀ name nested, (name, .property nested) ∈ children → Every feature nested)
    (ofItems : ∀ nested, items = some (.property nested) → Every feature nested) :
    Every feature (.mk facets children items) :=
  every_intro here ofChildren ofItems

end RecordSchema.Property
