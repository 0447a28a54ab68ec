import RecordSchema.Property.Node

/-!
# Property trees

A property whose children and items are whole properties in turn, and its written form.
-/

namespace RecordSchema

/-- A property with everything that is nested in it. -/
inductive Property where
  | mk (facets : Facets) (children : List (Name × Child Property))
      (items : Option (Child Property))
  deriving Repr

namespace Property

def facets : Property → Facets
  | .mk facets _ _ => facets

def children : Property → Fields (Child Property) Name
  | .mk _ children _ => children

def items : Property → Option (Child Property)
  | .mk _ _ items => items

/-- The root with its subtrees in the place of references. -/
def node (property : Property) : Node Property :=
  ⟨property.facets, property.children, property.items⟩

/-- The tree with this root. -/
def ofNode (node : Node Property) : Property :=
  .mk node.facets node.children node.items

def leaf (facets : Facets) : Property :=
  .mk facets [] none

/-- Inside a tree, no value stands for a property. -/
def noView (value : Value) : Offered Property :=
  .value value

mutual

def entries : Property → Fields Value
  | .mk facets children items => facets.entries (childEntries children) (itemsDocument items)

/-- The written forms of the children under the texts of their names. -/
def childEntries : List (Name × Child Property) → Fields Value
  | [] => []
  | (name, child) :: rest => (name.value.keyText, childDocument child) :: childEntries rest

def itemsDocument : Option (Child Property) → Option Value
  | none => none
  | some child => some (childDocument child)

def childDocument : Child Property → Value
  | .property property => .map (entries property)
  | .document fields => .map fields

end

def toDocument (property : Property) : Value :=
  .map property.entries

end Property
end RecordSchema
