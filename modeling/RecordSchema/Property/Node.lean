import RecordSchema.Name
import RecordSchema.Property.Facets

/-!
# Nesting of properties

An object property has children under names, an array property has a schema for its items.  Both
are properties again, given by references of some type, or documents that are kept as they came.
The type of references is open: a finished tree has its subtrees there, a session its numbers.
-/

namespace RecordSchema

/-- A nested schema: a property, or a document that is kept as it came. -/
inductive Child (Ref : Type) where
  | property (ref : Ref)
  | document (fields : Fields Value)
  deriving Repr

/-- A property with what is nested in it. -/
structure Node (Ref : Type) where
  facets : Facets
  children : Fields (Child Ref) Name := []
  items : Option (Child Ref) := none
  deriving Repr

/-- What may be offered as a nested schema: a property, or any value. -/
inductive Offered (Ref : Type) where
  | property (ref : Ref)
  | value (given : Value)
  deriving Repr

namespace Offered

variable {Ref : Type}

def toChild (name : Name) : Offered Ref → Except Error (Child Ref)
  | .property ref => .ok (.property ref)
  | .value (.map fields) => .ok (.document fields)
  | .value (.keyed entries) => .ok (.document (Fields.ofKeyed entries).written)
  | .value _ => .error (.childNotSchema name.toText)

def toChildren : Fields (Offered Ref) Name → Except Error (Fields (Child Ref) Name)
  | [] => .ok []
  | (name, offered) :: rest => do
    let child ← offered.toChild name
    return (name, child) :: (← toChildren rest)

def objectFields? (entries : Fields (Offered Ref) Name) : Option (Fields Value) :=
  let isObject := match entries.get? (.text "type") with
    | some (.value (.text tag)) => tag == "object"
    | some (.value (.list tags)) => tags.any (·.equals (.text "object"))
    | _ => false
  match entries.get? (.text "properties") with
  | some (.value (.map fields)) => if isObject then some fields else none
  | _ => none

/-- What is offered inside a document, where a property can only stand as a value. -/
def ofFields (view : Value → Offered Ref) (fields : Fields Value) : Fields (Offered Ref) Name :=
  fields.named.map fun field => (field.1, view field.2)

end Offered

namespace Node

variable {Ref : Type}

/-- Change the facets, leaving what is nested alone. -/
def withFacets (node : Node Ref) (facets : Facets) : Node Ref :=
  { node with facets := facets }

/-- Nothing, unless the primary type is another than `tag`. -/
def requirePrimary (node : Node Ref) (tag : String) (error : Error) : Except Error Unit :=
  if node.facets.declared.primary = tag then .ok () else .error error

/-- Put a property among the children, under its name. -/
def addChild (node : Node Ref) (name : Value) (ref : Ref) : Except Error (Node Ref) := do
  node.requirePrimary "object" .childOnNonObject
  return { node with children := node.children.put (← Name.ofValue name) (.property ref) }

/-- Replace the children by those of a mapping.  The document of an object is unwrapped first,
so a child may be named `properties` itself. -/
def setChildren (node : Node Ref) (view : Value → Offered Ref)
    (offered : Fields (Offered Ref) Name) : Except Error (Node Ref) := do
  node.requirePrimary "object" .childrenOnNonObject
  let entries := match Offered.objectFields? offered with
    | some fields => Offered.ofFields view fields
    | none => offered
  return { node with children := ← Offered.toChildren entries }

def setItems (node : Node Ref) (offered : Offered Ref) : Except Error (Node Ref) := do
  node.requirePrimary "array" .itemsOnNonArray
  match offered with
  | .property ref => return { node with items := some (.property ref) }
  | .value given => return { node with items := some (.document (← given.toFields)) }

def adoptChildren (node : Node Ref) (refs : Fields Ref Name) : Except Error (Node Ref) := do
  node.requirePrimary "object" .builderOnNonObject
  let children : Fields (Child Ref) Name := refs.map fun entry => (entry.1, .property entry.2)
  return { node with children := node.children.putAll children }

end Node
end RecordSchema
