import RecordSchema.Property.Preset
import RecordSchema.Workspace.Basic

/-!
# Shared collections and the nesting of shared properties

Collections hold shared properties.  They can be handed to an object as its children, and an
object can be filled through a fresh collection.
-/

namespace RecordSchema.Workspace

/-! ## Collections -/

def members (number : Nat) : Action (Fields Nat Name) := do
  found (← get).collections[number]?

def setMembers (number : Nat) (members : Fields Nat Name) : Action Unit :=
  modify fun workspace =>
    { workspace with collections := workspace.collections.setIfInBounds number members }

def addCollection : Action Nat := do
  let number := (← get).collections.size
  modify fun workspace => { workspace with collections := workspace.collections.push [] }
  return number

def collect (collection property : Nat) : Action Unit := do
  let name ← checked (Name.ofValue (← node property).facets.name)
  let present ← members collection
  if present.has name then report [Collection.replacement name]
  setMembers collection (present.put name property)

/-- Add what values stand for, each of which has to be a property. -/
def collectAll (collection : Nat) : List Value → Action Unit
  | [] => pure ()
  | .handle .property number :: rest => do
    collect collection number
    collectAll collection rest
  | _ :: _ => throw .noSuchMember

def collectNew (collection : Nat) (property : Except Error Property) : Action Nat := do
  let number ← plant (← checked property)
  collect collection number
  return number

def collectionOf (properties : Value) : Action Nat := do
  let listed ← match properties with
    | .handle .builder number => do
      pure ((← members number).map fun entry => Value.handle .property entry.2)
    | given => checked (given.orElse (.list [])).parts
  let collection ← addCollection
  collectAll collection listed
  return collection

def memberTrees : Fields Nat Name → Action (Fields Property Name)
  | [] => pure []
  | (name, number) :: rest => do
    let tree ← property number
    return (name, tree) :: (← memberTrees rest)

def collectionDocument (number : Nat) : Action Value := do
  return .map (Collection.toDocument (← memberTrees (← members number)))

def readCollection (document : Value) : Action Nat := do
  report (Collection.readingLog document)
  let properties ← checked (Collection.ofDocument document)
  let collection ← addCollection
  let planted ← properties.mapM fun entry => do return (entry.1, ← plant entry.2)
  setMembers collection planted
  return collection

def copyMembers (collection : Nat) : Fields Nat Name → Action Unit
  | [] => pure ()
  | (name, number) :: rest => do
    let copied ← copy number
    setMembers collection ((← members collection).put name copied)
    copyMembers collection rest

/-- Copy the members of what a value stands for into a collection.  The members of properties
and schemas are documents, which cannot be copied. -/
def mergeCollection (collection : Nat) (other : Value) : Action Unit := do
  match other with
  | .handle .builder number => copyMembers collection (← members number)
  | .handle .property number =>
    if (← node number).children.isEmpty then pure () else throw .noSuchMember
  | .handle .compiler number =>
    let schema := (← found (← get).schemas[number]?).schema
    if schema.properties.isEmpty then pure () else throw .noSuchMember
  | _ => throw .noSuchMember

/-- Rename members one after the other, and give them with their new keys. -/
def renameMembers (start : String) : Fields Nat Name → Action (List (Name × Nat))
  | [] => pure []
  | (name, number) :: rest => do
    let key ← checked (name.withPrefix start)
    editFacets number fun facets => .done { facets with name := .text key }
    return (.text key, number) :: (← renameMembers start rest)

/-- Rename every member of a collection to its key with a text in front. -/
def prefixMembers (collection : Nat) (start : Value) : Action Unit := do
  let present ← members collection
  match start with
  | .text start =>
    setMembers collection (Fields.ofPairs (← renameMembers start present))
  | _ => if present.isEmpty then pure () else throw .wrongType

/-! ## Nesting -/

/-- The written form of the children of a property. -/
def childrenDocument (number : Nat) : Action (Fields Value) := do
  return Property.childEntries (← property number).children

def offer : Value → Offered Nat
  | .handle .property number => .property number
  | value => .value value

def offeredChildren : Value → Action (Fields (Offered Nat) Name)
  | .map entries => pure (Offered.ofFields offer entries)
  | .keyed entries => pure ((Fields.ofKeyed entries).map fun entry => (entry.1, offer entry.2))
  | .handle .builder number => do
    return (← members number).map fun entry => (entry.1, .property entry.2)
  | .handle .property number => do
    return Offered.ofFields .value (← childrenDocument number)
  | .handle .compiler number => do
    let schema := (← found (← get).schemas[number]?).schema
    return Offered.ofFields .value schema.properties.written
  | _ => throw .noSuchMember

def setChildren (number : Nat) (children : Value) : Action Unit := do
  checked ((← node number).requirePrimary "object" .childrenOnNonObject)
  let offered ← offeredChildren children
  editNode number fun node => node.setChildren offer offered

/-- Put a property among the children of an object. -/
def addChild (number : Nat) (child : Value) : Action Unit := do
  checked ((← node number).requirePrimary "object" .childOnNonObject)
  match child with
  | .handle .property ref =>
    let name := (← node ref).facets.name
    editNode number fun node => node.addChild name ref
  | _ => throw .noSuchMember

def setItems (number : Nat) (items : Value) : Action Unit :=
  editNode number fun node => node.setItems (offer items)

/-- Add children to an object through a fresh collection, which `fill` gets to fill. -/
def fillChildren (number : Nat) (fill : Nat → Action Unit) : Action Unit := do
  checked ((← node number).requirePrimary "object" .builderOnNonObject)
  let collection ← addCollection
  fill collection
  let present ← members collection
  editNode number fun node => node.adoptChildren present

/-- A new object in a collection, with children from a fresh collection. -/
def collectGroup (collection : Nat) (name description : Value) (fill : Nat → Action Unit) :
    Action Nat := do
  let number ← plant (Property.typed "object" name description)
  fillChildren number fill
  collect collection number
  return number

def collectArray (collection : Nat) (name description items : Value) : Action Nat := do
  let number ← plant (Property.typed "array" name description)
  setItems number items
  collect collection number
  return number

/-- A new object for the items of an array, with children from a fresh collection. -/
def filledItem (fill : Nat → Action Unit) : Action Value := do
  let number ← plant (Property.plain "object" "item")
  fillChildren number fill
  return .handle .property number

def addRuled (name declared rules : Value) : Action Nat := do
  let property ← checked (Property.declare name declared .null)
  plant (.leaf (← checked (property.facets.addRules rules)))

def memberNamed (collection : Nat) (name : Value) : Action Value := do
  let present ← members collection
  let key ← checked (Name.ofValue name)
  return ((present.get? key).map (Value.handle .property)).getD .null

/-- The names of the members themselves, which need not be their keys. -/
def memberNames (collection : Nat) : Action (List Value) := do
  (← members collection).mapM fun entry => do return (← node entry.2).facets.name

end RecordSchema.Workspace
