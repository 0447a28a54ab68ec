import RecordSchema.Property.Reader
import RecordSchema.Log

/-!
# Collections of properties

Properties under their names, in the order in which the names came.  A collection can be read
from documents and written to them.  The type of references is open, as it is for nodes: what is
collected are whole properties here, and numbers where properties are shared.
-/

namespace RecordSchema.Collection

/-- The written form of a collected property: the name stands outside, and the default last. -/
def entryOf (entries : Fields Value) : Fields Value :=
  let unnamed := entries.erase "name"
  match unnamed.get? "default" with
  | some default => unnamed.erase "default" ++ [("default", default)]
  | none => unnamed

def toDocument (properties : Fields Property Name) : Fields Value :=
  properties.written.map fun entry => (entry.1, .map (entryOf entry.2.entries))

/-- Add a property under its own name; a property that is there already under that name is
replaced. -/
def add (properties : Fields Property Name) (property : Property) :
    Except Error (Fields Property Name) := do
  return properties.put (← Name.ofValue property.facets.name) property

def replacement (name : Name) : LogRecord :=
  ⟨"schemacraft.builder", .debug, "Replacing property '" ++ name.toText ++ "'"⟩

/-- The log of adding properties of these names to a collection that has others already. -/
def replacements (present : List Name) : List Name → List LogRecord
  | [] => []
  | name :: rest =>
    if present.contains name then replacement name :: replacements present rest
    else replacements (name :: present) rest

/-- Take over the properties of another collection, which win. -/
def merge (properties others : Fields Property Name) : Fields Property Name :=
  properties.putAll others

def renamed (name : String) (property : Property) : Property :=
  .mk { property.facets with name := .text name } property.children property.items

/-- Rename properties to their keys with `start` in front, which have to be texts. -/
def renameAll (start : String) :
    Fields Property Name → Except Error (List (Name × Property))
  | [] => .ok []
  | (name, property) :: rest => do
    let key ← name.withPrefix start
    return (.text key, renamed key property) :: (← renameAll start rest)

/-- Rename every property to its key with `start` in front, and key it by that. -/
def withPrefix (start : String) (properties : Fields Property Name) :
    Except Error (Fields Property Name) := do
  return Fields.ofPairs (← renameAll start properties)

/-! ## Reading -/

def requiredIn (document : Value) : Except Error (List Value) := do
  let names ← ((← document.field "required").orElse (.list [])).parts
  if Value.allHashable names then return names else throw .wrongType

/-- The properties of a document with the names that it lists as required: those of an object
document, or the document itself as a mapping of names. -/
def sections (document : Value) : Except Error (Fields Value × List Value) := do
  let declared ← document.field "type"
  match ← document.field "properties" with
  | .map entries =>
    if declared.equals (.text "object") then return (entries, ← requiredIn document)
    else return ((document.map?).getD [], [])
  | _ => return ((document.map?).getD [], [])

def requiredBy (names : List Value) (key : String) (property : Property) : Property :=
  if names.any (Value.equals (.text key)) then
    .mk (property.facets.setRequired true) property.children property.items
  else property

/-- Read properties one after the other, each with its own name. -/
def readAll (required : List Value) : Fields Value → Change (List (Name × Property))
  | [] => .done []
  | (key, document) :: rest =>
    let read := do
      let property ← Property.ofDocument (.text key) document
      return (← Name.ofValue property.facets.name, requiredBy required key property)
    match read with
    | .error error => .failed [] error
    | .ok named => (readAll required rest).lift (named :: ·)

/-- Read the properties of a document in order, as far as they can be read. -/
def propertiesOf (document : Value) : Change (List (Name × Property)) :=
  match sections document with
  | .error error => .failed [] error
  | .ok (entries, required) => readAll required entries

def ofDocument (document : Value) : Except Error (Fields Property Name) :=
  let properties := propertiesOf document
  match properties.failure with
  | some error => .error error
  | none => .ok (Fields.ofPairs properties.state)

def readingLog (document : Value) : List LogRecord :=
  replacements [] (Fields.names (propertiesOf document).state)

end RecordSchema.Collection
