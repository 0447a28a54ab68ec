import RecordSchema.Value.Basic

/-!
# How deep properties are nested

The way down to the deepest property in the document of a property.
-/

namespace RecordSchema.Value

mutual

/-- The steps down to the deepest property in the document of a property: four to a child, three
to the schema of the items. -/
def propertySteps : Value → Nat
  | .map entries => entrySteps entries
  | _ => 0

/-- The steps down to the deepest property below the entries of a document. -/
def entrySteps : List (String × Value) → Nat
  | [] => 0
  | (name, value) :: rest =>
    let below :=
      if name = "properties" then childSteps value
      else if name = "items" then 3 + propertySteps value
      else 0
    max below (entrySteps rest)

/-- The steps down to the deepest property below children. -/
def childSteps : Value → Nat
  | .map children => childrenSteps children
  | _ => 0

/-- The steps down to the deepest property in a list of children. -/
def childrenSteps : List (String × Value) → Nat
  | [] => 0
  | (_, child) :: rest => max (4 + propertySteps child) (childrenSteps rest)

end

end RecordSchema.Value
