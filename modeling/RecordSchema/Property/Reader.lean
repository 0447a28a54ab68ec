import RecordSchema.Property.Basic
import RecordSchema.Value.Weight

/-!
# Reading properties from documents

A document may come from a property or be written by hand.  Every entry is optional, a name
inside the document wins over the one it is read under, and entries without a meaning of their
own become attributes.  Nested schemas are read as properties as well.
-/

namespace RecordSchema

/-- The entries that have a meaning of their own in the document of a property. -/
def documentKeys : List String :=
  ["name", "type", "description", "default", "rules", "required", "format", "pattern",
   "minimum", "maximum", "$ref", "properties", "items", "conditionalRules"]

namespace Facets

def entry (fields : Fields Value) (name : String) : Value :=
  (fields.get? name).getD .null

/-- The declared type in a document, a text when there is none. -/
def declaredIn (fields : Fields Value) : Except Error SchemaType :=
  match fields.get? "type" with
  | none => .ok (.single "string")
  | some declared => SchemaType.ofDocument declared

/-- Set the pattern of a document, if it has one. -/
def patternFrom (facets : Facets) : Value → Except Error Facets
  | .null => .ok facets
  | pattern => facets.setPattern pattern

/-- The facets in a document, apart from conditional rules and attributes. -/
def ofFields (name : Value) (fields : Fields Value) : Except Error Facets := do
  let facets : Facets := {
    name := (fields.get? "name").getD name
    declared := ← declaredIn fields
    description := entry fields "description"
    default := entry fields "default" }
  let facets ← facets.addRules (entry fields "rules")
  let facets := if (entry fields "required").isTruthy then facets.setRequired true else facets
  let facets ← { facets with format := entry fields "format" }.patternFrom
    (entry fields "pattern")
  return { facets with
    minimum := entry fields "minimum"
    maximum := entry fields "maximum"
    reference := entry fields "$ref" }

def conditionalsOf : List Value → Except Error (List ConditionalRule)
  | [] => .ok []
  | document :: rest => do
    let rule ← ConditionalRule.ofDocument document
    return rule :: (← conditionalsOf rest)

/-- Add the conditional rules of a document, and its other entries as attributes. -/
def addRest (facets : Facets) (fields : Fields Value) : Except Error Facets := do
  let documents ← ((entry fields "conditionalRules").orElse (.list [])).parts
  let conditionals ← conditionalsOf documents
  let others := fields.filter fun field => !documentKeys.contains field.1
  return { facets with
    conditionals := facets.conditionals ++ conditionals
    attributes := facets.attributes.putAll others }

end Facets

namespace Property

def itemName (fields : Fields Value) : Value :=
  (fields.get? "name").getD (.text "item")

/-- Give an object the children that have been read for it, if there are any. -/
def withChildren (node : Node Property) :
    Option (Fields (Child Property) Name) → Except Error (Node Property)
  | none => .ok node
  | some children => do
    node.requirePrimary "object" .childrenOnNonObject
    return { node with children := children }

/-- Give an array the schema of its items, if one has been read. -/
def withItems (node : Node Property) : Option Property → Except Error (Node Property)
  | none => .ok node
  | some items => do
    node.requirePrimary "array" .itemsOnNonArray
    return { node with items := some (.property items) }

mutual

def ofDocument (name document : Value) : Except Error Property :=
  match _ : document.toFields with
  | .error error => .error error
  | .ok fields => do
    let node : Node Property := ⟨← Facets.ofFields name fields, [], none⟩
    let node ← withChildren node <| ← match _ : fields.get? "properties" with
      | some (.map (first :: rest)) => (childrenOf (first :: rest)).map some
      | some other => if other.isTruthy then .error .noSuchMember else .ok none
      | none => .ok none
    let node ← withItems node <| ← match _ : fields.get? "items" with
      | some (.map entries) => (ofDocument (itemName entries) (.map entries)).map some
      | some .null => .ok none
      | some _ => .error .noSuchMember
      | none => .ok none
    return ofNode (node.withFacets (← node.facets.addRest fields))
termination_by document.weight
decreasing_by
  · exact Value.weight_lt_of_toFields ‹document.toFields = _› ‹_›
  · have lighter := Value.weight_lt_of_toFields ‹document.toFields = _› ‹_›
    simp only [Value.weight] at lighter
    omega

def childrenOf (entries : Fields Value) : Except Error (Fields (Child Property) Name) :=
  match entries with
  | [] => .ok []
  | (name, document) :: rest => do
    let child ← ofDocument (.text name) document
    return (.text name, .property child) :: (← childrenOf rest)
termination_by Value.entryWeights entries
decreasing_by
  · simp only [Value.entryWeights]
    omega
  · simp only [Value.entryWeights]
    omega

end

end Property
end RecordSchema
