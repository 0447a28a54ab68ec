import RecordSchema.Change
import RecordSchema.Property.Type
import RecordSchema.Rule.Conditional

/-!
# The facets of a property

Everything that a property says about itself, without its children and its items: name, type,
rules, bounds, attributes and conditional rules.  Description, default, format, bounds and
reference are absent when they hold no value.
-/

namespace RecordSchema

/-- What a property says about itself. -/
structure Facets where
  name : Value
  declared : SchemaType
  description : Value := .null
  default : Value := .null
  rules : List String := []
  isRequired : Bool := false
  attributes : Fields Value := []
  format : Value := .null
  minimum : Value := .null
  maximum : Value := .null
  pattern : Option String := none
  reference : Value := .null
  conditionals : List ConditionalRule := []
  deriving Repr

namespace Facets

/-! ## Rules -/

/-- Add a token behind the others, unless it is there already.  The token `required` makes the
property required. -/
def addToken (facets : Facets) (token : String) : Facets :=
  { facets with
    rules := if facets.rules.contains token then facets.rules else facets.rules ++ [token]
    isRequired := facets.isRequired || token == "required" }

def addTokens (facets : Facets) (tokens : List String) : Facets :=
  tokens.foldl addToken facets

/-- Add a token that has to be a text. -/
def addRule (facets : Facets) : Value → Except Error Facets
  | .text token => .ok (facets.addToken token)
  | other => .error (.tokenNotText other)

/-- Add the tokens of a text or a list, all of them or none. -/
def addRules (facets : Facets) (rules : Value) : Except Error Facets :=
  (Rule.normalize rules).map facets.addTokens

/-- Make the property required, or remove every rule whose token begins with `required`. -/
def setRequired (facets : Facets) (required : Bool) : Facets :=
  if required then facets.addToken "required"
  else { facets with
    rules := facets.rules.filter fun token => !Text.startsWith "required" token
    isRequired := false }

/-- Let the property be without a value, or not, in its type and its rules alike. -/
def setNullable (facets : Facets) (nullable : Bool) : Facets :=
  if nullable then
    ({ facets with declared := facets.declared.withNull }).addToken "nullable"
  else { facets with
    declared := facets.declared.withoutNull
    rules := facets.rules.filter (· != "nullable") }

def isNullable (facets : Facets) : Bool :=
  facets.rules.contains "nullable"

/-! ## Attributes and constraints -/

def addAttribute (facets : Facets) (key value : Value) : Except Error Facets :=
  if key.isHashable then
    .ok { facets with attributes := facets.attributes.put key.keyText value }
  else .error .wrongType

def setChoices (facets : Facets) (choices : Value) : Except Error Facets := do
  return { facets with attributes := facets.attributes.put "enum" (.list (← choices.parts)) }

/-- Set the pattern that texts have to match, which has to be one. -/
def setPattern (facets : Facets) (pattern : Value) : Except Error Facets := do
  let _ ← Pattern.ofValue pattern
  return { facets with pattern := pattern.text? }

/-! ## Conditional rules -/

def addConditional (facets : Facets) (rule : ConditionalRule) : Facets :=
  { facets with conditionals := facets.conditionals ++ [rule] }

def orNext (first second : Value) : Value :=
  match first with
  | .null => second
  | value => value

/-- Rules under a condition: a closure, a map of fields and their values, or one field and its
value.  Without a value of a field, the rules may come in its place. -/
def addWhen (facets : Facets) (condition value rules : Value) : Except Error Facets := do
  match condition with
  | .closure identity =>
    let tokens ← Rule.normalize (orNext rules value)
    return facets.addConditional (.closure identity tokens)
  | .text _ =>
    let tokens ← Rule.normalize rules
    return facets.addConditional (.equality condition value tokens)
  | other =>
    let some expected := other.mapping? | throw .conditionUnsupported
    let tokens ← Rule.normalize (orNext rules value)
    return facets.addConditional (.allFields expected tokens)

def addWhenMatches (facets : Facets) (field source rules : Value) : Except Error Facets := do
  let _ ← Pattern.ofValue source
  return facets.addConditional (.pattern field source (← Rule.normalize rules))

def addWhenCompares (facets : Facets) (field operator operand rules : Value) :
    Except Error Facets := do
  return facets.addConditional (.comparison field operator operand (← Rule.normalize rules))

/-- The siblings that a rule names: one by a text, or those of a collection. -/
def siblingNames : Value → Except Error (List Value)
  | .text name => .ok [.text name]
  | other => other.parts

def plainTexts : List Value → Except Error (List String)
  | [] => .ok []
  | .text name :: rest => (plainTexts rest).map (name :: ·)
  | _ :: _ => .error .wrongType

/-- A rule about siblings and its token.  The rule is attached before the token is built, which
fails when a name is no text. -/
def addSiblingRule (rule : List Value → ConditionalRule) (tokenName : String)
    (facets : Facets) (siblings : Value) : Change Facets :=
  match siblingNames siblings with
  | .error error => .failed facets error
  | .ok names =>
    let attached := facets.addConditional (rule names)
    match plainTexts names with
    | .error error => .failed attached error
    | .ok parameters =>
      .done (attached.addToken (tokenName ++ ":" ++ Text.join "," parameters))

def addRequiredWith : Facets → Value → Change Facets :=
  addSiblingRule .requiredWith "required_with"

def addRequiredWithout : Facets → Value → Change Facets :=
  addSiblingRule .requiredWithout "required_without"

/-- The token of a rule about a field and its value, whose text may hold no comma.  What names the
field has to have a text as well. -/
def fieldValueToken (rule : String) (field value : Value) : Except Error String := do
  let rendered ← value.writtenText
  if !field.isWritable then throw .badValue
  else if rendered.toList.contains ',' then throw (.commaInValue rule field rendered)
  else return rule ++ ":" ++ field.toText ++ "," ++ rendered

/-- Attach a rule for when a field equals a value, and the token that says the same. -/
def addFieldValueRule (tokenName ruleName : String) (facets : Facets) (field value : Value) :
    Except Error Facets := do
  let token ← fieldValueToken tokenName field value
  return (facets.addConditional (.equality field value [ruleName])).addToken token

def addRequiredIf : Facets → Value → Value → Except Error Facets :=
  addFieldValueRule "required_if" "required"

def addProhibitedIf : Facets → Value → Value → Except Error Facets :=
  addFieldValueRule "prohibited_if" "prohibited"

/-! ## Views -/

/-- What to say when a value is not accepted. -/
def rejection (facets : Facets) : String :=
  if facets.isRequired then "The " ++ facets.name.toText ++ " field is required."
  else "Invalid value for " ++ facets.name.toText

def summary (facets : Facets) : String :=
  "Property(name=" ++ facets.name.quoted ++ ", type=" ++ facets.declared.toDocument.quoted ++ ")"

/-- An entry of the written form that is left out when there is no value. -/
def optional (name : String) (value : Value) : Fields Value :=
  match value with
  | .null => []
  | present => [(name, present)]

/-- The entries of the written form that have a meaning of their own, with the children and the
items already written. -/
def ownEntries (facets : Facets) (children : Fields Value) (items : Option Value) :
    Fields Value :=
  [("name", facets.name), ("type", facets.declared.toDocument)] ++
  optional "description" facets.description ++
  optional "default" facets.default ++
  [("rules", ConditionalRule.tokenList facets.rules), ("required", .bool facets.isRequired)] ++
  optional "format" facets.format ++
  optional "pattern" ((facets.pattern.map Value.text).getD .null) ++
  optional "minimum" facets.minimum ++
  optional "maximum" facets.maximum ++
  optional "$ref" facets.reference ++
  (if children.isEmpty then [] else [("properties", .map children)]) ++
  optional "items" (items.getD .null) ++
  (if facets.conditionals.isEmpty then []
    else [("conditionalRules", .list (facets.conditionals.map ConditionalRule.toDocument))])

/-- The entries of the written form.  Attributes come last and take the place of an entry of the
same name. -/
def entries (facets : Facets) (children : Fields Value) (items : Option Value) : Fields Value :=
  (facets.ownEntries children items).putAll facets.attributes

end Facets
end RecordSchema
