import RecordSchema.Format.Email
import RecordSchema.Property.Facets

/-!
# Accepting single values

A property checks one value by itself: presence, type, pattern, bounds and mail addresses.  Of
its conditional rules only those about siblings count here, against the values of the siblings.
-/

namespace RecordSchema.Facets

/-- Whether a rule about siblings asks for a value where there is none. -/
def lacksForSiblings (context value : Value) : List ConditionalRule → Except Error Bool
  | [] => .ok false
  | rule :: rest =>
    match rule.requiresValue? context with
    | none => lacksForSiblings context value rest
    | some required => do
      if (← required) && value.isBlank then return true
      else lacksForSiblings context value rest

/-- Whether a value is in a relation to a bound, or there is no bound.  A bound that has no
order with numbers is an error. -/
def withinBound (relation : Relation) (value bound : Value) : Except Error Bool :=
  match bound with
  | .null => .ok true
  | limit =>
    match Value.relate? relation value limit with
    | some outside => .ok (!outside)
    | none => .error .wrongType

def withinBounds (facets : Facets) (value : Value) : Except Error Bool := do
  if ← withinBound .less value facets.minimum then
    withinBound .greater value facets.maximum
  else return false

def matchesPattern (facets : Facets) (value : Value) : Except Error Bool :=
  match facets.pattern, value with
  | some source, .text text => Pattern.found (.text source) text
  | _, _ => .ok true

def hasBounds (facets : Facets) : Bool :=
  facets.declared.primary == "number" || facets.declared.primary == "integer"

def acceptsPresent (facets : Facets) (value : Value) : Except Error Bool := do
  if !facets.declared.accepts value then return false
  if !(← facets.matchesPattern value) then return false
  if facets.hasBounds && value.isNumber then
    if !(← facets.withinBounds value) then return false
  match value with
  | .text text => return !facets.rules.contains "email" || Format.isEmail text
  | _ => return true

def accepts (facets : Facets) (value context : Value) : Except Error Bool := do
  if ← lacksForSiblings (context.orElse (.map [])) value facets.conditionals then return false
  match value with
  | .null => return facets.isNullable || !facets.isRequired
  | .text "" => return !facets.isRequired
  | present => facets.acceptsPresent present

end RecordSchema.Facets
