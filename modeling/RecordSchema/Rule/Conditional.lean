import RecordSchema.Rule.Condition

/-!
# Conditional rules

A property carries rules that apply under a condition on the whole record.  Each kind has a
written form, a map with the kind under `type`, from which it can be read back; closures cannot.
The last two kinds say when the property itself is required, and always add that one rule.
-/

namespace RecordSchema

/-- A conditional rule of a property. -/
inductive ConditionalRule where
  | closure (identity : Nat) (rules : List String)
  | allFields (expected : Fields Value Name) (rules : List String)
  | equality (field expected : Value) (rules : List String)
  | pattern (field source : Value) (rules : List String)
  | comparison (field operator operand : Value) (rules : List String)
  | requiredWith (fields : List Value)
  | requiredWithout (fields : List Value)
  deriving Repr

namespace ConditionalRule

/-- The name of the kind in the written form. -/
def kind : ConditionalRule → String
  | .closure _ _ => "closure"
  | .allFields _ _ => "array"
  | .equality _ _ _ => "field"
  | .pattern _ _ _ => "pattern"
  | .comparison _ _ _ _ => "comparison"
  | .requiredWith _ => "requiredWith"
  | .requiredWithout _ => "requiredWithout"

/-- The tokens that apply under the condition. -/
def rules : ConditionalRule → List String
  | .closure _ rules => rules
  | .allFields _ rules => rules
  | .equality _ _ rules => rules
  | .pattern _ _ rules => rules
  | .comparison _ _ _ rules => rules
  | .requiredWith _ => ["required"]
  | .requiredWithout _ => ["required"]

def tokenList (tokens : List String) : Value :=
  .list (tokens.map .text)

/-- The entries between the kind and the tokens. -/
def selector : ConditionalRule → Fields Value
  | .closure identity _ => [("closure", .closure identity)]
  | .allFields expected _ => [("field", expected.toValue)]
  | .equality field expected _ => [("field", field), ("value", expected)]
  | .pattern field source _ => [("field", field), ("value", .map [("pattern", source)])]
  | .comparison field operator operand _ =>
    [("field", field), ("value", .map [("operator", operator), ("value", operand)])]
  | .requiredWith fields => [("fields", .list fields)]
  | .requiredWithout fields => [("fields", .list fields)]

def toDocument (rule : ConditionalRule) : Value :=
  .map (("type", .text rule.kind) :: rule.selector ++ [("rules", tokenList rule.rules)])

def neededField (document : Value) (name : String) : Except Error Value :=
  match document.mapping? with
  | some entries =>
    match entries.get? (.text name) with
    | some value => .ok value
    | none => .error .missingKey
  | none => .error .wrongType

def siblings (document : Value) : Except Error (List Value) := do
  ((← document.field "fields").orElse (.list [])).parts

def ofDocument (document : Value) : Except Error ConditionalRule := do
  let kind ← document.field "type"
  let rules ← Rule.normalize (← document.field "rules")
  let value ← document.field "value"
  match kind with
  | .text "closure" => throw .closureNotRestorable
  | .text "array" =>
    return .allFields (← ((← document.field "field").orElse (.map [])).toMapping) rules
  | .text "field" => return .equality (← neededField document "field") value rules
  | .text "pattern" =>
    let field ← neededField document "field"
    return .pattern field (← neededField value "pattern") rules
  | .text "comparison" =>
    let field ← neededField document "field"
    let operator ← neededField value "operator"
    return .comparison field operator (← value.field "value") rules
  | .text "requiredWith" => return .requiredWith (← siblings document)
  | .text "requiredWithout" => return .requiredWithout (← siblings document)
  | other => throw (.ruleKindUnknown other)

def anySibling (context : Value) : List Value → Except Error Bool
  | [] => .ok false
  | name :: rest => do
    if (← context.entry name).isEmpty then anySibling context rest else return true

/-- Whether a rule is about siblings and asks for a value in this context; none for the kinds
that are not about siblings. -/
def requiresValue? (context : Value) : ConditionalRule → Option (Except Error Bool)
  | .requiredWith fields => some (anySibling context fields)
  | .requiredWithout fields => some ((anySibling context fields).map not)
  | _ => none

end ConditionalRule

/-- Tokens that apply to a field when a condition holds of the record, and the name of the kind
of rule they come from. -/
structure RuleSet where
  condition : Rule.Condition
  rules : List String
  kind : String
  deriving Repr

namespace RuleSet

def resolve (set : RuleSet) (closures : Rule.Closures) (record : Fields Value) :
    Except Error (List String) := do
  if ← set.condition.holds closures record then return set.rules else return []

/-- The tokens that a rule set adds for a value, which has to be a record if the condition looks
at a field of it. -/
def resolveOf (set : RuleSet) (closures : Rule.Closures) (record : Value) :
    Except Error (List String) := do
  if ← set.condition.holdsOf closures record then return set.rules else return []

/-- Compile the written form of a conditional rule.  The shape decides, not the kind: a closure
that can be called, a map of fields, a field with a pattern or an operator, or a field and its
value.  Without a field there is nothing to compile. -/
def ofDocument (document : Value) : Except Error (Option RuleSet) := do
  let rules ← Rule.normalize (← document.field "rules")
  let selector ← document.field "field"
  let value ← document.field "value"
  match ← document.field "closure" with
  | .closure identity => return some ⟨.closure identity, rules, "closure"⟩
  | _ =>
    match selector, selector.mapping? with
    | _, some expected => return some ⟨.fields expected, rules, "array"⟩
    | .null, none => return none
    | field, none =>
      let entries := value.mapping?.getD []
      match entries.get? (.text "pattern"), entries.get? (.text "operator") with
      | some source, _ => return some ⟨.pattern field source, rules, "pattern"⟩
      | none, some operator =>
        let operand := (entries.get? (.text "value")).getD .null
        return some ⟨.comparison field operator operand, rules, "comparison"⟩
      | none, none => return some ⟨.equality field value, rules, "field"⟩

end RuleSet
end RecordSchema
