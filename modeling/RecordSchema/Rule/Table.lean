import RecordSchema.Name
import RecordSchema.Rule.Conditional

/-!
# Rule tables

A table lists, for every field, tokens that always apply and rule sets that apply under a
condition.  What is neither is kept as it came and fails when the field is checked.
-/

namespace RecordSchema

inductive RuleEntry where
  | token (text : String)
  | ruleSet (set : RuleSet)
  | stray (value : Value)
  deriving Repr

/-- The entries for each field, in order. -/
abbrev RuleTable :=
  Fields (List RuleEntry) Name

namespace RuleEntry

def ofPart : Value → RuleEntry
  | .text name => .token name
  | other => .stray other

/-- The entries in a value.  What has no parts is an entry that is unfit for a set. -/
def ofValue (value : Value) : List RuleEntry :=
  match value.parts? with
  | some parts => parts.map ofPart
  | none => [.stray (.list [])]

def token? : RuleEntry → Option String
  | .token text => some text
  | _ => none

def contribution (closures : Rule.Closures) (record : Fields Value) :
    RuleEntry → Except Error (List Value)
  | .token text => .ok [.text text]
  | .stray value => .ok [value]
  | .ruleSet set => do return (← set.resolve closures record).map .text

def contributions (closures : Rule.Closures) (record : Fields Value) :
    List RuleEntry → Except Error (List Value)
  | [] => .ok []
  | entry :: rest => do
    let first ← entry.contribution closures record
    return first ++ (← contributions closures record rest)

/-- Things at their first places only.  Equal things count once, so all of them have to be fit for
a set. -/
def distinctValues (values : List Value) : Except Error (List Value) :=
  if Value.allHashable values then .ok (@Text.distinct Value ⟨Value.agrees⟩ values)
  else .error .wrongType

/-- What applies to a field for a record, each thing at its first place only. -/
def resolveValues (closures : Rule.Closures) (record : Fields Value) (entries : List RuleEntry) :
    Except Error (List Value) := do
  distinctValues (← contributions closures record entries)

/-- What the entries add for a value, which has to be a record if one looks at a field of it. -/
def contributionsOf (closures : Rule.Closures) (record : Value) :
    List RuleEntry → Except Error (List Value)
  | [] => .ok []
  | .ruleSet set :: rest => do
    let first := (← set.resolveOf closures record).map .text
    return first ++ (← contributionsOf closures record rest)
  | .token text :: rest => do return .text text :: (← contributionsOf closures record rest)
  | .stray value :: rest => do return value :: (← contributionsOf closures record rest)

def resolveValuesOf (closures : Rule.Closures) (record : Value) (entries : List RuleEntry) :
    Except Error (List Value) := do
  distinctValues (← contributionsOf closures record entries)

/-- The tokens among values, all of which have to be texts. -/
def tokensOf : List Value → Except Error (List String)
  | [] => .ok []
  | .text name :: rest => (tokensOf rest).map (name :: ·)
  | _ :: _ => .error .noSuchMember

def resolve (closures : Rule.Closures) (record : Fields Value) (entries : List RuleEntry) :
    Except Error (List String) := do
  tokensOf (← resolveValues closures record entries)

end RuleEntry
end RecordSchema
