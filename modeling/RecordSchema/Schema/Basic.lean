import RecordSchema.Check.Engine
import RecordSchema.Collection.Basic
import RecordSchema.Json.Printer
import RecordSchema.Schema.Shape

/-!
# Schemas

A schema collects the written forms of properties and compiles their rules into one rule table:
the tokens of a property first, then a rule set for each of its conditional rules.  Messages and
labels of one's own go with it.  A record is checked against the table by an engine.
-/

namespace RecordSchema

/-- Properties with the rules that they compile to, and the wording for messages. -/
structure Schema where
  /-- The written forms of the properties. -/
  properties : Fields Value Name := []
  rules : RuleTable := []
  messages : Fields Value Name := []
  labels : Fields Value Name := []
  deriving Repr

/-- What becomes of one conditional rule. -/
inductive Compiled where
  /-- There is nothing to compile: a token of the property says the same.  The name of the kind
  is kept for the log. -/
  | carried (kind : Value)
  | ruleSet (set : RuleSet)
  deriving Repr

namespace Compiled

/-- Compile the written form of a conditional rule. -/
def ofDocument (document : Value) : Except Error Compiled := do
  match ← RuleSet.ofDocument document with
  | some set => return .ruleSet set
  | none => return .carried (← document.field "type")

def ofDocuments : List Value → Change (List Compiled)
  | [] => .done []
  | document :: rest =>
    match ofDocument document with
    | .error error => .failed [] error
    | .ok compiled => (ofDocuments rest).lift (compiled :: ·)

/-- Compile all conditional rules in the written form of a property. -/
def ofProperty (document : Value) : Change (List Compiled) :=
  match document.field "conditionalRules" with
  | .error error => .failed [] error
  | .ok listed =>
    match (listed.orElse (.list [])).parts with
    | .error error => .failed [] error
    | .ok documents => ofDocuments documents

def entry? : Compiled → Option RuleEntry
  | .carried _ => none
  | .ruleSet set => some (.ruleSet set)

/-- What the log says about a conditional rule of a property. -/
def logRecord (name : Name) (compiled : Compiled) : LogRecord :=
  let said := match compiled with
    | .carried kind => kind.toText ++ " rule is enforced by its token"
    | .ruleSet set =>
      "compiled " ++ set.kind ++ " rule " ++ (ConditionalRule.tokenList set.rules).quoted
  ⟨"schemacraft.schema", .debug, "'" ++ name.toText ++ "': " ++ said⟩

end Compiled

namespace Schema

/-! ## Properties and rules -/

/-- Add a property by its name, its tokens and its written form.  What has been stored when a
part turns out to be unfit stays stored. -/
def addProperty (schema : Schema) (name rules document : Value) : Change Schema :=
  match Name.ofValue name with
  | .error error => .failed schema error
  | .ok key =>
    let stored := { schema with properties := schema.properties.put key document }
    match Rule.normalize rules with
    | .error error => .failed stored error
    | .ok tokens =>
      let withRules := fun compiled : List Compiled =>
        { stored with
          rules := stored.rules.put key
            (tokens.map RuleEntry.token ++ compiled.filterMap Compiled.entry?) }
      (Compiled.ofProperty document).lift withRules

def additionLog (name rules document : Value) : List LogRecord :=
  match Name.ofValue name, Rule.normalize rules with
  | .ok key, .ok _ => (Compiled.ofProperty document).state.map (Compiled.logRecord key)
  | _, _ => []

def add (schema : Schema) (property : Property) : Change Schema :=
  schema.addProperty property.facets.name (ConditionalRule.tokenList property.facets.rules)
    property.toDocument

def addAll (schema : Schema) : List Property → Change Schema
  | [] => .done schema
  | property :: rest => (schema.add property).andThen fun next => next.addAll rest

def additionsLog : List Property → List LogRecord
  | [] => []
  | property :: rest =>
    additionLog property.facets.name (ConditionalRule.tokenList property.facets.rules)
      property.toDocument ++ additionsLog rest

/-- Put a token behind the entries of a field, unless it is there already. -/
def appendToken (entries : List RuleEntry) (token : String) : List RuleEntry :=
  if (entries.filterMap RuleEntry.token?).contains token then entries
  else entries ++ [.token token]

/-- Add tokens to a field, which is there from then on. -/
def addRule (schema : Schema) (field rules : Value) : Change Schema :=
  match Name.ofValue field with
  | .error error => .failed schema error
  | .ok key =>
    let entries := (schema.rules.get? key).getD []
    let present := { schema with rules := schema.rules.put key entries }
    match Rule.normalize rules with
    | .error error => .failed present error
    | .ok tokens =>
      .done { schema with rules := schema.rules.put key (tokens.foldl appendToken entries) }

def addRules (schema : Schema) : Fields Value Name → Change Schema
  | [] => .done schema
  | (field, rules) :: rest =>
    (schema.addRule field.value rules).andThen fun next => next.addRules rest

/-! ## Messages and labels -/

/-- Add messages, which win over those of the same names. -/
def addMessages (schema : Schema) (messages : Value) : Change Schema :=
  let (all, failure) := Value.putInto schema.messages messages
  ⟨{ schema with messages := all }, failure⟩

/-- Add labels, which win over those of the same fields. -/
def addLabels (schema : Schema) (labels : Value) : Change Schema :=
  let (all, failure) := Value.putInto schema.labels labels
  ⟨{ schema with labels := all }, failure⟩

def setMessages (schema : Schema) (messages : Value) : Except Error Schema := do
  return { schema with messages := ← messages.toMapping }

def setLabels (schema : Schema) (labels : Value) : Except Error Schema := do
  return { schema with labels := ← labels.toMapping }

def addMessage (schema : Schema) (field rule message : Value) : Schema :=
  { schema with
    messages := schema.messages.put (.text (field.toText ++ "." ++ rule.toText)) message }

def wording (schema : Schema) : Message.Wording :=
  ⟨schema.messages.toValue, schema.labels.toValue⟩

/-! ## Documents -/

def requiredNames : Fields Value Name → Except Error (List Name)
  | [] => .ok []
  | (name, document) :: rest => do
    let flag ← document.field "required"
    let others ← requiredNames rest
    return if flag.strictlyEquals (.bool true) then name :: others else others

def required (schema : Schema) : Except Error (List Name) :=
  requiredNames schema.properties

def toDocument (schema : Schema) : Except Error Value := do
  return .map [("type", .text "object"), ("properties", .map schema.properties.written),
    ("required", .list ((← schema.required).map (·.value)))]

def describeEntry : RuleEntry → Value
  | .token text => .text text
  | .stray value => value
  | .ruleSet set =>
    .map [("when", .text set.kind), ("rules", ConditionalRule.tokenList set.rules)]

def describe (table : RuleTable) : Value :=
  .map (table.written.map fun entry => (entry.1, .list (entry.2.map describeEntry)))

/-- What a value asks to be put in front of lines: so many spaces, or a text. -/
def indentation : Value → Except Error (Option String)
  | .null => .ok none
  | .int count =>
    if (Int64.size : Int) / 2 ≤ count ∨ count < -((Int64.size : Int) / 2) then .error .outOfRange
    else .ok (some (String.ofList (List.replicate count.toNat ' ')))
  | .bool flag => .ok (some (if flag then " " else ""))
  | .text unit => .ok (some unit)
  | _ => .error .wrongType

def writeDocument (document indent : Value) : Except Error String := do
  Json.write (Json.documentStyle (← indentation indent)) 0 document

def toJson (schema : Schema) (indent : Value) : Except Error String := do
  writeDocument (← schema.toDocument) indent

/-! ## Reading and checking -/

section

variable (parse : SchemaDocument.Parser)

/-- The properties in the document of a schema, as far as they can be read. -/
def propertiesOf (document : Value) : Change (List (Name × Property)) :=
  match parse document with
  | .error issues => .failed [] (.wrongShape issues)
  | .ok read => Collection.propertiesOf read.toValue

def readDocument (document : Value) : Except Error Schema × List LogRecord :=
  let read := propertiesOf parse document
  let replaced := Collection.replacements [] (Fields.names read.state)
  match read.failure with
  | some error => (.error error, replaced)
  | none =>
    let properties := (Fields.ofPairs read.state).map (·.2)
    let filled := addAll {} properties
    (match filled.failure with
      | some error => .error error
      | none => .ok filled.state,
      replaced ++ additionsLog properties)

def ofDocument (document : Value) : Except Error Schema :=
  (readDocument parse document).1

end

def evaluate (schema : Schema) (engine : Engine) (record : Value) : Except Error Report :=
  (engine.evaluateValue schema.wording record schema.rules).1

end Schema
end RecordSchema
