import RecordSchema.Report.Merging
import RecordSchema.Workspace.Collections

/-!
# Shared schemas, engines and reports

A schema refers to the engine that it checks records with.  An engine may be one that accepts
everything and records what it is called with.
-/

namespace RecordSchema.Workspace

/-! ## Reports -/

def reportAt (number : Nat) : Action Report := do
  found (← get).reports[number]?

def setReport (number : Nat) (report : Report) : Action Unit :=
  modify fun workspace =>
    { workspace with reports := workspace.reports.setIfInBounds number report }

def addReport (report : Report) : Action Value := do
  let number := (← get).reports.size
  modify fun workspace => { workspace with reports := workspace.reports.push report }
  return .handle .result number

/-- Merge what a value stands for into a report.  A report with messages grows without end when
it is merged into itself. -/
def mergeReport (number : Nat) (other : Value) : Action Unit := do
  match other with
  | .handle .result ref =>
    let report ← reportAt number
    if ref = number then
      let some merged := report.mergeSelf? | throw .tooLarge
      setReport number merged
    else setReport number (report.merge (← reportAt ref))
  | _ => throw .noSuchMember

/-! ## Engines -/

/-- A new engine with switches that may be given. -/
def addEngine (strict stopsEarly : Value) : Action Value := do
  let workspace ← get
  let strict := Settings.read workspace.environment Settings.strictRules strict
  let stopsEarly := Settings.read workspace.environment Settings.stopOnFirstFailure stopsEarly
  let engine : Engine := { strict := strict.isTruthy, stopsEarly := stopsEarly.isTruthy }
  modify fun workspace =>
    { workspace with engines := workspace.engines.push { engine, strict, stopsEarly } }
  return .handle .engine workspace.engines.size

def engineAt (number : Nat) : Action SharedEngine := do
  found (← get).engines[number]?

/-- Add a rule to an engine, or replace one. -/
def registerRule (number : Nat) (name : Value) (check : Check) (template : Value)
    (implicit : Bool) : Action Unit := do
  let shared ← engineAt number
  let key ← checked (Name.ofValue name)
  let registered := match key.text? with
    | some text => { shared with engine := shared.engine.register text check template implicit }
    | none => { shared with uncallable := key :: shared.uncallable }
  modify fun workspace =>
    { workspace with engines := workspace.engines.setIfInBounds number registered }

def knowsRule (number : Nat) (name : Value) : Action Bool := do
  let shared ← engineAt number
  let key ← checked (Name.ofValue name)
  return (key.text?.map shared.engine.knows).getD (shared.uncallable.contains key)

/-- The names of the implicit rules and of all rules in order, which only texts have. -/
def ruleNames (shared : SharedEngine) : Except Error (List String × List String) :=
  if shared.uncallable.isEmpty then
    let sorted := fun (names : List String) => names.mergeSort (· ≤ ·)
    .ok (sorted shared.engine.implicit, sorted shared.engine.checks.names)
  else .error .wrongType

/-- A new engine that accepts everything. -/
def addRecorder : Action Value := do
  let number := (← get).recorders.size
  modify fun workspace => { workspace with recorders := workspace.recorders.push [] }
  return .handle .recorder number

/-- What an engine that accepts everything has been called with. -/
def recordingsAt (number : Nat) : Action (List Recording) := do
  found (← get).recorders[number]?

def schemaAt (number : Nat) : Action SharedSchema := do
  found (← get).schemas[number]?

def tableFrom : TableSource → Action RuleTable
  | .given table => pure table
  | .schema number => do return (← schemaAt number).schema.rules

def recordingDocument (recording : Recording) : Action Value := do
  return .map [("rules", Schema.describe (← tableFrom recording.rules)),
    ("record", recording.record), ("messages", recording.messages),
    ("attributes", recording.labels)]

/-- Check a record with what a value stands for, which has to be an engine. -/
def evaluate (engine : Value) (rules : TableSource) (record messages labels : Value) :
    Action Value := do
  match engine with
  | .handle .engine number =>
    let shared ← engineAt number
    let table ← tableFrom rules
    let wording : Message.Wording := ⟨messages.orElse (.map []), labels.orElse (.map [])⟩
    let engine := { shared.engine with closures := (← get).closures }
    let (outcome, log) := engine.evaluateValue wording record table
    report log
    addReport (← checked outcome)
  | .handle .recorder number =>
    let earlier ← recordingsAt number
    let recordings := earlier ++ [⟨rules, record, messages, labels⟩]
    modify fun workspace =>
      { workspace with recorders := workspace.recorders.setIfInBounds number recordings }
    let data ← checked record.toFields
    addReport { data := data }
  | _ => throw .noSuchMember

/-- A table of rules from a map of lists.  What is no list has no entry that could be used. -/
def tableOf (value : Value) : Action RuleTable :=
  match value.mapping? with
  | some entries => pure (entries.map fun entry => (entry.1, RuleEntry.ofValue entry.2))
  | none => throw .noSuchMember

/-! ## Schemas -/

/-- Replace a schema, leaving its engine alone. -/
def setSchema (number : Nat) (schema : Schema) : Action Unit := do
  let shared ← schemaAt number
  modify fun workspace =>
    { workspace with
      schemas := workspace.schemas.setIfInBounds number { shared with schema := schema } }

/-- A new schema with an engine, by default one of its own. -/
def addSchema (engine : Value) : Action Nat := do
  let engine ← match engine with
    | .null => addEngine .null .null
    | given => pure given
  let number := (← get).schemas.size
  modify fun workspace => { workspace with schemas := workspace.schemas.push ⟨{}, engine⟩ }
  return number

def editSchema (number : Nat) (edit : Schema → Change Schema) : Action Unit := do
  settle (setSchema number) (edit (← schemaAt number).schema)

def addParts (number : Nat) (name rules document : Value) : Action Unit := do
  report (Schema.additionLog name rules document)
  editSchema number fun schema => schema.addProperty name rules document

/-- Add what a value stands for to a schema, which has to be a property or a stub. -/
def addToSchema (number : Nat) (value : Value) : Action Unit := do
  match value with
  | .handle .property ref =>
    let tree ← property ref
    addParts number tree.facets.name (ConditionalRule.tokenList tree.facets.rules)
      tree.toDocument
  | .handle .stub ref =>
    let stub ← found (← get).stubs[ref]?
    addParts number stub.name stub.rules stub.document
  | _ => throw .noSuchMember

def addEach (number : Nat) : List Value → Action Unit
  | [] => pure ()
  | value :: rest => do
    addToSchema number value
    addEach number rest

/-- The values that are added when a value is given for several properties. -/
def offeredProperties : Value → Action (List Value)
  | .map entries => pure (entries.map (·.2))
  | .keyed entries => pure (entries.map (·.2))
  | .handle .builder number => do
    return (← members number).map fun entry => .handle .property entry.2
  | .handle .property number => do return (← childrenDocument number).map (·.2)
  | .handle .compiler number => do return (← schemaAt number).schema.properties.map (·.2)
  | other => checked other.parts

def addAllToSchema (number : Nat) (properties : Value) : Action Unit := do
  addEach number (← offeredProperties properties)

def readSchema (document engine : Value) : Action Nat := do
  let (outcome, log) := Schema.readDocument (← get).parse document
  report log
  let schema ← checked outcome
  let number ← addSchema engine
  setSchema number schema
  return number

def validate (number : Nat) (record : Value) : Action Value := do
  let shared ← schemaAt number
  evaluate shared.engine (.schema number) record shared.schema.messages.toValue
    shared.schema.labels.toValue

/-- Add tokens to fields, given as a map. -/
def addRulesToSchema (number : Nat) (rules : Value) : Action Unit := do
  match rules.mapping? with
  | some entries => editSchema number fun schema => schema.addRules entries
  | none => throw .noSuchMember

def addStub (stub : Stub) : Action Value := do
  let number := (← get).stubs.size
  modify fun workspace => { workspace with stubs := workspace.stubs.push stub }
  return .handle .stub number

/-! ## Views -/

/-- The written form of what a value stands for. -/
def document : Value → Action Value
  | .handle .property number => do return (← property number).toDocument
  | .handle .builder number => collectionDocument number
  | .handle .compiler number => do checked (← schemaAt number).schema.toDocument
  | .handle .result number => do return (← reportAt number).toDocument
  | .handle .stub number => do return (← found (← get).stubs[number]?).document
  | _ => throw .noSuchMember

/-- The names in a map, in order. -/
def namesIn : Value → Except Error (List String)
  | .map entries => .ok (Fields.names entries)
  | .keyed entries => .ok (entries.map (·.1.keyText))
  | _ => .error .noSuchMember

/-- The names of the entries of what a value stands for, in order. -/
def entryNames (value : Value) : Action (List String) := do
  checked (namesIn (← document value))

/-- The names inside one entry of what a value stands for, in order. -/
def namesWithin (value name : Value) : Action (List String) := do
  checked (namesIn (← checked (ConditionalRule.neededField (← document value) name.keyText)))

def size : Value → Action Nat
  | .handle .builder number => do return (← members number).length
  | .handle .compiler number => do return (← schemaAt number).schema.properties.length
  | _ => throw .wrongType

def summary : Value → Action String
  | .handle .property number => do return (← node number).facets.summary
  | .handle .builder number => do
    let names := (← members number).names
    return "PropertyBuilder(" ++ (Value.list (names.map (·.value))).quoted ++ ")"
  | .handle .result number => do
    let report ← reportAt number
    return report.summary
  | value => pure value.quoted

end RecordSchema.Workspace
