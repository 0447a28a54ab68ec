import RecordSchema.Check.Message
import RecordSchema.Check.Standard
import RecordSchema.Change
import RecordSchema.Log
import RecordSchema.Report
import RecordSchema.Rule.Table

/-!
# The engine

An engine knows checks by the names of rules and walks through a rule table with them.  The walk
yields findings in order, rules that are skipped because no check is known and rules that are
not met, and may end in an error.  The report is read off the findings.
-/

namespace RecordSchema

/-- The checks and the templates that a table is walked through with. -/
structure Engine where
  /-- Whether a rule without a check is an error. -/
  strict : Bool := true
  /-- Whether a field has at most one message. -/
  stopsEarly : Bool := false
  checks : Fields Check := Check.standard
  /-- What the closures in rule tables compute. -/
  closures : Rule.Closures := fun _ _ => .error .noSuchMember
  templates : Fields Value := Message.standard.map fun entry => (entry.1, .text entry.2)
  /-- The rules that are checked on missing and blank values as well. -/
  implicit : List String :=
    ["required", "required_with", "required_without", "required_if", "prohibited",
     "prohibited_if"]

/-- One thing that is found while a field is checked. -/
inductive Finding where
  /-- No check is known for a rule. -/
  | skipped (rule : String)
  /-- A rule is not met. -/
  | failed (message : String)
  deriving DecidableEq, Repr

namespace Engine

/-- The rules that change how others run and have no check of their own. -/
def markers : List String :=
  ["nullable", "bail", "sometimes"]

/-- Add a rule, or replace one. -/
def register (engine : Engine) (name : String) (check : Check) (template : Value)
    (implicit : Bool) : Engine :=
  let others := engine.implicit.filter (· != name)
  { engine with
    checks := engine.checks.put name check
    templates := match template with
      | .null => engine.templates
      | given => engine.templates.put name given
    implicit := if implicit then others ++ [name] else others }

/-- Whether a rule is known. -/
def knows (engine : Engine) (name : String) : Bool :=
  engine.checks.has name || markers.contains name

/-- Whether the rules that are not implicit run on a field: it is there, and its value is not
blank, and not missing where it may be. -/
def runsOn (record : Fields Value) (field : Name) (ruleNames : List String) : Bool :=
  match record.under? field with
  | none => false
  | some (.text text) => !(Text.trim text.toList).isEmpty
  | some .null => !ruleNames.contains "nullable"
  | some _ => true

def walk (engine : Engine) (wording : Message.Wording) (call : Call) (runs : Bool) :
    List Rule.Invocation → Change (List Finding)
  | [] => .done []
  | rule :: rest =>
    if markers.contains rule.name then engine.walk wording call runs rest
    else
      match engine.checks.get? rule.name with
      | none =>
        if engine.strict then .failed [] (.ruleUnknown rule.name call.field.toText)
        else (engine.walk wording call runs rest).lift (.skipped rule.name :: ·)
      | some check =>
        if !runs && !engine.implicit.contains rule.name then engine.walk wording call runs rest
        else
          let own := { call with parameters := rule.parameters }
          match check own with
          | .error error => .failed [] error
          | .ok true => engine.walk wording call runs rest
          | .ok false =>
            match wording.message engine.templates own rule.name with
            | .error error => .failed [] error
            | .ok text =>
              if engine.stopsEarly || call.ruleNames.contains "bail" then .done [.failed text]
              else (engine.walk wording call runs rest).lift (.failed text :: ·)

def checkField (engine : Engine) (wording : Message.Wording) (record : Fields Value)
    (field : Name) (tokens : List String) : Change (List Finding) :=
  let rules := tokens.map Rule.parse
  let names := rules.map (·.name)
  let value := (record.under? field).getD .null
  engine.walk wording ⟨field, value, [], record, names⟩ (runsOn record field names) rules

def checkTable (engine : Engine) (wording : Message.Wording) (record : Fields Value) :
    RuleTable → Change (Fields Finding Name)
  | [] => .done []
  | (field, entries) :: rest =>
    match RuleEntry.resolve engine.closures record entries with
    | .error error => .failed [] error
    | .ok tokens =>
      let found := (engine.checkField wording record field tokens).lift
        (List.map fun finding => (field, finding))
      found.andThen fun earlier =>
        (engine.checkTable wording record rest).lift (earlier ++ ·)

def note (report : Report) (found : Name × Finding) : Report :=
  match found.2 with
  | .skipped _ => report
  | .failed message => report.addError found.1 (.text message)

def covered (record : Fields Value) (table : RuleTable) : Fields Value :=
  table.filterMap fun entry => do
    let field ← entry.1.text?
    return (field, ← record.get? field)

def reportOf (record : Fields Value) (table : RuleTable) (found : Fields Finding Name) : Report :=
  let report := found.foldl note {}
  { report with data := if report.valid then covered record table else record }

def logOf (found : Fields Finding Name) : List LogRecord :=
  found.filterMap fun entry =>
    match entry.2 with
    | .failed _ => none
    | .skipped rule => some ⟨"schemacraft.validation", .warning,
        "Skipping unknown validation rule '" ++ rule ++ "' on '" ++ entry.1.toText ++ "'"⟩

/-- What a finished walk amounts to. -/
def conclude (record : Fields Value) (table : RuleTable)
    (found : Change (Fields Finding Name)) :
    Except Error Report :=
  match found.failure with
  | some error => .error error
  | none => .ok (reportOf record table found.state)

def evaluate (engine : Engine) (wording : Message.Wording) (record : Fields Value)
    (table : RuleTable) : Except Error Report :=
  conclude record table (engine.checkTable wording record table)

/-- The error of checking something that is no record.  What the entries come to is looked at
before the record is. -/
def notARecord (engine : Engine) (record : Value) (entries : List RuleEntry) : Error :=
  match RuleEntry.resolveValuesOf engine.closures record entries with
  | .error error => error
  | .ok _ => .noSuchMember

/-- Check a value, which has to be a record unless there are no rules, and log what happens. -/
def evaluateValue (engine : Engine) (wording : Message.Wording) (record : Value)
    (table : RuleTable) : Except Error Report × List LogRecord :=
  match record, table with
  | .map fields, _ =>
    let found := engine.checkTable wording fields table
    (conclude fields table found, logOf found.state)
  | _, [] => (.ok {}, [])
  | _, (_, entries) :: _ => (.error (engine.notARecord record entries), [])

end Engine
end RecordSchema
