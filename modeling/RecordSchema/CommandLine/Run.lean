import RecordSchema.CommandLine.Command
import RecordSchema.Json.Reader
import RecordSchema.Schema.Basic
import RecordSchema.Settings
import RecordSchema.Value.Depth

/-!
# Running commands

A command reads files, writes a text, logs what happens and ends with a code.  Everything it
needs is given: the environment, the files, the parser for the documents of schemas, and the
writer of reports.  How an error without a wording of its own is shown is given as well.
-/

namespace RecordSchema.CommandLine

/-- What a command has to work with. -/
structure Setting where
  environment : Environment
  /-- The content of the file at a path in plain form. -/
  files : String → Except Error String
  parse : SchemaDocument.Parser
  /-- A report as a text, with so many spaces in front of a line for each level of nesting. -/
  print : Report → Int → Except Error String
  /-- What to show for an error. -/
  shown : Error → String

/-- How a command ends. -/
inductive Outcome where
  | exited (code : Nat)
  /-- The arguments already decided how it ends. -/
  | dismissed (code : Nat)
  | failed (error : Error)

/-- What a run leaves behind. -/
structure Run where
  outcome : Outcome
  output : String := ""
  log : List LogRecord := []

/-! ## Paths and files -/

/-- The parts of a path without the empty ones and those for the place itself. -/
def pathParts (path : String) : List String :=
  (Text.split '/' path).filter fun part => part != "" && part != "."

/-- The root that a path starts from: exactly two slashes are kept. -/
def pathRoot (path : String) : String :=
  match path.toList.takeWhile (· == '/') with
  | [] => ""
  | ['/', '/'] => "//"
  | _ => "/"

def plainPath (path : String) : String :=
  let plain := pathRoot path ++ Text.join "/" (pathParts path)
  if plain = "" then "." else plain

def readObject (files : String → Except Error String) (path : Value) (what : String) :
    Except Error Value := do
  let .text path := path | throw .noSuchMember
  let text ← files (plainPath path)
  match Json.read text with
  | .ok (.map entries) => return .map entries
  | .ok _ => throw (.notAnObject what (plainPath path))
  | .error .malformed => throw .malformedJson
  | .error .integerTooLong => throw .badValue
  | .error .nestedTooDeep => throw .endlessNesting
  | .error .halfCharacter => throw .halfCharacter

/-! ## Errors -/

/-- Whether an error of loading ends a command in good order.  The others are of a value whose
type or parts are not what an operation needs. -/
def isLoadingError : Error → Bool
  | .tokenNotText _ => false
  | .typeTagNotText _ => false
  | .typeUnsupported _ => false
  | .childNotSchema _ => false
  | .conditionUnsupported => false
  | .notWritable _ => false
  | .wrongType => false
  | .noSuchMember => false
  | .missingKey => false
  | .outOfRange => false
  | .endlessNesting => false
  | .tooDeepToWrite => false
  | .notExecutable => false
  | .brokenMatch => false
  | .tooLarge => false
  | .halfCharacter => false
  | _ => true

def say (level : Level) (text : String) : LogRecord :=
  ⟨"schemacraft.cli", level, text⟩

def loadingFailed (setting : Setting) (what : String) (log : List LogRecord) (error : Error) :
    Run :=
  if isLoadingError error then
    ⟨.exited 2, "", log ++ [say .error (what ++ setting.shown error)]⟩
  else ⟨.failed error, "", log⟩

/-! ## Commands -/

/-- Messages or labels from a file, if there is one. -/
def readWording (setting : Setting) (what : String) : Value → Except Error Value
  | .text path => readObject setting.files (.text path) what
  | _ => .ok (.map [])

def propertyStepLimit : Nat := 990

def loadSchema (setting : Setting) (path messages labels : Value) :
    Except Error Schema × List LogRecord :=
  match readObject setting.files path "Schema" with
  | .error error => (.error error, [])
  | .ok document =>
    match Schema.readDocument setting.parse document with
    | (.error error, log) => (.error error, log)
    | (.ok schema, log) =>
      let loaded : Except Error Schema := do
        let properties ← document.field "properties"
        if propertyStepLimit < properties.childSteps then throw .endlessNesting
        let schema := (schema.addMessages (← readWording setting "Messages" messages)).state
        return (schema.addLabels (← readWording setting "Attributes" labels)).state
      match loaded with
      | .error error => (.error error, log)
      | .ok loaded =>
        (.ok loaded, log ++ [say .info ("Loaded " ++ toString loaded.properties.length ++
          " properties from " ++ plainPath (path.text?.getD ""))])

def engine (environment : Environment) : Engine where
  strict := (Settings.read environment Settings.strictRules .null).isTruthy
  stopsEarly := (Settings.read environment Settings.stopOnFirstFailure .null).isTruthy

def showReport (setting : Setting) (report : Report) (indent : Value) (log : List LogRecord) :
    Run :=
  let written : Except Error String :=
    match indent with
    | .int count => setting.print report count
    | _ => .error .wrongType
  match written with
  | .error error => ⟨.failed error, "", log⟩
  | .ok text =>
    if report.valid then ⟨.exited 0, text ++ "\n", log⟩
    else
      ⟨.exited 1, text ++ "\n", log ++ [say .info ("Record failed validation on " ++
        toString report.errors.length ++ " field(s)")]⟩

def validate (setting : Setting) (schema record messages labels indent : Value) : Run :=
  match loadSchema setting schema messages labels with
  | (.error error, log) => loadingFailed setting "Could not load input: " log error
  | (.ok loaded, log) =>
    match readObject setting.files record "Record" with
    | .error error => loadingFailed setting "Could not load input: " log error
    | .ok fields =>
      let (checked, checkLog) :=
        (engine setting.environment).evaluateValue loaded.wording fields loaded.rules
      match checked with
      | .ok report => showReport setting report indent (log ++ checkLog)
      | .error (.ruleUnknown rule field) =>
        let text := setting.shown (.ruleUnknown rule field)
        ⟨.exited 2, "", log ++ checkLog ++ [say .error ("Invalid schema: " ++ text)]⟩
      | .error error => ⟨.failed error, "", log ++ checkLog⟩

/-- Show the document and the rules of a schema. -/
def compile (setting : Setting) (schema indent : Value) : Run :=
  match loadSchema setting schema .null .null with
  | (.error error, log) => loadingFailed setting "Could not load schema: " log error
  | (.ok loaded, log) =>
    let written : Except Error String := do
      let document ← loaded.toDocument
      Schema.writeDocument
        (.map [("schema", document), ("rules", Schema.describe loaded.rules)]) indent
    match written with
    | .ok text => ⟨.exited 0, text ++ "\n", log⟩
    | .error error => ⟨.failed error, "", log⟩

def settingLine (environment : Environment) (entry : Settings.Variable) : String :=
  entry.name ++ "=" ++ (Settings.read environment entry .null).toText ++ "  [" ++
    entry.category ++ "] " ++ entry.description ++ "\n"

def listSettings (setting : Setting) (category : Value) : Run :=
  match Settings.inCategory category with
  | [] => ⟨.exited 2, "", [say .error ("No variables in category: " ++ category.toText)]⟩
  | entries => ⟨.exited 0, String.join (entries.map (settingLine setting.environment)), []⟩

def Command.run (setting : Setting) : Command → Run
  | .validate schema record messages labels indent =>
    CommandLine.validate setting schema record messages labels indent
  | .compile schema indent => CommandLine.compile setting schema indent
  | .environment category => listSettings setting category

/-- The threshold that the environment sets, and the warning when it is none. -/
def threshold (setting : Setting) : Int × List LogRecord :=
  match Level.resolve (Settings.read setting.environment Settings.logLevel .null) with
  | .ok level => (Level.thresholdNumber level, [])
  | .error error =>
    (Level.warning.number,
      [say .warning (setting.shown error ++ "; using default log level")])

/-- Run a command and keep what reaches the threshold of the log. -/
def Command.runLogged (setting : Setting) (command : Command) : Run :=
  let (least, warnings) := threshold setting
  let run := command.run setting
  { run with log := LogRecord.shown least (warnings ++ run.log) }

/-- What is written when help is asked for, and without a command. -/
def usage : String :=
  "usage: schemacraft [-h] \x7bvalidate,compile,env\x7d ...\n"

def run (setting : Setting) (arguments : List String) : Run :=
  match readCommand arguments with
  | .error .help => ⟨.dismissed 0, usage, []⟩
  | .error .misuse => ⟨.dismissed 2, "", []⟩
  | .ok none => ⟨.exited 2, usage, []⟩
  | .ok (some command) => command.runLogged setting

end RecordSchema.CommandLine
