import RecordSchema.CommandLine.Arguments

/-!
# Commands

The three commands with their arguments: checking a record against a schema, showing a compiled
schema, and listing the settings.
-/

namespace RecordSchema.CommandLine

/-- A command to run, with the values of its arguments.  An option that is not given has the null
value. -/
inductive Command where
  /-- Check a record, with messages and labels of one's own. -/
  | validate (schema record messages labels indent : Value)
  /-- Show the document and the rules of a schema. -/
  | compile (schema indent : Value)
  /-- List the settings, or those of a category. -/
  | environment (category : Value)

def helpOption : OptionRule :=
  ⟨["--help", "-h"], .help⟩

def indentOption : OptionRule :=
  ⟨["--indent"], .integer⟩

def frontGrammar : Grammar :=
  ⟨[], [helpOption]⟩

def validateGrammar : Grammar where
  words := ["schema", "record"]
  options := [helpOption, ⟨["--messages", "-m"], .text⟩, ⟨["--attributes", "-a"], .text⟩,
    indentOption]

def compileGrammar : Grammar :=
  ⟨["schema"], [helpOption, indentOption]⟩

/-- The arguments of `env`. -/
def environmentGrammar : Grammar :=
  ⟨[], [helpOption, ⟨["--category", "-c"], .text⟩]⟩

namespace Reading

def value (reading : Reading) (name : String) : Value :=
  (reading.values.get? name).getD .null

/-- The indentation that has been read, two when there is none. -/
def indent (reading : Reading) : Value :=
  (reading.values.get? "--indent").getD (.int 2)

end Reading

/-- The command of a name, with its arguments read, and what is left over of them. -/
def commandOf (name : String) (arguments : List String) :
    Except Ending (Command × List String) := do
  match name with
  | "validate" =>
    let reading ← validateGrammar.read arguments
    return (.validate (reading.value "schema") (reading.value "record")
      (reading.value "--messages") (reading.value "--attributes") reading.indent,
      reading.leftOver)
  | "compile" =>
    let reading ← compileGrammar.read arguments
    return (.compile (reading.value "schema") reading.indent, reading.leftOver)
  | "env" =>
    let reading ← environmentGrammar.read arguments
    return (.environment (reading.value "--category"), reading.leftOver)
  | _ => throw .misuse

/-- Read what comes in front of the command, and the command with all that follows.  Nothing
may be left over. -/
def readFront : Bool → List (String × Mark) → Except Ending (Option Command)
  | leftOver, [] => if leftOver then .error .misuse else .ok none
  | leftOver, (name, .word) :: rest => do
    let (command, others) ← commandOf name (rest.map (·.1))
    if leftOver || !others.isEmpty then throw .misuse else return some command
  | _, (_, .unknownOption) :: rest => readFront true rest
  | _, (_, .option rule short attached) :: rest => do
    let _ ← Reading.takeOption frontGrammar {} rule short attached rest
    throw .help
  | _, (_, .separator) :: _ => .error .misuse

/-- Read the arguments of the program; there is no command when there are none. -/
def readCommand (arguments : List String) : Except Ending (Option Command) := do
  readFront false (← frontGrammar.classifyAll arguments)

end RecordSchema.CommandLine
