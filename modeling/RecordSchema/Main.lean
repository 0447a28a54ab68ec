import RecordSchema.CommandLine.Run

/-!
# The program

Reads what a command needs, runs it, and shows what comes of it.
-/

open RecordSchema

/-- The environment variables that are read, as far as they are set. -/
def readEnvironment : IO Environment := do
  let read ← Settings.known.mapM fun entry => do
    return (← IO.getEnv entry.name).map fun text => (entry.name, text)
  return read.filterMap id

def readFiles (paths : List String) : IO (Fields String) := do
  let read ← paths.mapM fun (path : String) => do
    try
      let content ← IO.FS.readFile path
      return some (CommandLine.plainPath path, content)
    catch _ => return none
  return read.filterMap id

def pathsOf : CommandLine.Command → List String
  | .validate schema record messages labels _ =>
    [schema, record, messages, labels].filterMap Value.text?
  | .compile schema _ => schema.text?.toList
  | .environment _ => []

def neededPaths (arguments : List String) : List String :=
  match CommandLine.readCommand arguments with
  | .ok (some command) => pathsOf command
  | _ => []

/-- The code that a run ends with, after showing why it failed. -/
def conclude : CommandLine.Outcome → IO UInt32
  | .exited code => return code.toUInt32
  | .dismissed code => return code.toUInt32
  | .failed error => do
    IO.eprintln error.description
    return 1

def printReport (report : Report) (indent : Int) : Except Error String :=
  let unit := String.ofList (List.replicate indent.toNat ' ')
  Json.write (Json.reportStyle (some unit)) 0 report.toDocument

def main (arguments : List String) : IO UInt32 := do
  let files ← readFiles (neededPaths arguments)
  let setting : CommandLine.Setting := {
    environment := ← readEnvironment
    files := fun path => (files.get? path).elim (.error .missingFile) .ok
    parse := SchemaDocument.ofValue
    print := printReport
    shown := Error.description }
  let run := CommandLine.run setting arguments
  IO.print run.output
  for entry in run.log do
    IO.eprintln entry.line
  conclude run.outcome
