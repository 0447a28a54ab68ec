import RecordSchema.Number.Reader
import RecordSchema.Value.Basic

/-!
# Reading arguments

A command takes a fixed list of words and options in any order.  Options have long names, which
may be abbreviated, and short ones; a value may be attached to either.  After a separator all
arguments are words.  A separator is removed from what a word or an option takes; where it was
all there was, the value is an empty list.  What stands where nothing takes it is left over.
-/

namespace RecordSchema.CommandLine

/-- How reading ends without a command to run. -/
inductive Ending where
  /-- Help was asked for. -/
  | help
  /-- The arguments do not fit. -/
  | misuse
  deriving DecidableEq, Repr

inductive OptionKind where
  | help
  | text
  | integer
  deriving DecidableEq, Repr

/-- An option under its names. -/
structure OptionRule where
  names : List String
  kind : OptionKind
  deriving DecidableEq, Repr

/-- The words and the options that a command takes.  An option is known by its first name. -/
structure Grammar where
  words : List String
  options : List OptionRule
  deriving DecidableEq, Repr

/-- What an argument is before anything takes it. -/
inductive Mark where
  | word
  | separator
  | unknownOption
  /-- An option, whether it goes by a short name, and what is attached to it. -/
  | option (rule : OptionRule) (short : Bool) (attached : Option String)
  deriving DecidableEq, Repr

/-- What has been read: values under the names of words and options, and what is left over. -/
structure Reading where
  values : Fields Value := []
  leftOver : List String := []

namespace Grammar

def option? (grammar : Grammar) (name : String) : Option OptionRule :=
  grammar.options.find? (·.names.contains name)

def isShort (name : List Char) : Bool :=
  !(['-', '-'].isPrefixOf name)

/-- The name and the attached value of an argument with an equals sign. -/
def splitAttached (argument : List Char) : String × Option String :=
  if argument.contains '=' then
    let (name, value) := Text.cutChars '=' argument
    (String.ofList name, some (String.ofList value))
  else (String.ofList argument, none)

def abbreviated (grammar : Grammar) (argument : List Char) : List Mark :=
  let (name, attached) := splitAttached argument
  grammar.options.flatMap fun rule =>
    (rule.names.filter (Text.startsWith name)).map fun _ => .option rule false attached

/-- The options whose short name begins an argument, which attaches the rest. -/
def clustered (grammar : Grammar) (argument : List Char) : List Mark :=
  let name := String.ofList (argument.take 2)
  match grammar.option? name with
  | some rule => [.option rule true (some (String.ofList (argument.drop 2)))]
  | none => []

/-- Whether an argument is a negative number in plain notation, perhaps with a line break behind
it. -/
def isNegativeNumber (argument : List Char) : Bool :=
  let isEnd := fun rest : List Char => rest.isEmpty || rest == ['\n']
  match argument with
  | '-' :: number =>
    let whole := number.takeWhile Text.isDigit
    match number.dropWhile Text.isDigit with
    | '.' :: fraction =>
      !(fraction.takeWhile Text.isDigit).isEmpty && isEnd (fraction.dropWhile Text.isDigit)
    | rest => !whole.isEmpty && isEnd rest
  | _ => false

/-- What an argument is when it is not the name of an option. -/
def guess (grammar : Grammar) (argument : List Char) : Except Ending Mark :=
  let found := if isShort argument then grammar.clustered argument
    else grammar.abbreviated argument
  match found with
  | [mark] => .ok mark
  | _ :: _ => .error .misuse
  | [] =>
    if isNegativeNumber argument || argument.contains ' ' then .ok .word
    else .ok .unknownOption

def classify (grammar : Grammar) (argument : String) : Except Ending Mark :=
  match argument.toList with
  | '-' :: second :: rest =>
    let characters := '-' :: second :: rest
    match grammar.option? argument with
    | some rule => .ok (.option rule (isShort characters) none)
    | none =>
      let (name, attached) := splitAttached characters
      match attached, grammar.option? name with
      | some value, some rule => .ok (.option rule (isShort characters) (some value))
      | _, _ => grammar.guess characters
  | _ => .ok .word

/-- What all arguments are.  After a separator they are words. -/
def classifyAll (grammar : Grammar) : List String → Except Ending (List (String × Mark))
  | [] => .ok []
  | argument :: rest =>
    if argument = "--" then
      .ok ((argument, .separator) :: rest.map fun word => (word, .word))
    else do
      let mark ← grammar.classify argument
      return (argument, mark) :: (← grammar.classifyAll rest)

end Grammar

namespace Reading

/-- The value of arguments that are taken together, one of which may be a separator. -/
def valueOf (taken : List String) : Value :=
  match taken.erase "--" with
  | [value] => .text value
  | others => .list (others.map .text)

/-- Put the value of an option, which has to be of its kind. -/
def putOption (reading : Reading) (rule : OptionRule) (taken : String) :
    Except Ending Reading := do
  let put := fun value : Value =>
    { reading with values := reading.values.put (rule.names.headD "") value }
  match rule.kind, valueOf [taken] with
  | .help, _ => throw .help
  | .integer, .text value =>
    match Number.readInt? value with
    | some number => return put (.int number)
    | none => throw .misuse
  | _, value => return put value

def takeSeparators : List (String × Mark) → List String × List (String × Mark)
  | (argument, .separator) :: rest =>
    let (taken, others) := takeSeparators rest
    (argument :: taken, others)
  | others => ([], others)

def takeWords (reading : Reading) :
    List String → List (String × Mark) → Reading × List String × List (String × Mark)
  | [], marks => (reading, [], marks)
  | word :: words, marks =>
    match takeSeparators marks with
    | (before, (argument, .word) :: rest) =>
      let (after, others) := takeSeparators rest
      let value := valueOf (before ++ argument :: after)
      takeWords { reading with values := reading.values.put word value } words others
    | _ => (reading, word :: words, marks)

/-- How a cluster of short options ends that begins with one asking for help.  The options behind
it have to be known up to the first that takes a value, and that value has to be there. -/
def cluster (grammar : Grammar) (rest : List (String × Mark)) : List Char → Ending
  | [] => .help
  | next :: others =>
    match grammar.option? (String.ofList ['-', next]), others, rest with
    | none, _, _ => .misuse
    | some ⟨_, .help⟩, _, _ => cluster grammar rest others
    | some _, [], (_, .word) :: _ => .help
    | some _, [], _ => .misuse
    | some _, _, _ => .help

def takeOption (grammar : Grammar) (reading : Reading) (rule : OptionRule) (short : Bool)
    (attached : Option String) (rest : List (String × Mark)) :
    Except Ending (Reading × List (String × Mark)) :=
  match rule.kind, attached, rest with
  | .help, none, _ => .error .help
  | .help, some value, _ =>
    if short && value != "" then .error (cluster grammar rest value.toList) else .error .misuse
  | _, some value, _ => do return (← reading.putOption rule value, rest)
  | _, none, (value, .word) :: others => do return (← reading.putOption rule value, others)
  | _, none, _ => .error .misuse

def isOption : Mark → Bool
  | .unknownOption => true
  | .option _ _ _ => true
  | _ => false

/-- Read arguments in at most `fuel` steps, each of which takes one argument at least. -/
def readMarks (grammar : Grammar) :
    Nat → Reading → List String → List (String × Mark) → Except Ending (Reading × List String)
  | 0, reading, words, marks =>
    .ok ({ reading with leftOver := reading.leftOver ++ marks.map (·.1) }, words)
  | fuel + 1, reading, words, marks =>
    match marks with
    | [] => .ok (reading, words)
    | (argument, .unknownOption) :: rest =>
      readMarks grammar fuel { reading with leftOver := reading.leftOver ++ [argument] } words rest
    | (_, .option rule short attached) :: rest => do
      let (next, others) ← takeOption grammar reading rule short attached rest
      readMarks grammar fuel next words others
    | (argument, mark) :: rest =>
      let (next, wanted, others) := takeWords reading words ((argument, mark) :: rest)
      if others.length < rest.length + 1 then readMarks grammar fuel next wanted others
      else
        let skipped := others.takeWhile fun other => !isOption other.2
        readMarks grammar fuel
          { next with leftOver := next.leftOver ++ skipped.map (·.1) } wanted
          (others.dropWhile fun other => !isOption other.2)

end Reading

/-- Read the arguments of a command.  All its words have to be there. -/
def Grammar.read (grammar : Grammar) (arguments : List String) : Except Ending Reading := do
  let marks ← grammar.classifyAll arguments
  let (reading, missing) ← Reading.readMarks grammar (marks.length + 1) {} grammar.words marks
  if missing.isEmpty then return reading else throw .misuse

end RecordSchema.CommandLine
