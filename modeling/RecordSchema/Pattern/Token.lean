import RecordSchema.Number.Reader
import RecordSchema.Pattern.Syntax

/-!
# Tokens of patterns

A pattern is cut into tokens, a backslash belonging to the character after it.  The steps here
take tokens one by one and keep what the reader of patterns has to know about the part that it
has read.  A backslash at the end belongs to nothing: it is an error as soon as the tokens before
it have been taken, and not before.
-/

namespace RecordSchema.Pattern

/-- Why a pattern is refused. -/
inductive PatternError where
  | malformed
  /-- A bound of a repetition is too large. -/
  | repetitionTooLarge
  /-- A bound of a repetition has too many digits. -/
  | repetitionTooLong
  /-- The whole pattern is in both alphabets. -/
  | alphabetsConflict
  /-- A look behind goes back too far. -/
  | looksTooFarBack
  /-- Groups lie too deep inside each other. -/
  | nestedTooDeep
  deriving DecidableEq, Repr

/-- A character that stands for itself or for syntax, one behind a backslash, or a backslash that
nothing follows. -/
inductive Token where
  | plain (c : Char)
  | escaped (c : Char)
  | dangling
  deriving DecidableEq, Repr

def Token.chars : Token → List Char
  | .plain c => [c]
  | .escaped c => ['\\', c]
  | .dangling => ['\\']

def tokensOf : List Char → List Token
  | [] => []
  | ['\\'] => [.dangling]
  | '\\' :: c :: rest => .escaped c :: tokensOf rest
  | c :: rest => .plain c :: tokensOf rest

/-- What has been read so far.  `groups` is one more than the number of captures opened, and
`closed` has the widths of those that are closed; `behindFrom` is the value of `groups` where the
outermost look behind began; `depth` measures how deep the groups lie inside each other. -/
structure Progress where
  tokens : List Token
  flags : Flags
  groups : Nat := 1
  names : List (String × Nat) := []
  closed : List (Nat × Width) := []
  behindFrom : Option Nat := none
  conditions : List Nat := []
  depth : Nat := 0

/-- A reading step. -/
abbrev Reader := StateT Progress (Except PatternError)

namespace Reader

def malformed {α : Type} : Reader α :=
  throw .malformed

def goTo (tokens : List Token) : Reader Unit := do
  if tokens.head? = some .dangling then malformed
  modify fun progress => { progress with tokens := tokens }

/-- The next token, if there is one, left where it is. -/
def peek : Reader (Option Token) :=
  return (← get).tokens.head?

def skip : Reader Unit := do
  goTo ((← get).tokens.drop 1)

def take : Reader (Option Token) := do
  let token ← peek
  skip
  return token

/-- Take the next token if it is this character. -/
def accept (c : Char) : Reader Bool := do
  if (← peek) = some (.plain c) then
    skip
    return true
  else return false

/-- Take the next token, which has to be this character. -/
def expect (c : Char) : Reader Unit := do
  if ← accept c then return () else malformed

def verboseNow : Reader Bool :=
  return (← get).flags.verbose

/-- The characters at the front that satisfy a test, at most `count` of them. -/
def leading (test : Char → Bool) : Nat → List Token → List Char
  | count + 1, .plain c :: rest => if test c then c :: leading test count rest else []
  | _, _ => []

/-- Take characters as long as they satisfy a test, at most `count` of them. -/
def takeWhile (count : Nat) (test : Char → Bool) : Reader (List Char) := do
  let tokens := (← get).tokens
  let found := leading test count tokens
  goTo (tokens.drop found.length)
  return found

/-- The tokens before the first one that is `mark`, and those after it. -/
def cutAt? (mark : Char) : List Token → Option (List Char × List Token)
  | [] => none
  | token :: rest =>
    if token = .plain mark then some ([], rest)
    else (cutAt? mark rest).map fun (before, after) => (token.chars ++ before, after)

def takeName (mark : Char) : Reader String := do
  match cutAt? mark (← get).tokens with
  | some (name, rest) =>
    if name.isEmpty then malformed
    else
      goTo rest
      return String.ofList name
  | none => malformed

def skipComment : Reader Unit := do
  match cutAt? ')' (← get).tokens with
  | some (_, rest) => goTo rest
  | none => malformed

def skipLine : Reader Unit := do
  let tokens := (← get).tokens
  match cutAt? '\n' tokens with
  | some (_, rest) => goTo rest
  | none => if tokens.contains .dangling then malformed else goTo []

/-- How deep groups may lie inside each other: reading an alternative counts twice and a
condition once. -/
def depthLimit : Nat := 982

def deeper {α : Type} (amount : Nat) (step : Reader α) : Reader α := do
  let depth := (← get).depth
  if depthLimit < depth + amount then throw .nestedTooDeep
  modify fun progress => { progress with depth := depth + amount }
  let result ← step
  modify fun progress => { progress with depth := depth }
  return result

/-! ## Captures -/

def openCapture (name : Option String) : Reader Nat := do
  let progress ← get
  let index := progress.groups
  let names ← match name with
    | none => pure progress.names
    | some text =>
      if (progress.names.lookup text).isSome then malformed
      else pure ((text, index) :: progress.names)
  set { progress with groups := index + 1, names := names }
  return index

def closeCapture (index : Nat) (body : Tree) : Reader Unit :=
  modify fun progress =>
    { progress with closed := (index, body.width progress.closed) :: progress.closed }

/-- Check a reference to a capture from where the reader is: not into a capture of the same look
behind. -/
def checkBehind (index : Nat) : Reader Unit := do
  let progress ← get
  match progress.behindFrom with
  | none => return ()
  | some start =>
    if (progress.closed.lookup index).isNone || start ≤ index then malformed
    else return ()

/-- A reference to a capture, which has to be closed. -/
def referenceTo (index : Nat) : Reader Atom := do
  if ((← get).closed.lookup index).isNone then malformed
  checkBehind index
  return .reference index

end Reader
end RecordSchema.Pattern
