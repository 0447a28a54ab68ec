import RecordSchema.Pattern.Matcher

/-!
# Patterns with delimiters

A pattern may be written bare, or between two equal delimiters with modifiers behind the second:
`/^a+$/i`.  The body reaches to the last delimiter, and only modifiers may follow it; any other
text is a bare pattern.
-/

namespace RecordSchema.Pattern

def delimiters : List Char :=
  ['/', '#', '~', '%', '@', '!', '+']

/-- The letters that may follow the closing delimiter.  Those that are no flags are ignored. -/
def modifiers : List Char :=
  ['i', 'm', 's', 'x', 'u', 'A', 'D', 'U']

def modifierFlag : Char → Flags
  | 'i' => { ignoreCase := true }
  | 'm' => { multiline := true }
  | 's' => { dotAll := true }
  | 'x' => { verbose := true }
  | _ => {}

def splitDelimited? (text : List Char) : Option (List Char × List Char) :=
  match text with
  | [] => none
  | delimiter :: rest =>
    if delimiters.contains delimiter then
      let reversed := rest.reverse
      let tail := (reversed.takeWhile (· != delimiter)).reverse
      match reversed.dropWhile (· != delimiter) with
      | [] => none
      | _ :: body => if tail.all modifiers.contains then some (body.reverse, tail) else none
    else none

def splitSource (source : List Char) : List Char × Flags :=
  match splitDelimited? source with
  | some (body, tail) => (body, tail.foldl (fun flags c => flags.union (modifierFlag c)) {})
  | none => (source, {})

end RecordSchema.Pattern

namespace RecordSchema

/-- A pattern that can be searched for. -/
structure Pattern where
  /-- The text without delimiters and modifiers. -/
  body : String
  expression : Pattern.Expression
  deriving DecidableEq, Repr

namespace Pattern

def program (pattern : Pattern) : Program :=
  .ofExpression pattern.expression

/-- Read a pattern, bare or with delimiters. -/
def compile (release : Release) (source : String) : Except PatternError Pattern := do
  let (body, flags) := splitSource source.toList
  let pattern : Pattern := ⟨String.ofList body, ← readExpression flags body⟩
  if pattern.program.code.looksTooFarBack release.backLimit then throw release.backRefusal
  return pattern

def isFoundIn (pattern : Pattern) (text : String) (release : Release := .early) :
    Except SearchError Bool :=
  pattern.program.isFoundIn release (text.toList.map (·.toNat)).toArray

end Pattern
end RecordSchema
