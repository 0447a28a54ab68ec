import RecordSchema.Text.Blank
import RecordSchema.Value.Conversion

/-!
# Rule tokens

A rule is written as a token: a name, and parameters behind a colon with commas between them.
Lists of tokens may be given as lists or as one text with bars between the tokens.
-/

namespace RecordSchema.Rule

def texts : List Value → Except Error (List String)
  | [] => .ok []
  | .text token :: rest => (texts rest).map (token :: ·)
  | other :: _ => .error (.tokenNotText other)

/-- The tokens of one text: what stands between bars, without empty pieces. -/
def splitTokens (text : String) : List String :=
  (Text.split '|' text).filter (· != "")

/-- The tokens in a value: none for no value, the pieces of a text, or a collection of texts. -/
def normalize : Value → Except Error (List String)
  | .null => .ok []
  | .text text => .ok (splitTokens text)
  | other => do texts (← other.parts)

/-- A rule with its parameters. -/
structure Invocation where
  name : String
  parameters : List String
  deriving DecidableEq, Repr

/-- Read a token.  A colon with nothing behind it is no parameter, and the parameter of `regex`
is kept whole, since commas may be part of a pattern. -/
def parse (token : String) : Invocation :=
  let (before, after) := Text.cutChars ':' token.toList
  let name := String.ofList (Text.trim before)
  if after.isEmpty then ⟨name, []⟩
  else if name = "regex" then ⟨name, [String.ofList after]⟩
  else ⟨name, (Text.splitChars ',' after).map String.ofList⟩

end RecordSchema.Rule
