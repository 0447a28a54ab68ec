import RecordSchema.Number.Reader
import RecordSchema.Text.Case
import RecordSchema.Value.Conversion

/-!
# Settings

Three environment variables set the defaults: the threshold of the log, and two switches for the
checking of records.  A value that is given explicitly wins over the environment, and the
environment over the default.
-/

namespace RecordSchema

/-- The texts of the environment variables that are set. -/
abbrev Environment :=
  Fields String

namespace Settings

/-- How the text of a variable is converted. -/
inductive Conversion where
  | text
  | integer
  | truth
  /-- Kept as it is, since no conversion is known. -/
  | verbatim
  deriving DecidableEq, Repr

namespace Conversion

def typeName : Conversion → String
  | .text => "str"
  | .integer => "int"
  | .truth => "bool"
  | .verbatim => "float"

def ofTypeName? : String → Option Conversion
  | "str" => some .text
  | "int" => some .integer
  | "bool" => some .truth
  | "float" => some .verbatim
  | _ => none

end Conversion

/-- The truth value in a text, which may be in any case and have white space around it. -/
def readTruth? (text : String) : Option Bool :=
  let word := String.ofList (Text.trim (Text.lowerAscii text.toList))
  if ["true", "1", "yes", "on"].contains word then some true
  else if ["false", "0", "no", "off"].contains word then some false
  else none

/-- Convert the text of a variable; the default stands for a variable that is not set and for a
text that cannot be converted. -/
def convert (conversion : Conversion) (default : Value) : Option String → Value
  | none => default
  | some text =>
    match conversion with
    | .text => .text text
    | .verbatim => .text text
    | .integer => ((Number.readInt? text).map Value.int).getD default
    | .truth => ((readTruth? text).map Value.bool).getD default

/-- A variable that is read from the environment. -/
structure Variable where
  name : String
  default : Value
  conversion : Conversion
  description : String
  category : String
  deriving Repr

def logLevel : Variable where
  name := "SCHEMACRAFT_LOG_LEVEL"
  default := .text "WARNING"
  conversion := .text
  description := "Log level for the command-line interface"
  category := "logging"

def strictRules : Variable where
  name := "SCHEMACRAFT_STRICT_RULES"
  default := .bool true
  conversion := .truth
  description := "Raise on unknown rule tokens (False logs and skips them)"
  category := "validation"

/-- Whether a field has at most one message. -/
def stopOnFirstFailure : Variable where
  name := "SCHEMACRAFT_STOP_ON_FIRST_FAILURE"
  default := .bool false
  conversion := .truth
  description := "Report only the first failing rule per field"
  category := "validation"

def known : List Variable :=
  [logLevel, strictRules, stopOnFirstFailure]

def named? (name : String) : Option Variable :=
  known.find? (·.name == name)

def inCategory (category : Value) : List Variable :=
  match category with
  | .null => known
  | wanted => known.filter fun entry => (Value.text entry.category).equals wanted

def read (environment : Environment) (entry : Variable) (given : Value) : Value :=
  match given with
  | .null => convert entry.conversion entry.default (environment.get? entry.name)
  | value => value

end Settings
end RecordSchema
