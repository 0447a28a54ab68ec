import RecordSchema.Property.Basic
import RecordSchema.Text.Case

/-!
# Presets

Properties of one type, and properties with a usual shape: ranges of times and of dates, clock
times, and durations.  A preset with a shape takes its label from its name when none is given.
-/

namespace RecordSchema.Property

/-- A word with its first letter in upper case. -/
def capitalized : List Char → List Char
  | [] => []
  | first :: rest => Text.upperChar first ++ rest

/-- A name as a label: spaces for underscores, and every word capitalised. -/
def labelOf (name : String) : String :=
  let spaced := name.toList.map fun c => if c = '_' then ' ' else c
  String.ofList (Text.joinChars [' '] ((Text.splitChars ' ' spaced).map capitalized))

/-- The label of a name that has to be a text. -/
def humanize : Value → Except Error Value
  | .text name => .ok (.text (labelOf name))
  | other => .error other.notReplaceable

def declare (name declared description : Value) : Except Error Property := do
  let type ← SchemaType.ofDocument declared
  return leaf { name := name, declared := type, description := description }

def typed (tag : String) (name description : Value) : Property :=
  leaf { name := name, declared := .single tag, description := description }

/-- A property of a single type under a name, without a description. -/
def plain (tag name : String) : Property :=
  typed tag (.text name) .null

def formatted (name format : String) (description : Value) : Property :=
  leaf {
    name := .text name
    declared := .single "string"
    description := description
    format := .text format }

def defaulting (tag name : String) (default : Value) : Property :=
  leaf { name := .text name, declared := .single tag, default := default }

def asChildren (properties : Fields Property) : Fields (Child Property) Name :=
  properties.named.map fun entry => (entry.1, .property entry.2)

def object (name description : Value) (properties : Fields Property) : Property :=
  .mk { name := name, declared := .single "object", description := description }
    (asChildren properties) none

def describedBy (name description : Value) : Except Error Value :=
  if description.isTruthy then .ok description else humanize name

def timeRange (name description format : Value) : Except Error Property := do
  let facets : Facets := {
    name := name
    declared := .union ["object", "null"]
    description := ← describedBy name description
    attributes := [("timeRange", .bool true)]
    format := format }
  return .mk facets (asChildren [
    ("start", formatted "start" "date-time" .null),
    ("end", formatted "end" "date-time" .null)]) none

def pickerOptions : Property :=
  object (.text "options") .null [
    ("minDate", formatted "minDate" "date" .null),
    ("maxDate", formatted "maxDate" "date" .null),
    ("disabledDates", .mk { name := .text "disabledDates", declared := .single "array" } []
      (some (.property (formatted "date" "date" .null)))),
    ("format", defaulting "string" "format" (.text "YYYY-MM-DD")),
    ("shortcuts", defaulting "boolean" "shortcuts" (.bool true)),
    ("weekNumbers", defaulting "boolean" "weekNumbers" (.bool false)),
    ("monthSelector", defaulting "boolean" "monthSelector" (.bool true)),
    ("yearSelector", defaulting "boolean" "yearSelector" (.bool true))]

def dateRange (name description : Value) : Except Error Property := do
  return object name (← describedBy name description) [
    ("start", formatted "start" "date" (.text "Start date")),
    ("end", formatted "end" "date" (.text "End date")),
    ("options", pickerOptions)]

def time (name description : Value) : Except Error Property := do
  let label ← describedBy name description
  return leaf {
    name := name
    declared := .single "string"
    description := label
    format := .text "time" }

def durationUnits : List String :=
  ["seconds", "minutes", "hours", "days", "weeks", "months", "years"]

/-- A length of time: a number and a unit. -/
def duration (name description : Value) : Except Error Property := do
  let unit : Facets := {
    name := .text "unit"
    declared := .single "string"
    attributes := [("enum", .list (durationUnits.map .text))] }
  return object name (← describedBy name description) [
    ("value", plain "number" "value"),
    ("unit", leaf unit)]

/-- The preset of a name, from the name of the property, its description, and a format that only
ranges of times have. -/
def preset? (kind : String) : Option (Value → Value → Value → Except Error Property) :=
  match kind with
  | "time_range" => some timeRange
  | "date_range" => some fun name description _ => dateRange name description
  | "time" => some fun name description _ => time name description
  | "duration" => some fun name description _ => duration name description
  | tag =>
    if ["string", "number", "integer", "boolean", "object", "array"].contains tag then
      some fun name description _ => .ok (typed tag name description)
    else none

end RecordSchema.Property
