import RecordSchema.Check.Call

/-!
# Messages

Templates for the messages of the standard rules, and the filling of templates.  A mark is a
colon and a name; longer names are filled in first, so that no mark is taken for a shorter one.
-/

namespace RecordSchema.Message

/-- The templates of rules that have one wording. -/
def standard : Fields String :=
  [("required", "The :attribute field is required."),
   ("required_with", "The :attribute field is required when :values is present."),
   ("required_without", "The :attribute field is required when :values is not present."),
   ("required_if", "The :attribute field is required when :other is :value."),
   ("prohibited", "The :attribute field is prohibited."),
   ("prohibited_if", "The :attribute field is prohibited when :other is :value."),
   ("string", "The :attribute field must be a string."),
   ("numeric", "The :attribute field must be a number."),
   ("integer", "The :attribute field must be an integer."),
   ("boolean", "The :attribute field must be true or false."),
   ("array", "The :attribute field must be an array."),
   ("email", "The :attribute field must be a valid email address."),
   ("digits", "The :attribute field must be :digits digits."),
   ("date", "The :attribute field must be a valid date."),
   ("alpha", "The :attribute field must only contain letters."),
   ("alpha_num", "The :attribute field must only contain letters and numbers."),
   ("in", "The selected :attribute is invalid."),
   ("not_in", "The selected :attribute is invalid."),
   ("regex", "The :attribute field format is invalid."),
   ("url", "The :attribute field must be a valid URL."),
   ("uuid", "The :attribute field must be a valid UUID.")]

/-- The templates of the rules about sizes, which depend on what the size is. -/
def ofSize? (rule : String) (kind : SizeKind) : Option String :=
  match rule, kind with
  | "min", .worth => some "The :attribute field must be at least :min."
  | "min", .length => some "The :attribute field must be at least :min characters."
  | "min", .count => some "The :attribute field must have at least :min items."
  | "max", .worth => some "The :attribute field must not be greater than :max."
  | "max", .length => some "The :attribute field must not be greater than :max characters."
  | "max", .count => some "The :attribute field must not have more than :max items."
  | "between", .worth => some "The :attribute field must be between :min and :max."
  | "between", .length => some "The :attribute field must be between :min and :max characters."
  | "between", .count => some "The :attribute field must have between :min and :max items."
  | _, _ => none

/-- The template of rules without one. -/
def fallback : String :=
  "The :attribute field is invalid."

/-- Names in the order in which their marks are filled in: longer ones first, and otherwise as
they come. -/
def fillingOrder (names : List String) : List String :=
  names.mergeSort fun left right => right.length ≤ left.length

def fillOne (name : String) (template replacement : Value) : Except Error Value :=
  match template, replacement with
  | .text text, .text put => .ok (.text (Text.replace (":" ++ name) put text))
  | .text _, _ => .error .wrongType
  | other, _ => .error other.notReplaceable

def fillAll (replacements : Fields Value) : List String → Value → Except Error Value
  | [], template => .ok template
  | name :: rest, template => do
    let filled ← fillOne name template ((replacements.get? name).getD .null)
    fillAll replacements rest filled

def fill (template : Value) (replacements : Fields Value) : Except Error Value :=
  fillAll replacements (fillingOrder replacements.names) template

/-- Messages and labels of one's own.  The messages stand under a rule or under a field and a
rule, the labels under fields. -/
structure Wording where
  messages : Value := .map []
  labels : Value := .map []
  deriving Repr

namespace Wording

/-- A name with spaces for underscores, which has to be a text. -/
def spaced : Value → Except Error Value
  | .text name =>
    .ok (.text (String.ofList (name.toList.map fun c => if c = '_' then ' ' else c)))
  | other => .error other.notReplaceable

def label (wording : Wording) (field : Name) : Except Error Value := do
  let own ← wording.labels.entry field.value
  if own.isTruthy then return own else spaced field.value

def joinedLabels (wording : Wording) : List String → Except Error (List Value)
  | [] => .ok []
  | field :: rest => do
    let first ← wording.label (.text field)
    return first :: (← joinedLabels wording rest)

def labelTexts : List Value → Except Error (List String)
  | [] => .ok []
  | .text name :: rest => (labelTexts rest).map (name :: ·)
  | _ :: _ => .error .wrongType

def template (wording : Wording) (known : Fields Value) (call : Call) (rule : String) :
    Except Error Value := do
  let forField ← wording.messages.field (call.field.toText ++ "." ++ rule)
  let own ← if forField.isTruthy then pure forField else wording.messages.field rule
  match own with
  | .null =>
    match ofSize? rule call.sizeKind with
    | some text => return .text text
    | none => return (known.get? rule).getD (.text fallback)
  | found => return found

/-- What the marks of a rule's template stand for, apart from the field itself. -/
def details (wording : Wording) (call : Call) (rule : String) : Except Error (Fields Value) := do
  match rule, call.parameters with
  | "min", bound :: _ => return [("min", .text bound)]
  | "max", bound :: _ => return [("max", .text bound)]
  | "digits", count :: _ => return [("digits", .text count)]
  | "between", lower :: upper :: _ => return [("min", .text lower), ("max", .text upper)]
  | "required_with", others => joined others
  | "required_without", others => joined others
  | "required_if", other :: value :: more => dependent other (value :: more)
  | "prohibited_if", other :: value :: more => dependent other (value :: more)
  | _, _ => return []
where
  /-- The labels of other fields. -/
  joined (others : List String) : Except Error (Fields Value) := do
    let labels ← labelTexts (← wording.joinedLabels others)
    return [("values", .text (Text.join " / " labels))]
  /-- The label of another field, and values of it. -/
  dependent (other : String) (values : List String) : Except Error (Fields Value) := do
    return [("other", ← wording.label (.text other)), ("value", .text (Text.join ", " values))]

def message (wording : Wording) (known : Fields Value) (call : Call) (rule : String) :
    Except Error String := do
  let template ← wording.template known call rule
  let label ← wording.label call.field
  let details ← wording.details call rule
  return (← fill template (("attribute", label) :: details)).toText

end Wording
end RecordSchema.Message
