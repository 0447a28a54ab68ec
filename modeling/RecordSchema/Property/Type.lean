import RecordSchema.Value.Conversion

/-!
# Declared types

A property declares one type or a union of types.  A single type is matched by meaning: a number
is an integer or a double, an object any collection or thing.  A union is matched by the names
under which values report their own types, so a union of `number` takes no number at all.
-/

namespace RecordSchema

def Value.runtimeTag : Value → String
  | .null => "NULL"
  | .bool _ => "boolean"
  | .int _ => "integer"
  | .double _ => "double"
  | .text _ => "string"
  | .list _ => "array"
  | .tuple _ => "array"
  | .map _ => "array"
  | .keyed _ => "array"
  | _ => "object"

/-- A declared type. -/
inductive SchemaType where
  | single (tag : String)
  | union (tags : List String)
  deriving DecidableEq, Repr

namespace SchemaType

def members : SchemaType → List String
  | .single tag => [tag]
  | .union tags => tags

/-- The first tag other than `null`, which a union of nothing else falls back to. -/
def primary : SchemaType → String
  | .single tag => tag
  | .union tags => (tags.find? (· != "null")).getD "null"

/-- The written form: a tag, or a list of tags. -/
def toDocument : SchemaType → Value
  | .single tag => .text tag
  | .union tags => .list (tags.map .text)

/-- The type that also allows no value.  A single type becomes a union in any case. -/
def withNull : SchemaType → SchemaType
  | .single tag => .union ["null", tag]
  | .union tags => if tags.contains "null" then .union tags else .union ("null" :: tags)

/-- The type that does not allow for no value.  A union that is left with one member becomes a
single type; a single type stays as it is. -/
def withoutNull : SchemaType → SchemaType
  | .single tag => .single tag
  | .union tags =>
    match tags.filter (· != "null") with
    | [tag] => .single tag
    | remaining => .union remaining

def accepts (declared : SchemaType) (value : Value) : Bool :=
  let tag := value.runtimeTag
  match declared with
  | .single "object" => tag == "array" || tag == "object"
  | .single "number" => tag == "integer" || tag == "double"
  | .single other => tag == other
  | .union tags => tags.contains tag

def tagsOf : List Value → Except Error (List String)
  | [] => .ok []
  | .text tag :: rest => (tagsOf rest).map (tag :: ·)
  | other :: _ => .error (.typeTagNotText other)

/-- The union of the tags in a list of values, of which there has to be one. -/
def unionOf (items : List Value) : Except Error SchemaType := do
  match ← tagsOf items with
  | [] => throw .unionEmpty
  | tags => return .union tags

/-- Read a declaration: a tag, or a list of tags. -/
def ofDocument : Value → Except Error SchemaType
  | .text tag => .ok (.single tag)
  | .list items => unionOf items
  | .tuple items => unionOf items
  | other => .error (.typeUnsupported other)

end SchemaType
end RecordSchema
