import RecordSchema.Value.Conversion

/-!
# Shapes of documents

The document of a schema has fixed entries of fixed shapes.  Telling such documents from other
values is left to a parser.  One that follows the declaration either gives the entries or lists
everything that has another shape, in the order of the entries.
-/

namespace RecordSchema.Shape

/-- The entries that could be read, or what is wrong with them. -/
abbrev Reading (α : Type) :=
  Except (List ShapeIssue) α

/-- One thing that is wrong. -/
def mismatch {α : Type} (path : List PathStep) (wanted : String) : Reading α :=
  .error [⟨path, wanted⟩]

def both {α β : Type} : Reading α → Reading β → Reading (α × β)
  | .ok first, .ok second => .ok (first, second)
  | .error first, .ok _ => .error first
  | .ok _, .error second => .error second
  | .error first, .error second => .error (first ++ second)

def text (path : List PathStep) : Value → Reading String
  | .text value => .ok value
  | _ => mismatch path "string_type"

def textItems (path : List PathStep) (position : Nat) : List Value → Reading (List String)
  | [] => .ok []
  | item :: rest =>
    (both (text (path ++ [.index position]) item) (textItems path (position + 1) rest)).map
      fun (first, others) => first :: others

def texts (path : List PathStep) : Value → Reading (List String)
  | .list items => textItems path 0 items
  | .tuple items => textItems path 0 items
  | .set items => textItems path 0 items
  | _ => mismatch path "list_type"

def map (path : List PathStep) : Value → Reading (Fields Value)
  | .map entries => .ok entries
  | _ => mismatch path "dict_type"

/-- The entries of a map at a path, each of which has a shape of its own. -/
def entriesOf {α : Type} (shape : List PathStep → Value → Reading α) (path : List PathStep) :
    Fields Value → Reading (Fields α)
  | [] => .ok []
  | (name, value) :: rest =>
    (both (shape (path ++ [.name name]) value) (entriesOf shape path rest)).map
      fun (first, others) => (name, first) :: others

def mapOf {α : Type} (shape : List PathStep → Value → Reading α) (path : List PathStep)
    (value : Value) : Reading (Fields α) :=
  match value with
  | .map entries => entriesOf shape path entries
  | _ => mismatch path "dict_type"

/-- An entry of a document under a name, or what stands for one that is missing. -/
def entry {α : Type} (fields : Fields Value Name) (name : String) (default : α)
    (shape : List PathStep → Value → Reading α) : Reading α :=
  match fields.get? (.text name) with
  | some value => shape [.name name] value
  | none => .ok default

def objectMark (path : List PathStep) : Value → Reading Unit
  | .text "object" => .ok ()
  | _ => mismatch path "literal_error"

end RecordSchema.Shape

namespace RecordSchema

/-- The document of a schema: properties under names, and the names that are required. -/
structure SchemaDocument where
  properties : Fields (Fields Value)
  required : List String
  deriving Repr

namespace SchemaDocument

def toValue (document : SchemaDocument) : Value :=
  .map [("type", .text "object"),
    ("properties", .map (document.properties.map fun entry => (entry.1, .map entry.2))),
    ("required", .list (document.required.map .text))]

/-- How the documents of schemas are told from other values: one is read, or what is wrong with it
is listed. -/
abbrev Parser :=
  Value → Except (List ShapeIssue) SchemaDocument

/-- What is relied on in a parser. -/
structure Parser.Lawful (parse : Parser) : Prop where
  /-- A document of the declared shape is accepted as it is. -/
  declared : ∀ document, parse document.toValue = .ok document
  /-- The properties of an accepted document are those that stand in it. -/
  properties : ∀ value document, parse value = .ok document → ∀ row ∈ document.properties,
    ∃ entries, value.field "properties" = .ok (.map entries) ∧ (row.1, .map row.2) ∈ entries

/-- Read the document of a schema.  Entries of other names are left out, and what is missing is
empty. -/
def ofValue : Parser := fun document =>
  match document.mapping? with
  | some fields => do
    let (_, properties, required) ← Shape.both (Shape.entry fields "type" () Shape.objectMark)
      (Shape.both (Shape.entry fields "properties" [] (Shape.mapOf Shape.map))
        (Shape.entry fields "required" [] Shape.texts))
    return ⟨properties, required⟩
  | none => Shape.mismatch [] "model_type"

end SchemaDocument
end RecordSchema
