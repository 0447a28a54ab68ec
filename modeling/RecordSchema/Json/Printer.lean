import RecordSchema.Error
import RecordSchema.Text.Pieces

/-!
# Writing JSON

One writer serves documents and reports.  A `Style` says how it breaks lines, which characters
it escapes and how it writes numbers.  Dates, sets and things without data have no written form,
and the names in a map have to be plain.
-/

namespace RecordSchema.Json

/-- How values are written. -/
structure Style where
  /-- What each level of nesting puts in front of a line; a single line when there is none. -/
  indentation : Option String
  /-- Whether characters beyond ASCII are written as escapes. -/
  asciiOnly : Bool
  /-- Whether numbers that are not finite are written as no value. -/
  finiteOnly : Bool
  doubles : Double.Layout
  deriving DecidableEq, Repr

/-- The style of documents: characters beyond ASCII are escaped, and all numbers written. -/
def documentStyle (indentation : Option String) : Style where
  indentation := indentation
  asciiOnly := true
  finiteOnly := false
  doubles := ⟨-4, 16, 2, "NaN", "Infinity"⟩

/-- The style of reports: characters stand for themselves, and only finite numbers are written. -/
def reportStyle (indentation : Option String) : Style where
  indentation := indentation
  asciiOnly := false
  finiteOnly := true
  doubles := ⟨-5, 16, 1, "null", "null"⟩

def unitEscape (unit : Nat) : List Char :=
  '\\' :: 'u' :: Text.hexDigits 4 unit

/-- One character of a text. -/
def writtenChar (asciiOnly : Bool) (c : Char) : List Char :=
  if c = '"' then ['\\', '"']
  else if c = '\\' then ['\\', '\\']
  else if c = '\n' then ['\\', 'n']
  else if c = '\r' then ['\\', 'r']
  else if c = '\t' then ['\\', 't']
  else if c = '\x0c' then ['\\', 'f']
  else if c = '\x08' then ['\\', 'b']
  else if c.toNat < 32 then unitEscape c.toNat
  else if c.toNat < 127 ∨ !asciiOnly then [c]
  else if c.toNat < 0x10000 then unitEscape c.toNat
  else
    let offset := c.toNat - 0x10000
    unitEscape (0xD800 + offset / 0x400) ++ unitEscape (0xDC00 + offset % 0x400)

def writtenText (asciiOnly : Bool) (text : String) : String :=
  String.ofList ('"' :: text.toList.flatMap (writtenChar asciiOnly) ++ ['"'])

/-- A double; the layout's names stand for those that are not finite. -/
def writtenDouble (style : Style) (value : Double) : String :=
  match value with
  | .infinite _ => if style.finiteOnly then style.doubles.infinity else value.render style.doubles
  | _ => value.render style.doubles

/-- Written parts between brackets, each on a line of its own when the style breaks lines. -/
def bracketed (style : Style) (level : Nat) (opening closing : String)
    (parts : List String) : String :=
  if parts.isEmpty then opening ++ closing
  else
    match style.indentation with
    | none => opening ++ Text.join ", " parts ++ closing
    | some unit =>
      let margin := fun depth : Nat => "\n" ++ String.join (List.replicate depth unit)
      opening ++ margin (level + 1) ++ Text.join ("," ++ margin (level + 1)) parts ++
        margin level ++ closing

def writtenKey (style : Style) : Value → Except Error String
  | .text name => .ok (writtenText style.asciiOnly name)
  | .double value => .ok (writtenText style.asciiOnly (writtenDouble style value))
  | .null => .ok (writtenText style.asciiOnly Value.null.keyText)
  | .bool value => .ok (writtenText style.asciiOnly (Value.bool value).keyText)
  | .int value => .ok (writtenText style.asciiOnly (Value.int value).keyText)
  | _ => .error .wrongType

mutual

def write (style : Style) (level : Nat) : Value → Except Error String
  | .null => .ok "null"
  | .bool true => .ok "true"
  | .bool false => .ok "false"
  | .int value => .ok (toString value)
  | .double value => .ok (writtenDouble style value)
  | .text value => .ok (writtenText style.asciiOnly value)
  | .list items => do
    return bracketed style level "[" "]" (← writeItems style (level + 1) items)
  | .tuple items => do
    return bracketed style level "[" "]" (← writeItems style (level + 1) items)
  | .map entries => do
    return bracketed style level "\x7b" "\x7d" (← writeEntries style (level + 1) entries)
  | .keyed entries => do
    return bracketed style level "\x7b" "\x7d" (← writeKeyed style (level + 1) entries)
  | .closure _ => .ok "\x7b\x7d"
  | value => .error (.notWritable value.typeName)

def writeItems (style : Style) (level : Nat) : List Value → Except Error (List String)
  | [] => .ok []
  | item :: rest => do
    let written ← write style level item
    return written :: (← writeItems style level rest)

/-- The fields of a map. -/
def writeEntries (style : Style) (level : Nat) :
    List (String × Value) → Except Error (List String)
  | [] => .ok []
  | (name, value) :: rest => do
    let written ← write style level value
    return (writtenText style.asciiOnly name ++ ": " ++ written) ::
      (← writeEntries style level rest)

/-- The entries of a map with names of any kind. -/
def writeKeyed (style : Style) (level : Nat) :
    List (Value × Value) → Except Error (List String)
  | [] => .ok []
  | (key, value) :: rest => do
    let name ← writtenKey style key
    let written ← write style level value
    return (name ++ ": " ++ written) :: (← writeKeyed style level rest)

end

end RecordSchema.Json
