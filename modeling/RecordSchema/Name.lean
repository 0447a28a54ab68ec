import RecordSchema.Error

/-!
# Names of properties

A property is named by a text as a rule, and by any value that could be a key if it comes to
that.  Names are compared as keys are: numbers by what they are worth, with truth values among
them, and all else by kind and content.  Only texts name the fields of a record.
-/

namespace RecordSchema

/-- What a property is named by. -/
structure Name where
  value : Value
  isKey : value.isHashable = true
  deriving Repr

namespace Name

/-- What two names have in common when they are the same. -/
inductive Identity where
  | text (name : String)
  | whole (value : Int)
  | fraction (value : Double)
  | entity (identity : Nat)
  | closure (identity : Nat)
  | handle (kind : ObjectKind) (number : Nat)
  | written (form : String)
  deriving DecidableEq, Repr

def identityOf : Value → Identity
  | .text name => .text name
  | .bool value => .whole (if value then 1 else 0)
  | .int value => .whole value
  | .double value =>
    match value.toInt? with
    | some whole => .whole whole
    | none => .fraction value
  | .entity identity => .entity identity
  | .closure identity => .closure identity
  | .handle kind number => .handle kind number
  | other => .written other.quoted

def identity (name : Name) : Identity :=
  identityOf name.value

instance : BEq Name where
  beq left right := left.identity == right.identity

theorem beq_iff {left right : Name} : (left == right) = true ↔ left.identity = right.identity :=
  @beq_iff_eq Identity _ _ left.identity right.identity

instance : EquivBEq Name where
  rfl := beq_iff.mpr rfl
  symm same := beq_iff.mpr (beq_iff.mp same).symm
  trans first second := beq_iff.mpr ((beq_iff.mp first).trans (beq_iff.mp second))

def text (name : String) : Name :=
  ⟨.text name, by simp [Value.isHashable]⟩

/-- The name that a value is, which has to be able to be a key. -/
def ofValue (value : Value) : Except Error Name :=
  if isKey : value.isHashable = true then .ok ⟨value, isKey⟩ else .error .wrongType

def text? (name : Name) : Option String :=
  name.value.text?

def toText (name : Name) : String :=
  name.value.toText

/-- A name with a text in front, which only a text can have. -/
def withPrefix (start : String) (name : Name) : Except Error String :=
  match name.text? with
  | some text => .ok (start ++ text)
  | none => .error .wrongType

@[simp]
theorem text?_text (name : String) : (text name).text? = some name := rfl

@[simp]
theorem toText_text (name : String) : (text name).toText = name := rfl

@[simp]
theorem text_beq_text (left right : String) : (text left == text right) = (left == right) := by
  simp [BEq.beq, identity, identityOf, text]

end Name

namespace Fields

variable {α : Type}

/-- The value in a record under a name, which only a text can be. -/
def under? (record : Fields α) (name : Name) : Option α :=
  name.text?.bind record.get?

def named (fields : Fields α) : Fields α Name :=
  fields.map fun field => (Name.text field.1, field.2)

def written (fields : Fields α Name) : Fields α :=
  fields.map fun field => (field.1.value.keyText, field.2)

def texts? : Fields α Name → Option (Fields α)
  | [] => some []
  | (name, value) :: rest => do
    let text ← name.text?
    return (text, value) :: (← texts? rest)

def toValue (fields : Fields Value Name) : Value :=
  match fields.texts? with
  | some entries => .map entries
  | none => .keyed (fields.map fun field => (field.1.value, field.2))

def ofKeyed (entries : List (Value × α)) : Fields α Name :=
  entries.filterMap fun entry =>
    if isKey : entry.1.isHashable = true then some (⟨entry.1, isKey⟩, entry.2) else none

@[simp]
theorem written_named (fields : Fields α) : fields.named.written = fields := by
  induction fields with
  | nil => rfl
  | cons field rest inductionHypothesis =>
      simp only [named, written, List.map_cons, List.map_map] at inductionHypothesis ⊢
      rw [inductionHypothesis]
      rfl

end Fields

def Value.mapping? : Value → Option (Fields Value Name)
  | .map entries => some (Fields.named entries)
  | .keyed entries => some (Fields.ofKeyed entries)
  | _ => none

end RecordSchema
