/-!
# Named fields in order

An ordered map from names to values: a list of pairs in which a name that is put again keeps its
place.  Records, schema documents, rule tables and message catalogues are all of this shape.
Names are texts unless another type of names is given; two names are the same when they are
equivalent, and of two equivalent names the one that came first is kept.
-/

namespace RecordSchema

/-- Values under names, in the order in which the names were first put. -/
abbrev Fields (α : Type) (κ : Type := String) :=
  List (κ × α)

namespace Fields

variable {α β κ : Type}

def names (fields : Fields α κ) : List κ :=
  fields.map (·.1)

variable [BEq κ]

def get? (fields : Fields α κ) (name : κ) : Option α :=
  fields.lookup name

def has (fields : Fields α κ) (name : κ) : Bool :=
  (fields.get? name).isSome

/-- Put a value under a name: in the place of the old one, or at the end. -/
def put (name : κ) (value : α) : Fields α κ → Fields α κ
  | [] => [(name, value)]
  | (other, old) :: rest =>
    if other == name then (other, value) :: rest else (other, old) :: put name value rest

def erase (name : κ) (fields : Fields α κ) : Fields α κ :=
  fields.filter fun field => !(field.1 == name)

/-- Put all fields of `later`, whose values win. -/
def putAll (fields later : Fields α κ) : Fields α κ :=
  later.foldl (fun done field => done.put field.1 field.2) fields

/-- The fields of a list of pairs in which the last value under a name counts. -/
def ofPairs (pairs : List (κ × α)) : Fields α κ :=
  putAll [] pairs

@[simp]
theorem get?_nil (name : κ) : get? ([] : Fields α κ) name = none := rfl

theorem get?_cons (name key : κ) (value : α) (rest : Fields α κ) :
    get? ((key, value) :: rest) name = if name == key then some value else get? rest name := by
  by_cases same : name == key <;> simp [get?, List.lookup_cons, same]

@[simp]
theorem get?_put_self [EquivBEq κ] (fields : Fields α κ) (name : κ) (value : α) :
    (fields.put name value).get? name = some value := by
  induction fields with
  | nil => simp [put, get?_cons]
  | cons field rest inductionHypothesis =>
      obtain ⟨key, old⟩ := field
      by_cases same : key == name
      · simp [put, same, get?_cons, BEq.symm same]
      · have differs : (name == key) = false := by simpa [BEq.comm] using same
        simp [put, same, get?_cons, differs, inductionHypothesis]

theorem get?_put_of_ne [EquivBEq κ] (fields : Fields α κ) {name other : κ} (value : α)
    (differs : (other == name) = false) :
    (fields.put name value).get? other = fields.get? other := by
  induction fields with
  | nil => simp [put, get?_cons, differs]
  | cons field rest inductionHypothesis =>
      obtain ⟨key, old⟩ := field
      by_cases same : key == name
      · have apart : (other == key) = false := by
          rw [← differs]
          exact BEq.congr_right same
        simp [put, same, get?_cons, apart]
      · simp [put, same, get?_cons, inductionHypothesis]

theorem names_put [EquivBEq κ] (fields : Fields α κ) (name : κ) (value : α) :
    (fields.put name value).names =
      if fields.has name then fields.names else fields.names ++ [name] := by
  induction fields with
  | nil => simp [put, names, has]
  | cons field rest inductionHypothesis =>
      obtain ⟨key, old⟩ := field
      by_cases same : key == name
      · simp [put, names, has, get?_cons, same, BEq.symm same]
      · have differs : (name == key) = false := by simpa [BEq.comm] using same
        simp only [names, List.map_cons] at inductionHypothesis ⊢
        simp only [put, same, Bool.false_eq_true, if_false, List.map_cons, inductionHypothesis,
          has, get?_cons, differs]
        split <;> simp_all [has]

end Fields
end RecordSchema
