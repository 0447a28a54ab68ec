import RecordSchema.Collection.Basic
import RecordSchema.Proofs.Fields

/-!
# Renaming and merging fields

Names of fields may be changed before the fields are put or after that, as long as names that differ
stay different.  Fields that are put on others keep the places of the names that are there, and
bring in the other names in their own order.  The written form of a collected property says nothing
of its name, so that a property that is renamed keeps it.
-/

namespace RecordSchema

namespace Fields

variable {α κ μ : Type}

def rekey (change : κ → μ) (fields : Fields α κ) : Fields α μ :=
  fields.map fun field => (change field.1, field.2)

theorem named_cons (field : String × α) (rest : Fields α) :
    named (field :: rest) = (.text field.1, field.2) :: named rest := rfl

private theorem names_rekey (change : κ → μ) (fields : Fields α κ) :
    names (rekey change fields) = (names fields).map change := by
  simp [names, rekey]

theorem rekey_rekey {ν : Type} (second : μ → ν) (first : κ → μ) (fields : Fields α κ) :
    rekey second (rekey first fields) = rekey (second ∘ first) fields := by
  simp [rekey]

section Renaming

variable [BEq κ] [BEq μ] {change : κ → μ}
  (keeps : ∀ left right, (change left == change right) = (left == right))
include keeps

theorem put_rekey (fields : Fields α κ) (name : κ) (value : α) :
    put (change name) value (rekey change fields) = rekey change (put name value fields) := by
  induction fields with
  | nil =>
      rfl
  | cons field rest inductionHypothesis =>
      obtain ⟨key, old⟩ := field
      simp only [rekey] at inductionHypothesis
      simp only [rekey, List.map_cons, put, keeps]
      split
      · rfl
      · rw [inductionHypothesis, List.map_cons]

/-- Fields may be renamed before they are put or after that. -/
theorem putAll_rekey (fields later : Fields α κ) :
    putAll (rekey change fields) (rekey change later) = rekey change (putAll fields later) := by
  induction later generalizing fields with
  | nil =>
      rfl
  | cons field rest inductionHypothesis =>
      have renamedPut := put_rekey keeps fields field.1 field.2
      have remaining := inductionHypothesis (put field.1 field.2 fields)
      rw [← renamedPut] at remaining
      exact remaining

theorem Distinct.rekey {fields : Fields α κ} (distinct : Distinct fields) :
    Distinct (Fields.rekey change fields) := by
  unfold Distinct
  rw [names_rekey, List.pairwise_map]
  refine distinct.imp fun differ => ?_
  rw [keeps]
  exact differ

end Renaming

theorem named_keeps (left right : String) : (Name.text left == Name.text right) = (left == right) :=
  Name.text_beq_text left right

/-- A text in front of names keeps them apart. -/
theorem append_keeps (start left right : String) :
    (start ++ left == start ++ right) = (left == right) := by
  rw [Bool.eq_iff_iff, beq_iff_eq, beq_iff_eq, ← String.toList_inj, String.toList_append,
    String.toList_append, List.append_cancel_left_eq, String.toList_inj]

section Putting

variable [BEq κ] [LawfulBEq κ]

/-- Fields that others are laid over: their values in the places of the same names, and behind them
the others whose names are new. -/
def overlaid (fields later : Fields α κ) : Fields α κ :=
  fields.map (fun field => (field.1, (later.get? field.1).getD field.2)) ++
    later.filter fun field => !fields.has field.1

private theorem has_iff_mem {fields : Fields α κ} {name : κ} :
    fields.has name = true ↔ name ∈ names fields := by
  rw [has, Option.isSome_iff_ne_none, ne_eq, get?_eq_none_iff_not_mem, Classical.not_not]

/-- Putting under a name that is there replaces the value in its place. -/
theorem put_of_mem {fields : Fields α κ} (distinct : Distinct fields) {name : κ}
    (member : name ∈ names fields) (value : α) :
    put name value fields =
      fields.map fun field => (field.1, if field.1 == name then value else field.2) := by
  induction fields with
  | nil =>
      cases member
  | cons field rest inductionHypothesis =>
      obtain ⟨fresh, restDistinct⟩ := distinct_cons.mp distinct
      rw [put, List.map_cons]
      cases same : field.1 == name with
      | true =>
          have unchanged : ∀ other ∈ rest,
              (other.1, if other.1 == name then value else other.2) = other := by
            intro other isOther
            have differs := fresh other.1 (List.mem_map.mpr ⟨other, isOther, rfl⟩)
            rw [BEq.congr_left same, BEq.comm] at differs
            simp [differs]
          rw [List.map_congr_left unchanged, List.map_id']
          rfl
      | false =>
          have later : name ∈ names rest := by
            rcases List.mem_cons.mp member with rfl | later
            · simp at same
            · exact later
          rw [inductionHypothesis restDistinct later]
          rfl

private theorem overlaid_put_of_mem {fields later : Fields α κ} (distinct : Distinct fields)
    {name : κ}
    (known : name ∈ names fields) (fresh : get? later name = none) (value : α) :
    overlaid (put name value fields) later = overlaid fields ((name, value) :: later) := by
  have sameNames : names (put name value fields) = names fields := by
    rw [names_put, if_pos (has_iff_mem.mpr known)]
  have sameValues : (put name value fields).map
      (fun field => (field.1, (get? later field.1).getD field.2)) =
        fields.map fun field =>
          (field.1, (get? ((name, value) :: later) field.1).getD field.2) := by
    rw [put_of_mem distinct known, List.map_map]
    refine List.map_congr_left fun field _ => ?_
    by_cases same : field.1 = name
    · simp [same, fresh, get?_cons]
    · simp [same, get?_cons]
  rw [overlaid, overlaid, sameValues, List.filter_cons, has_iff_mem.mpr known]
  simp only [has_of_names sameNames, Bool.not_true, Bool.false_eq_true, if_false]

private theorem overlaid_put_of_new {fields later : Fields α κ} {name : κ}
    (new : name ∉ names fields)
    (fresh : get? later name = none) (value : α) :
    overlaid (put name value fields) later = overlaid fields ((name, value) :: later) := by
  have absent : fields.get? name = none := get?_eq_none_iff_not_mem.mpr new
  have unknown : fields.has name = false := by
    rw [has, absent, Option.isSome_none]
  have sameValues : fields.map (fun field => (field.1, (get? later field.1).getD field.2)) =
      fields.map fun field =>
        (field.1, (get? ((name, value) :: later) field.1).getD field.2) := by
    refine List.map_congr_left fun field isField => ?_
    have differs : field.1 ≠ name := by
      rintro rfl
      exact new (List.mem_map.mpr ⟨field, isField, rfl⟩)
    simp [get?_cons, differs]
  have sameNew : later.filter (fun field => !has (fields ++ [(name, value)]) field.1) =
      later.filter fun field => !fields.has field.1 := by
    refine List.filter_congr fun field isField => ?_
    have differs : field.1 ≠ name := by
      rintro rfl
      exact get?_eq_none_iff_not_mem.mp fresh (List.mem_map.mpr ⟨field, isField, rfl⟩)
    simp [has, get?_cons, differs]
  rw [put_of_get?_eq_none value absent, overlaid, overlaid, List.filter_cons, unknown, sameNew]
  simp [sameValues, fresh]

/-- Putting fields is laying them over those that are there, if no name occurs twice. -/
theorem putAll_eq_overlaid {fields later : Fields α κ} (distinct : Distinct fields)
    (laterDistinct : Distinct later) : putAll fields later = overlaid fields later := by
  induction later generalizing fields with
  | nil =>
      simp [overlaid]
  | cons field rest inductionHypothesis =>
      obtain ⟨fresh, restDistinct⟩ := distinct_cons.mp laterDistinct
      have absent : get? rest field.1 = none := by
        refine get?_eq_none_iff.mpr fun other isOther => ?_
        rw [BEq.comm]
        exact fresh other isOther
      rw [putAll_cons, inductionHypothesis (distinct.put field.1 field.2) restDistinct]
      by_cases known : field.1 ∈ names fields
      · exact overlaid_put_of_mem distinct known absent field.2
      · exact overlaid_put_of_new known absent field.2

private theorem erase_put_self (fields : Fields α κ) (name : κ) (value : α) :
    erase name (put name value fields) = erase name fields := by
  induction fields with
  | nil =>
      simp [put, erase]
  | cons field rest inductionHypothesis =>
      simp only [erase] at inductionHypothesis
      by_cases same : (field.1 == name) = true
      · simp [put, erase, same]
      · simp [put, erase, same, inductionHypothesis]

private theorem erase_put_of_ne (fields : Fields α κ) {name other : κ}
    (differs : (other == name) = false)
    (value : α) : erase name (put other value fields) = put other value (erase name fields) := by
  induction fields with
  | nil =>
      simp [put, erase, differs]
  | cons field rest inductionHypothesis =>
      simp only [erase] at inductionHypothesis
      by_cases same : (field.1 == other) = true
      · cases eq_of_beq same
        simp [put, erase, differs]
      · by_cases erased : (field.1 == name) = true
        · simp [put, erase, same, erased, inductionHypothesis]
        · simp [put, erase, same, erased, inductionHypothesis]

/-- What is left besides a name does not depend on what was under it before others were put. -/
theorem erase_putAll_of_erase {fields others : Fields α κ} {name : κ}
    (same : erase name fields = erase name others) (later : Fields α κ) :
    erase name (putAll fields later) = erase name (putAll others later) := by
  induction later generalizing fields others with
  | nil =>
      exact same
  | cons field rest inductionHypothesis =>
      refine inductionHypothesis ?_
      cases differs : field.1 == name with
      | true =>
          cases eq_of_beq differs
          rw [erase_put_self, erase_put_self, same]
      | false =>
          rw [erase_put_of_ne fields differs, erase_put_of_ne others differs, same]

end Putting

/-- Values may be changed before they are put or after that. -/
theorem map_putAll {β : Type} [BEq κ] (fields later : Fields α κ) (change : α → β) :
    (putAll fields later).map (fun field => (field.1, change field.2)) =
      putAll (fields.map fun field => (field.1, change field.2))
        (later.map fun field => (field.1, change field.2)) := by
  induction later generalizing fields with
  | nil =>
      rfl
  | cons field rest inductionHypothesis =>
      have remaining := inductionHypothesis (put field.1 field.2 fields)
      rw [map_put] at remaining
      exact remaining

end Fields

namespace Collection

def entryDocument (property : Property) : Value :=
  .map (entryOf property.entries)

private theorem entryOf_of_erase {entries others : Fields Value}
    (same : entries.erase "name" = others.erase "name") : entryOf entries = entryOf others := by
  rw [entryOf, entryOf, same]

/-- A property that is renamed is collected with the same written form. -/
theorem entryDocument_renamed (name : String) (property : Property) :
    entryDocument (renamed name property) = entryDocument property := by
  cases property with
  | mk facets children items =>
      have sameOwn : ∀ (written : Fields Value) (item : Option Value),
          (({ facets with name := .text name } : Facets).ownEntries written item).erase "name" =
            (facets.ownEntries written item).erase "name" := by
        intro written item
        simp [Facets.ownEntries, Fields.erase]
      have sameEntries := Fields.erase_putAll_of_erase
        (sameOwn (Property.childEntries children) (Property.itemsDocument items)) facets.attributes
      exact congrArg Value.map (entryOf_of_erase sameEntries)

theorem toDocument_named (properties : Fields Property) :
    toDocument properties.named =
      properties.map fun entry => (entry.1, entryDocument entry.2) := by
  rw [toDocument, Fields.written_named]
  rfl

end Collection
end RecordSchema
