import RecordSchema.Property.Reader
import RecordSchema.Proofs.Fields

/-!
# The entries of a written property

The entries with a meaning of their own stand in a fixed order, so no name occurs twice among them.
Attributes under other names follow them, and take nothing away.
-/

namespace RecordSchema

/-- A value, unless it is the absent one. -/
def Value.present? : Value → Option Value
  | .null => none
  | present => some present

@[simp]
theorem Value.getD_present? (value : Value) : value.present?.getD .null = value := by
  cases value <;> rfl

namespace Facets

@[simp]
theorem get?_optional (key name : String) (value : Value) :
    Fields.get? (optional key value) name = if name = key then value.present? else none := by
  cases value <;> simp [optional, Value.present?, Fields.get?_cons]

private theorem names_optional (key : String) (value : Value) :
    (Fields.names (optional key value)).Sublist [key] := by
  cases value <;> simp [optional]

/-- The names stand in the order of `documentKeys`. -/
theorem names_ownEntries (facets : Facets) (children : Fields Value) (items : Option Value) :
    (Fields.names (facets.ownEntries children items)).Sublist documentKeys := by
  have ofChildren :
      (Fields.names (if children.isEmpty then []
        else [("properties", Value.map children)])).Sublist ["properties"] := by
    split <;> simp
  have ofConditionals :
      (Fields.names (if facets.conditionals.isEmpty then []
        else [("conditionalRules",
          Value.list (facets.conditionals.map ConditionalRule.toDocument))])).Sublist
        ["conditionalRules"] := by
    split <;> simp
  simp only [ownEntries, Fields.names_append]
  exact List.Sublist.refl ["name", "type"]
    |>.append (names_optional "description" _)
    |>.append (names_optional "default" _)
    |>.append (List.Sublist.refl ["rules", "required"])
    |>.append (names_optional "format" _)
    |>.append (names_optional "pattern" _)
    |>.append (names_optional "minimum" _)
    |>.append (names_optional "maximum" _)
    |>.append (names_optional "$ref" _)
    |>.append ofChildren
    |>.append (names_optional "items" _)
    |>.append ofConditionals

private theorem distinct_ownEntries (facets : Facets) (children : Fields Value)
    (items : Option Value) :
    (facets.ownEntries children items).Distinct := by
  have noneTwice : documentKeys.Nodup := by
    decide
  exact Fields.distinct_iff_nodup.mpr (noneTwice.sublist (facets.names_ownEntries children items))

/-- Attributes that stand under no name with a meaning of its own. -/
def OwnKeys (facets : Facets) : Prop :=
  ∀ key ∈ facets.attributes.names, key ∉ documentKeys

variable {facets : Facets}

theorem entries_eq (distinct : facets.attributes.Distinct) (own : facets.OwnKeys)
    (children : Fields Value) (items : Option Value) :
    facets.entries children items = facets.ownEntries children items ++ facets.attributes := by
  apply Fields.putAll_of_distinct
  refine Fields.distinct_append.mpr ⟨facets.distinct_ownEntries children items, distinct, ?_⟩
  intro earlier isOwn later isAttribute
  have known : earlier ∈ documentKeys := (facets.names_ownEntries children items).subset isOwn
  rw [beq_eq_false_iff_ne]
  intro same
  exact own later isAttribute (same ▸ known)

/-- Attributes do not hide entries with a meaning of their own. -/
theorem get?_entries (distinct : facets.attributes.Distinct) (own : facets.OwnKeys)
    (children : Fields Value) (items : Option Value) {name : String}
    (known : name ∈ documentKeys) :
    (facets.entries children items).get? name =
      (facets.ownEntries children items).get? name := by
  have absent : facets.attributes.get? name = none := by
    apply Fields.get?_eq_none_iff.mpr
    intro other isAttribute
    rw [beq_eq_false_iff_ne]
    intro same
    exact own other isAttribute (same ▸ known)
  rw [entries_eq distinct own, Fields.get?_append, absent, Option.or_none]

/-- What is left when the entries with a meaning of their own are taken away. -/
theorem filter_entries (distinct : facets.attributes.Distinct) (own : facets.OwnKeys)
    (children : Fields Value) (items : Option Value) :
    (facets.entries children items).filter (fun field => !documentKeys.contains field.1) =
      facets.attributes := by
  rw [entries_eq distinct own, List.filter_append]
  have noOwn : (facets.ownEntries children items).filter
      (fun field => !documentKeys.contains field.1) = [] := by
    apply List.filter_eq_nil_iff.mpr
    intro field member
    have known : field.1 ∈ documentKeys :=
      (facets.names_ownEntries children items).subset (List.mem_map.mpr ⟨field, member, rfl⟩)
    simp [known]
  have allOthers : facets.attributes.filter
      (fun field => !documentKeys.contains field.1) = facets.attributes := by
    apply List.filter_eq_self.mpr
    intro field member
    have unknown : field.1 ∉ documentKeys :=
      own field.1 (List.mem_map.mpr ⟨field, member, rfl⟩)
    simp [unknown]
  rw [noOwn, allOthers, List.nil_append]

end Facets
end RecordSchema
