import RecordSchema.Proofs.Property.Edit
import RecordSchema.Proofs.Property.RoundTrip

/-!
# Children from mappings and from documents

The children of an object are replaced by those of a mapping of names to schemas, or by those that
the document of an object lists.  A child that is named `type` is a schema and no type, so no
mapping of schemas is taken for a document.  A document that lists no children is taken for a
mapping, since it does not say that there are none, and refused for the first of its entries that
is no schema.
-/

namespace RecordSchema

open Property (noView childEntries childDocument)

namespace Offered

def ofChild : Child Property → Offered Property
  | .property nested => .property nested
  | .document fields => .value (.map fields)

def ofChildren (children : Fields (Child Property) Name) : Fields (Offered Property) Name :=
  children.map fun entry => (entry.1, ofChild entry.2)

variable {children : Fields (Child Property) Name}

@[simp]
theorem toChild_ofChild (name : Name) (child : Child Property) :
    toChild name (ofChild child) = .ok child := by
  cases child <;> rfl

private theorem toChildren_ofChildren (children : Fields (Child Property) Name) :
    toChildren (ofChildren children) = .ok children := by
  induction children with
  | nil =>
      rfl
  | cons entry rest inductionHypothesis =>
      have later : toChildren (rest.map fun entry => (entry.1, ofChild entry.2)) = .ok rest :=
        inductionHypothesis
      simp [ofChildren, toChildren, later]

/-- No schema is a tag or a list of tags. -/
theorem objectFields?_ofChildren (children : Fields (Child Property) Name) :
    objectFields? (ofChildren children) = none := by
  have typed : (ofChildren children).get? (.text "type") =
      (children.get? (.text "type")).map ofChild := Fields.get?_map_values children ofChild _
  rw [objectFields?, typed]
  cases children.get? (.text "type") with
  | none =>
      dsimp only [Option.map_none]
      split <;> rfl
  | some child =>
      cases child <;> dsimp only [Option.map_some, ofChild] <;> split <;> rfl

private theorem get?_ofFields (fields : Fields Value) (name : String) :
    (ofFields noView fields).get? (.text name) = (fields.get? name).map noView := by
  rw [ofFields, Fields.get?_map_values fields.named noView, Fields.get?_named]

/-- What is taken for the mapping: the children that the document of an object lists, or all that is
offered. -/
def unwrapped (offered : Fields (Offered Property) Name) : Fields (Offered Property) Name :=
  match objectFields? offered with
  | some fields => ofFields noView fields
  | none => offered

private theorem unwrapped_ofChildren (children : Fields (Child Property) Name) :
    unwrapped (ofChildren children) = ofChildren children := by
  rw [unwrapped, objectFields?_ofChildren]

end Offered

namespace SchemaType

private theorem toDocument_of_primary {declared : SchemaType}
    (isObject : declared.primary = "object") :
    declared.toDocument = .text "object" ∨
      ∃ tags, declared.toDocument = .list tags ∧ Value.text "object" ∈ tags := by
  cases declared with
  | single tag =>
      exact .inl (congrArg Value.text isObject)
  | union tags =>
      right
      refine ⟨tags.map .text, rfl, List.mem_map_of_mem ?_⟩
      cases found : tags.find? (· != "null") with
      | none =>
          simp [primary, found] at isObject
      | some tag =>
          have isTag : tag = "object" := by
            simpa [primary, found] using isObject
          exact isTag ▸ List.mem_of_find?_eq_some found

end SchemaType

namespace Property

variable {property other : Property}

private theorem entries_of_facets (property : Property) :
    property.entries =
      property.facets.entries (childEntries property.children) (itemsDocument property.items) := by
  cases property with
  | mk facets children items =>
      rw [entries]
      rfl

section Document

variable (distinct : other.facets.attributes.Distinct) (own : other.facets.OwnKeys)
include distinct own

private theorem get?_type : other.entries.get? "type" = some other.facets.declared.toDocument := by
  rw [entries_of_facets, Facets.get?_entries distinct own _ _ (by decide)]
  simp [Facets.ownEntries, Fields.get?_cons]

/-- The document of an object is told from other mappings by the children that it lists. -/
theorem objectFields?_entries (isObject : other.facets.declared.primary = "object") :
    Offered.objectFields? (Offered.ofFields noView other.entries) =
      if other.children = [] then none else some (childEntries other.children) := by
  have listed : other.entries.get? "properties" =
      if other.children = [] then none else some (.map (childEntries other.children)) := by
    cases other with
    | mk facets children items =>
        exact get?_properties distinct own children items
  rw [Offered.objectFields?, Offered.get?_ofFields, Offered.get?_ofFields,
    get?_type distinct own, listed]
  by_cases childless : other.children = []
  · simp [childless]
  · rw [if_neg childless, if_neg childless]
    rcases SchemaType.toDocument_of_primary isObject with single | ⟨tags, union, member⟩
    · simp [single, noView]
    · have isListed : tags.any (·.equals (.text "object")) = true :=
        List.any_eq_true.mpr ⟨_, member, by simp⟩
      simp [union, noView, isListed]

private theorem entries_begin : ∃ rest, other.entries =
    ("name", other.facets.name) :: ("type", other.facets.declared.toDocument) :: rest := by
  rw [entries_of_facets, Facets.entries_eq distinct own]
  exact ⟨_, rfl⟩

end Document

/-! ## Children that are documents -/

def childFields : Child Property → Fields Value
  | .property nested => nested.entries
  | .document fields => fields

def asDocuments (children : List (Name × Child Property)) : Fields (Child Property) Name :=
  children.map fun entry => (.text entry.1.value.keyText, .document (childFields entry.2))

private theorem childDocument_eq (child : Child Property) :
    childDocument child = .map (childFields child) := by
  cases child <;> rfl

private theorem childEntries_eq_map (children : List (Name × Child Property)) :
    childEntries children =
      children.map fun entry => (entry.1.value.keyText, childDocument entry.2) := by
  induction children with
  | nil =>
      rfl
  | cons entry rest inductionHypothesis =>
      rw [childEntries, inductionHypothesis, List.map_cons]

private theorem ofFields_childEntries (children : List (Name × Child Property)) :
    Offered.ofFields noView (childEntries children) =
      Offered.ofChildren (asDocuments children) := by
  rw [childEntries_eq_map, Offered.ofFields, Fields.named, Offered.ofChildren, asDocuments]
  simp only [List.map_map]
  refine List.map_congr_left fun entry _ => ?_
  simp only [Function.comp_apply, childDocument_eq]
  rfl

private theorem childEntries_asDocuments (children : List (Name × Child Property)) :
    childEntries (asDocuments children) = childEntries children := by
  rw [childEntries_eq_map, childEntries_eq_map, asDocuments, List.map_map]
  refine List.map_congr_left fun entry _ => ?_
  rw [childDocument_eq entry.2]
  rfl

private theorem childEntries_named (children : Fields (Child Property)) :
    childEntries children.named = children.map fun entry => (entry.1, childDocument entry.2) := by
  rw [childEntries_eq_map, Fields.named, List.map_map]
  rfl

/-! ## Replacing the children -/

def withNested (property : Property) (children : Fields (Child Property) Name) : Property :=
  .mk property.facets children property.items

private theorem setChildren_eq (isObject : property.facets.declared.primary = "object")
    (offered : Fields (Offered Property) Name) :
    Edit.apply property (.setChildren offered) =
      .atomic property ((Offered.toChildren (Offered.unwrapped offered)).map
        property.withNested) := by
  have isAllowed : property.node.requirePrimary "object" .childrenOnNonObject = .ok () :=
    if_pos isObject
  simp only [Edit.apply, Node.setChildren, isAllowed, Outcome.ok_bind]
  change Change.atomic property (Except.map ofNode
    (Offered.toChildren (Offered.unwrapped offered) >>= fun nested => _)) = _
  cases Offered.toChildren (Offered.unwrapped offered) <;> rfl

private theorem setChildren_ofChildren (isObject : property.facets.declared.primary = "object")
    (nested : Fields (Child Property) Name) :
    Edit.apply property (.setChildren (Offered.ofChildren nested)) =
      .done (property.withNested nested) := by
  rw [setChildren_eq isObject, Offered.unwrapped_ofChildren, Offered.toChildren_ofChildren]
  rfl

variable (isObject : property.facets.declared.primary = "object")
  (otherObject : other.facets.declared.primary = "object")
  (distinct : other.facets.attributes.Distinct) (own : other.facets.OwnKeys)
include isObject otherObject distinct own

/-- The children that the document of an object lists are taken over. -/
theorem setChildren_document (hasChildren : other.children ≠ []) :
    Edit.apply property (.setChildren (Offered.ofFields noView other.entries)) =
      .done (property.withNested (asDocuments other.children)) := by
  have unwrapped : Offered.unwrapped (Offered.ofFields noView other.entries) =
      Offered.ofChildren (asDocuments other.children) := by
    rw [Offered.unwrapped, objectFields?_entries distinct own otherObject, if_neg hasChildren]
    exact ofFields_childEntries other.children
  rw [setChildren_eq isObject, unwrapped, Offered.toChildren_ofChildren]
  rfl

/-- A document that lists no children begins with entries of which one is no schema. -/
theorem setChildren_childless (childless : other.children = []) :
    ∃ key ∈ ["name", "type"],
      Edit.apply property (.setChildren (Offered.ofFields noView other.entries)) =
        .failed property (.childNotSchema key) := by
  have unwrapped : Offered.unwrapped (Offered.ofFields noView other.entries) =
      Offered.ofFields noView other.entries := by
    rw [Offered.unwrapped, objectFields?_entries distinct own otherObject, if_pos childless]
  obtain ⟨rest, begins⟩ := entries_begin distinct own
  have typeRefused : (noView other.facets.declared.toDocument).toChild (.text "type") =
      .error (.childNotSchema "type") := by
    cases other.facets.declared <;> rfl
  rw [setChildren_eq isObject, unwrapped, begins]
  cases other.facets.name with
  | map fields =>
      refine ⟨"type", by simp, ?_⟩
      simp only [Offered.ofFields, Fields.named, List.map_cons, Offered.toChildren, typeRefused]
      rfl
  | keyed entries =>
      refine ⟨"type", by simp, ?_⟩
      simp only [Offered.ofFields, Fields.named, List.map_cons, Offered.toChildren, typeRefused]
      rfl
  | _ =>
      exact ⟨"name", by simp, rfl⟩

omit otherObject distinct own

/-- From a mapping of names to schemas an object gets just these children, in their order and
whatever the names are.  From the document of an object it gets the children of that object if there
are any; a document without children is refused and leaves the object as it was. -/
theorem setChildren_from_mapping_or_document :
    (∀ nested : Fields (Child Property), ∃ after,
      Edit.apply property (.setChildren (Offered.ofChildren nested.named)) = .done after ∧
        childEntries after.children =
          nested.map fun entry => (entry.1, childDocument entry.2)) ∧
    (∀ other : Property, other.facets.declared.primary = "object" →
      other.facets.attributes.Distinct → other.facets.OwnKeys →
        (other.children ≠ [] → ∃ after,
          Edit.apply property (.setChildren (Offered.ofFields noView other.entries)) =
              .done after ∧
            childEntries after.children = childEntries other.children) ∧
        (other.children = [] → ∃ key ∈ ["name", "type"],
          Edit.apply property (.setChildren (Offered.ofFields noView other.entries)) =
            .failed property (.childNotSchema key))) := by
  constructor
  · intro nested
    refine ⟨_, setChildren_ofChildren isObject nested.named, ?_⟩
    exact childEntries_named nested
  · intro other otherObject distinct own
    constructor
    · intro hasChildren
      refine ⟨_, setChildren_document isObject otherObject distinct own hasChildren, ?_⟩
      exact childEntries_asDocuments other.children
    · exact setChildren_childless isObject otherObject distinct own

omit isObject

/-- An address whose children are named like entries of a document. -/
def address : Property :=
  .mk (plain "object" "address").facets
    [(.text "type", .property (plain "string" "type")),
     (.text "properties", .document [("type", .text "string")])] none

theorem setChildren_from_mapping_or_document_address :
    (plain "object" "person").facets.declared.primary = "object" ∧
      ∃ after, Edit.apply (plain "object" "person")
          (.setChildren (Offered.ofFields noView address.entries)) = .done after ∧
        childEntries after.children = childEntries address.children ∧
        Fields.names (childEntries after.children) = ["type", "properties"] := by
  have isObject : (plain "object" "person").facets.declared.primary = "object" := rfl
  have both := setChildren_from_mapping_or_document isObject
  have own : address.facets.OwnKeys := List.forall_mem_nil _
  obtain ⟨after, done, same⟩ :=
    (both.2 address rfl Fields.distinct_nil own).1 (List.cons_ne_nil _ _)
  refine ⟨isObject, after, done, same, ?_⟩
  rw [same]
  rfl

/-- The document of an object without children is taken for a mapping in which `name` is to be a
schema. -/
theorem setChildren_refuses_childless :
    (plain "object" "o").facets.declared.primary = "object" ∧
      (plain "object" "o").facets.OwnKeys ∧
      Edit.apply (plain "object" "p")
          (.setChildren (Offered.ofFields noView (plain "object" "o").entries)) =
        .failed (plain "object" "p") (.childNotSchema "name") :=
  ⟨rfl, List.forall_mem_nil _, rfl⟩

end Property
end RecordSchema
