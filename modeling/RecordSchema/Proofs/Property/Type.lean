import RecordSchema.Proofs.Outcome
import RecordSchema.Property.Type

/-!
# Types with and without null

What a type takes, by the names under which values report their types and by what values mean, and
what is left of a type when `null` is added and taken away again.  Both keep the other tags in their
order.  A union of a single tag cannot be told from the single type once `null` has been added, and
taking `null` away gives the single type.
-/

namespace RecordSchema

namespace Value

/-- The tag that a value counts as besides the one under which it reports its type. -/
def meaning? : Value → Option String
  | .int _ => some "number"
  | .double _ => some "number"
  | .list _ => some "object"
  | .tuple _ => some "object"
  | .map _ => some "object"
  | .keyed _ => some "object"
  | _ => none

private theorem runtimeTag_ne_null (value : Value) : value.runtimeTag ≠ "null" := by
  cases value <;> simp [runtimeTag]

private theorem meaning?_eq_number_iff {value : Value} :
    value.meaning? = some "number" ↔
      value.runtimeTag = "integer" ∨ value.runtimeTag = "double" := by
  cases value <;> simp [meaning?, runtimeTag]

private theorem meaning?_eq_object_iff {value : Value} :
    value.meaning? = some "object" ↔ value.runtimeTag = "array" := by
  cases value <;> simp [meaning?, runtimeTag]

private theorem meaning?_cases {value : Value} {tag : String} (means : value.meaning? = some tag) :
    tag = "number" ∨ tag = "object" := by
  cases value <;> simp_all [meaning?]

private theorem runtimeTag_ne_of_means (value : Value) {tag : String}
    (means : value.meaning? = some tag) : value.runtimeTag ≠ tag := by
  cases value <;> cases means <;> simp [runtimeTag]

end Value

namespace SchemaType

variable {declared : SchemaType} {value : Value}

/-! ## What a type takes -/

private theorem accepts_union_iff {tags : List String} :
    (union tags).accepts value = true ↔ value.runtimeTag ∈ tags := by
  simp [accepts]

private theorem accepts_single_iff {tag : String} :
    (single tag).accepts value = true ↔ value.runtimeTag = tag ∨ value.meaning? = some tag := by
  by_cases isObject : tag = "object"
  · subst isObject
    simp [accepts, Value.meaning?_eq_object_iff, or_comm]
  by_cases isNumber : tag = "number"
  · subst isNumber
    have unreported : value.runtimeTag ≠ "number" := by
      cases value <;> simp [Value.runtimeTag]
    simp [accepts, Value.meaning?_eq_number_iff, unreported]
  · have meaningless : value.meaning? ≠ some tag := by
      intro means
      exact (Value.meaning?_cases means).elim isNumber isObject
    simp [accepts, meaningless]

/-- A single type stands for what a value means, not for the tag that it reports. -/
def TakesMeaning (declared : SchemaType) (value : Value) : Prop :=
  ∃ tag, declared = .single tag ∧ value.meaning? = some tag

/-- A type takes the values that report one of its tags, and a single type also those that mean
it. -/
theorem accepts_iff :
    declared.accepts value = true ↔
      value.runtimeTag ∈ declared.members ∨ declared.TakesMeaning value := by
  cases declared with
  | single tag =>
      simp [accepts_single_iff, members, TakesMeaning]
  | union tags =>
      simp [accepts_union_iff, members, TakesMeaning]

/-! ## Adding null and taking it away -/

private theorem mem_members_withNull {tag : String} (differs : tag ≠ "null") :
    tag ∈ declared.withNull.members ↔ tag ∈ declared.members := by
  cases declared with
  | single own =>
      simp [withNull, members, differs]
  | union tags =>
      by_cases hasNull : "null" ∈ tags
      · simp [withNull, hasNull]
      · simp [withNull, members, hasNull, differs]

private theorem isUnion_withNull : ∃ tags, declared.withNull = .union tags := by
  cases declared with
  | single tag =>
      exact ⟨_, rfl⟩
  | union tags =>
      by_cases hasNull : "null" ∈ tags
      · exact ⟨tags, by simp [withNull, hasNull]⟩
      · exact ⟨"null" :: tags, by simp [withNull, hasNull]⟩

/-- With null, a type takes the values that report one of its tags, no longer those that only mean
it. -/
theorem accepts_withNull_iff :
    declared.withNull.accepts value = true ↔ value.runtimeTag ∈ declared.members := by
  obtain ⟨tags, isUnion⟩ := @isUnion_withNull declared
  have reported := @mem_members_withNull declared _ value.runtimeTag_ne_null
  rw [isUnion, members] at reported
  rw [isUnion, accepts_union_iff, reported]

theorem accepts_withNull_of_meaning (meant : declared.TakesMeaning value) :
    declared.withNull.accepts value = false := by
  obtain ⟨tag, rfl, means⟩ := meant
  rw [← Bool.not_eq_true, accepts_withNull_iff, members, List.mem_singleton]
  exact value.runtimeTag_ne_of_means means

theorem accepts_withNull_of_not_meaning (reported : ¬ declared.TakesMeaning value) :
    declared.withNull.accepts value = declared.accepts value := by
  rw [Bool.eq_iff_iff, accepts_withNull_iff, accepts_iff, or_iff_left reported]

/-! ## What stays -/

@[simp]
theorem primary_withNull (declared : SchemaType) :
    declared.withNull.primary = declared.primary := by
  cases declared with
  | single tag =>
      by_cases isNull : tag = "null"
      · simp [withNull, primary, isNull]
      · simp [withNull, primary, isNull]
  | union tags =>
      by_cases hasNull : "null" ∈ tags
      · simp [withNull, hasNull]
      · simp [withNull, primary, hasNull]

@[simp]
theorem primary_withoutNull (declared : SchemaType) :
    declared.withoutNull.primary = declared.primary := by
  cases declared with
  | single tag =>
      rfl
  | union tags =>
      have first : (tags.filter (· != "null")).head? = tags.find? (· != "null") :=
        List.head?_filter
      cases remaining : tags.filter (· != "null") with
      | nil =>
          rw [remaining] at first
          simp [withoutNull, primary, remaining, ← first]
      | cons tag others =>
          have member : tag ∈ tags.filter (· != "null") := by
            simp [remaining]
          have differs : (tag != "null") = true := (List.mem_filter.mp member).2
          rw [remaining] at first
          cases others with
          | nil =>
              simp [withoutNull, primary, remaining, ← first]
          | cons other rest =>
              simp [withoutNull, primary, remaining, ← first, differs]

/-- Adding null again changes nothing. -/
@[simp]
theorem withNull_withNull (declared : SchemaType) :
    declared.withNull.withNull = declared.withNull := by
  cases declared with
  | single tag =>
      simp [withNull]
  | union tags =>
      by_cases hasNull : "null" ∈ tags
      · simp [withNull, hasNull]
      · simp [withNull, hasNull]

private theorem withoutNull_union (tags : List String) :
    (union tags).withoutNull =
      match tags.filter (· != "null") with
      | [tag] => single tag
      | remaining => union remaining := rfl

private theorem members_withoutNull_union (tags : List String) :
    (union tags).withoutNull.members = tags.filter (· != "null") := by
  rw [withoutNull_union]
  split
  · next tag remaining => exact remaining.symm
  · rfl

private theorem mem_members_withoutNull {tag : String} (differs : tag ≠ "null") :
    tag ∈ declared.withoutNull.members ↔ tag ∈ declared.members := by
  cases declared with
  | single own =>
      exact Iff.rfl
  | union tags =>
      rw [members_withoutNull_union, members, List.mem_filter]
      simp [differs]

/-! ## Any number of changes -/

/-- What comes of a type when null is added and taken away in any order. -/
inductive Adjusted (declared : SchemaType) : SchemaType → Prop
  | unchanged : Adjusted declared declared
  | withNull {adjusted : SchemaType} :
      Adjusted declared adjusted → Adjusted declared adjusted.withNull
  | withoutNull {adjusted : SchemaType} :
      Adjusted declared adjusted → Adjusted declared adjusted.withoutNull

/-- A type that has null at most once, and some other tag. -/
structure Regular (declared : SchemaType) : Prop where
  once : declared.members.count "null" ≤ 1
  named : ∃ tag ∈ declared.members, tag ≠ "null"

theorem Regular.withNull (regular : declared.Regular) : declared.withNull.Regular where
  once := by
    cases declared with
    | single own =>
        obtain ⟨tag, member, differs⟩ := regular.named
        cases List.mem_singleton.mp member
        simp [SchemaType.withNull, members, differs]
    | union tags =>
        by_cases hasNull : "null" ∈ tags
        · simpa [SchemaType.withNull, hasNull] using regular.once
        · simp [SchemaType.withNull, members, hasNull, List.count_eq_zero]
  named := by
    obtain ⟨tag, member, differs⟩ := regular.named
    exact ⟨tag, (mem_members_withNull differs).mpr member, differs⟩

theorem Regular.withoutNull (regular : declared.Regular) : declared.withoutNull.Regular where
  once := by
    cases declared with
    | single own =>
        exact regular.once
    | union tags =>
        have gone : "null" ∉ tags.filter (· != "null") := by
          simp
        rw [members_withoutNull_union, List.count_eq_zero.mpr gone]
        exact Nat.zero_le 1
  named := by
    obtain ⟨tag, member, differs⟩ := regular.named
    exact ⟨tag, (mem_members_withoutNull differs).mpr member, differs⟩

private theorem Regular.adjusted {adjusted : SchemaType} (regular : declared.Regular)
    (changes : declared.Adjusted adjusted) : adjusted.Regular := by
  induction changes with
  | unchanged => exact regular
  | withNull _ inductionHypothesis => exact inductionHypothesis.withNull
  | withoutNull _ inductionHypothesis => exact inductionHypothesis.withoutNull

theorem Regular.members_ne_nil (regular : declared.Regular) : declared.members ≠ [] := by
  obtain ⟨tag, member, _⟩ := regular.named
  exact List.ne_nil_of_mem member

/-! ## Written forms -/

@[simp]
theorem tagsOf_map_text (tags : List String) : tagsOf (tags.map Value.text) = .ok tags := by
  induction tags with
  | nil =>
      rfl
  | cons tag rest inductionHypothesis =>
      simp [tagsOf, inductionHypothesis]

theorem ofDocument_toDocument (declares : declared.members ≠ []) :
    ofDocument declared.toDocument = .ok declared := by
  cases declared with
  | single tag =>
      rfl
  | union tags =>
      cases tags with
      | nil =>
          exact absurd rfl declares
      | cons tag rest =>
          simp only [toDocument, ofDocument, unionOf, tagsOf_map_text, Outcome.ok_bind]
          rfl

/-- A declaration that can be read names at least one type. -/
theorem members_ne_nil {document : Value} (read : ofDocument document = .ok declared) :
    declared.members ≠ [] := by
  have ofUnion : ∀ {listed : List Value}, unionOf listed = .ok declared →
      declared.members ≠ [] := by
    intro listed read
    obtain ⟨tags, _, isUnion⟩ := Outcome.bind_eq_ok_iff.mp read
    cases tags with
    | nil =>
        cases isUnion
    | cons tag rest =>
        cases isUnion
        exact List.cons_ne_nil tag rest
  cases document with
  | text tag =>
      cases read
      exact List.cons_ne_nil tag []
  | list listed =>
      exact ofUnion read
  | tuple listed =>
      exact ofUnion read
  | _ =>
      cases read

/-! ## Taking back what was added -/

private theorem withNull_withoutNull_single {tag : String} (differs : tag ≠ "null") :
    (single tag).withNull.withoutNull = single tag := by
  simp [withNull, withoutNull, differs]

/-- Taking null away from a union comes to the same whether it has been added before or not. -/
theorem withNull_withoutNull_union (tags : List String) :
    (union tags).withNull.withoutNull = (union tags).withoutNull := by
  by_cases hasNull : "null" ∈ tags
  · simp [withNull, hasNull]
  · have added : (union tags).withNull = union ("null" :: tags) := by
      simp [withNull, hasNull]
    rw [added, withoutNull_union, withoutNull_union, List.filter_cons_of_neg (by decide)]

private theorem withoutNull_singleton {tag : String} (differs : tag ≠ "null") :
    (union [tag]).withoutNull = single tag := by
  simp [withoutNull, differs]

private theorem withoutNull_of_absent {tags : List String} (absent : "null" ∉ tags)
    (several : ∀ tag, tags ≠ [tag]) : (union tags).withoutNull = union tags := by
  have kept : tags.filter (· != "null") = tags := by
    rw [List.filter_eq_self]
    intro tag member
    rw [bne_iff_ne]
    rintro rfl
    exact absent member
  rw [withoutNull_union, kept]
  split
  · next tag => exact absurd rfl (several tag)
  · rfl

/-- A type without null that is no union of a single tag is itself again after null has been added
and taken away. -/
theorem withNull_withoutNull (absent : "null" ∉ declared.members)
    (several : ∀ tag, declared ≠ .union [tag]) : declared.withNull.withoutNull = declared := by
  cases declared with
  | single tag =>
      exact withNull_withoutNull_single (by simpa [members, eq_comm] using absent)
  | union tags =>
      rw [withNull_withoutNull_union]
      exact withoutNull_of_absent absent fun tag same => several tag (congrArg union same)

/-- A regular type can be written and read again after any changes, and has null at most once.  If
it is without null, adding null and taking it away gives the type itself, and the single type if it
is a union of a single tag, which then also takes what means its tag. -/
theorem Regular.readable_and_undone (regular : declared.Regular) :
    (∀ adjusted, declared.Adjusted adjusted →
      ofDocument adjusted.toDocument = .ok adjusted ∧ adjusted.members.count "null" ≤ 1) ∧
    ("null" ∉ declared.members →
      ((∀ tag, declared ≠ .union [tag]) →
        declared.withNull.withoutNull = declared ∧
        ∀ value, declared.withNull.withoutNull.accepts value = declared.accepts value) ∧
      ∀ tag, declared = .union [tag] →
        declared.withNull.withoutNull = .single tag ∧
        ∀ value, declared.withNull.withoutNull.accepts value = true ↔
          declared.accepts value = true ∨ value.meaning? = some tag) := by
  constructor
  · intro adjusted changes
    have stays := regular.adjusted changes
    exact ⟨ofDocument_toDocument stays.members_ne_nil, stays.once⟩
  · intro absent
    constructor
    · intro several
      have undone := withNull_withoutNull absent several
      exact ⟨undone, fun value => by rw [undone]⟩
    · rintro tag rfl
      have differs : tag ≠ "null" := by
        simpa [members, eq_comm] using absent
      have collapsed : (union [tag]).withNull.withoutNull = single tag :=
        (withNull_withoutNull_union [tag]).trans (withoutNull_singleton differs)
      refine ⟨collapsed, fun value => ?_⟩
      rw [collapsed, accepts_single_iff, accepts_union_iff, List.mem_singleton]

/-- Texts and integers, after null has been added twice and taken away. -/
theorem readable_and_undone_mixed :
    (union ["string", "integer"]).Regular ∧
      (union ["string", "integer"]).Adjusted
        (union ["string", "integer"]).withNull.withNull.withoutNull ∧
      ofDocument (union ["string", "integer"]).withNull.withNull.withoutNull.toDocument =
        .ok (union ["string", "integer"]) ∧
      "null" ∉ (union ["string", "integer"]).members ∧
      (union ["string", "integer"]).withNull.withoutNull = union ["string", "integer"] := by
  have regular : (union ["string", "integer"]).Regular := ⟨by decide, "string", by decide⟩
  have changes : (union ["string", "integer"]).Adjusted
      (union ["string", "integer"]).withNull.withNull.withoutNull :=
    .withoutNull (.withNull (.withNull .unchanged))
  have absent : "null" ∉ (union ["string", "integer"]).members := by
    decide
  obtain ⟨stays, undone⟩ := regular.readable_and_undone
  have back := ((undone absent).1 (by simp)).1
  refine ⟨regular, changes, ?_, absent, back⟩
  have read := (stays _ changes).1
  rwa [withNull_withNull, back] at read ⊢

/-- A union of numbers alone takes no number, and takes numbers after null has been added and taken
away. -/
theorem undone_numberUnion :
    ofDocument (.list [.text "number"]) = .ok (union ["number"]) ∧
      "null" ∉ (union ["number"]).members ∧
      (union ["number"]).withNull.withoutNull ≠ union ["number"] ∧
      (union ["number"]).accepts (.int 5) = false ∧
      (union ["number"]).withNull.withoutNull.accepts (.int 5) = true :=
  ⟨rfl, by decide, by decide, by decide, by decide⟩

end SchemaType
end RecordSchema
