import RecordSchema.Proofs.Property.Entries
import RecordSchema.Proofs.Property.Reading
import RecordSchema.Proofs.Property.Soundness
import RecordSchema.Proofs.Rule.RoundTrip

/-!
# Reading back written properties

A sound property whose parts can be written in full is read back from its written form, together
with all that is nested in it.  Closures cannot be written, nested documents come back as
properties, and an attribute may stand in the way of an entry with a meaning of its own: these
are the properties that are not restorable.
-/

namespace RecordSchema

namespace Facets

/-- New tokens are appended. -/
theorem addTokens_of_nodup {facets : Facets} {tokens : List String}
    (nodup : (facets.rules ++ tokens).Nodup) :
    facets.addTokens tokens =
      { facets with
        rules := facets.rules ++ tokens
        isRequired := facets.isRequired || tokens.contains "required" } := by
  induction tokens generalizing facets with
  | nil =>
      simp [addTokens]
  | cons token rest inductionHypothesis =>
      have fresh : token ∉ facets.rules := by
        intro member
        exact (List.nodup_append.mp nodup).2.2 token member token List.mem_cons_self rfl
      have added : facets.addToken token =
          { facets with
            rules := facets.rules ++ [token]
            isRequired := facets.isRequired || token == "required" } := by
        simp [addToken, fresh]
      have later : ((facets.addToken token).rules ++ rest).Nodup := by
        simpa [added] using nodup
      have step : facets.addTokens (token :: rest) = (facets.addToken token).addTokens rest := rfl
      have sameFlag : (token == "required" || rest.contains "required") =
          (token :: rest).contains "required" := by
        rw [List.contains_cons, BEq.comm]
      rw [step, inductionHypothesis later, added]
      simp only [List.append_assoc, List.singleton_append, Bool.or_assoc, sameFlag]

variable {facets : Facets} {primary : String}

private theorem get?_unless (key name : String) (left : Prop) [Decidable left] (value : Value) :
    Fields.get? (if left then [] else [(key, value)]) name =
      if name = key then (if left then none else some value) else none := by
  by_cases isLeft : left <;> simp [Fields.get?_cons, isLeft]

private theorem addRules_tokenList (facets : Facets) (tokens : List String) :
    facets.addRules (ConditionalRule.tokenList tokens) = .ok (facets.addTokens tokens) := by
  rw [addRules, Rule.normalize_tokenList, Outcome.map_ok]

/-- Requiring what has the token already changes nothing. -/
theorem setRequired_of_mem (requires : facets.isRequired = true)
    (listed : "required" ∈ facets.rules) : facets.setRequired true = facets := by
  simp [setRequired, addToken, listed, ← requires]

private theorem patternFrom_eq_ok (noneYet : facets.pattern = none) {pattern : Option String}
    (readable : ∀ source, pattern = some source →
      ∃ read, Pattern.ofValue (.text source) = .ok read) :
    facets.patternFrom ((pattern.map Value.text).getD .null) =
      .ok { facets with pattern := pattern } := by
  cases pattern with
  | none =>
      have same : ({ facets with pattern := none } : Facets) = facets := by
        rw [← noneYet]
      rw [same]
      rfl
  | some source =>
      obtain ⟨read, reads⟩ := readable source rfl
      simp [patternFrom, setPattern, reads, Value.text?]

/-- The facets that are read before the conditional rules and the attributes. -/
theorem ofFields_entries (sound : facets.Sound primary) (own : facets.OwnKeys)
    (declares : facets.declared.members ≠ []) (name : Value) (children : Fields Value)
    (items : Option Value) :
    ofFields name (facets.entries children items) =
      .ok { facets with attributes := [], conditionals := [] } := by
  have withRules :
      ({ name := facets.name, declared := facets.declared, description := facets.description,
         default := facets.default } : Facets).addTokens facets.rules =
        { name := facets.name, declared := facets.declared, description := facets.description,
          default := facets.default, rules := facets.rules, isRequired := facets.isRequired } := by
    have nodup : (([] : List String) ++ facets.rules).Nodup := sound.distinctRules
    have sameFlag : facets.rules.contains "required" = facets.isRequired := by
      rw [Bool.eq_iff_iff, List.contains_iff_mem, sound.requiredToken]
    rw [addTokens_of_nodup nodup]
    simp only [List.nil_append, Bool.false_or, sameFlag]
  have withRequired : ∀ changed : Facets, changed.rules = facets.rules →
      changed.isRequired = facets.isRequired →
      (if (Value.bool facets.isRequired).isTruthy then changed.setRequired true else changed) =
        changed := by
    intro changed sameRules sameFlag
    split
    · next requires =>
        have required : facets.isRequired = true := requires
        exact setRequired_of_mem (sameFlag.trans required)
          (sameRules ▸ sound.requiredToken.mp required)
    · rfl
  simp (disch := decide) only [ofFields, declaredIn, entry,
    get?_entries sound.distinctAttributes own children items]
  simp only [ownEntries, Fields.get?_append, Fields.get?_cons, Fields.get?_nil, get?_optional,
    get?_unless]
  simp [SchemaType.ofDocument_toDocument declares, addRules_tokenList, withRules, withRequired]
  rw [patternFrom_eq_ok rfl sound.readablePattern]
  rfl

private theorem conditionalsOf_map_toDocument {rules : List ConditionalRule}
    (writable : ∀ rule ∈ rules, rule.isClosure = false) :
    conditionalsOf (rules.map ConditionalRule.toDocument) = .ok rules := by
  induction rules with
  | nil =>
      rfl
  | cons rule rest inductionHypothesis =>
      have first := ConditionalRule.ofDocument_toDocument (writable rule List.mem_cons_self)
      have others := inductionHypothesis fun later member =>
        writable later (List.mem_cons_of_mem _ member)
      simp only [List.map_cons, conditionalsOf, first, others, Outcome.ok_bind, Outcome.pure_eq_ok]

/-- The conditional rules in a written form, which leaves out an empty list of them. -/
theorem conditionalRules_entries (distinct : facets.attributes.Distinct) (own : facets.OwnKeys)
    (children : Fields Value) (items : Option Value) :
    (entry (facets.entries children items) "conditionalRules").orElse (.list []) =
      .list (facets.conditionals.map ConditionalRule.toDocument) := by
  simp (disch := decide) only [entry, get?_entries distinct own children items]
  simp only [ownEntries, Fields.get?_append, Fields.get?_cons, Fields.get?_nil, get?_optional,
    get?_unless]
  cases facets.conditionals with
  | nil =>
      simp [Value.orElse, Value.isTruthy]
  | cons rule rest =>
      simp

/-- The conditional rules and the attributes are read at the end. -/
theorem addRest_entries (sound : facets.Sound primary) (own : facets.OwnKeys)
    (writable : ∀ rule ∈ facets.conditionals, rule.isClosure = false)
    (children : Fields Value) (items : Option Value) :
    ({ facets with attributes := [], conditionals := [] } : Facets).addRest
      (facets.entries children items) = .ok facets := by
  simp only [addRest, conditionalRules_entries sound.distinctAttributes own children items,
    Value.parts_list, Outcome.ok_bind, conditionalsOf_map_toDocument writable,
    filter_entries sound.distinctAttributes own children items]
  have attributesRead : Fields.putAll [] facets.attributes = facets.attributes :=
    Fields.ofPairs_of_distinct sound.distinctAttributes
  simp [attributesRead]

end Facets

/-- What a property needs, apart from being sound, to be written in full. -/
structure Node.Restorable (node : Node Property) : Prop where
  declaresType : node.facets.declared.members ≠ []
  writableConditionals : ∀ rule ∈ node.facets.conditionals, rule.isClosure = false
  ownKeys : node.facets.OwnKeys
  properChildren : ∀ name child, (name, child) ∈ node.children →
    ∃ text nested, name = Name.text text ∧ child = .property nested
  properItems : ∀ child, node.items = some child → ∃ nested, child = .property nested

namespace Property

/-- All properties in a tree can be written in full. -/
def Restorable : Property → Prop :=
  Every Node.Restorable

/-- A property with nothing nested in it can be written in full when its facets can. -/
theorem restorable_leaf {facets : Facets} (restorable : Node.Restorable ⟨facets, [], none⟩) :
    (leaf facets).Restorable :=
  every_mk restorable (fun _ _ member => nomatch member) fun _ isItems => nomatch isItems

private theorem childrenOf_childEntries {children : List (Name × Child Property)}
    (proper : ∀ name child, (name, child) ∈ children →
      ∃ text nested, name = Name.text text ∧ child = .property nested)
    (read : ∀ name nested, (name, .property nested) ∈ children →
      ∀ given, ofDocument given nested.toDocument = .ok nested) :
    childrenOf (childEntries children) = .ok children := by
  induction children with
  | nil =>
      rw [childEntries, childrenOf]
  | cons entry rest inductionHypothesis =>
      obtain ⟨name, child⟩ := entry
      obtain ⟨text, nested, rfl, rfl⟩ := proper name child List.mem_cons_self
      have here := read (.text text) nested List.mem_cons_self (.text text)
      have later := inductionHypothesis
        (fun name child member => proper name child (List.mem_cons_of_mem _ member))
        (fun name nested member => read name nested (List.mem_cons_of_mem _ member))
      have written : childEntries ((Name.text text, .property nested) :: rest) =
          (text, nested.toDocument) :: childEntries rest := rfl
      rw [written, childrenOf]
      simp only [here, later, Outcome.ok_bind, Outcome.pure_eq_ok]

variable {facets : Facets} {children : List (Name × Child Property)}
  {items : Option (Child Property)}

/-- The children in a written form, which leaves out an empty list of them. -/
theorem get?_properties (distinct : facets.attributes.Distinct) (own : facets.OwnKeys)
    (children : List (Name × Child Property)) (items : Option (Child Property)) :
    (Property.mk facets children items).entries.get? "properties" =
      if children = [] then none else some (.map (childEntries children)) := by
  rw [entries, Facets.get?_entries distinct own _ _ (by decide)]
  simp only [Facets.ownEntries, Fields.get?_append, Fields.get?_cons, Fields.get?_nil,
    Facets.get?_optional, Facets.get?_unless]
  cases children with
  | nil =>
      simp [childEntries]
  | cons entry rest =>
      simp [childEntries]

/-- The schema of the items in a written form. -/
theorem get?_items (distinct : facets.attributes.Distinct) (own : facets.OwnKeys)
    (children : List (Name × Child Property)) (items : Option (Child Property)) :
    (Property.mk facets children items).entries.get? "items" = itemsDocument items := by
  rw [entries, Facets.get?_entries distinct own _ _ (by decide)]
  simp only [Facets.ownEntries, Fields.get?_append, Fields.get?_cons, Fields.get?_nil,
    Facets.get?_optional, Facets.get?_unless]
  cases items with
  | none =>
      simp [itemsDocument, Value.present?]
  | some child =>
      cases child <;> simp [itemsDocument, childDocument, Value.present?]

/-- The children in a written form are read if there are any. -/
theorem childrenIn_entries (distinct : facets.attributes.Distinct) (own : facets.OwnKeys)
    (children : List (Name × Child Property)) (items : Option (Child Property)) :
    childrenIn (Property.mk facets children items).entries =
      (childrenOf (childEntries children)).map fun nested =>
        if children = [] then none else some nested := by
  have looked := get?_properties distinct own children items
  cases children with
  | nil =>
      rw [childEntries, childrenOf]
      simp [childrenIn, looked]
  | cons entry rest =>
      simp [childrenIn, looked, childEntries]

private theorem withChildren_of_written {nested : Fields (Child Property) Name} (facets : Facets)
    (isObject : children ≠ [] → facets.declared.primary = "object")
    (read : childrenOf (childEntries children) = .ok nested) :
    withChildren ⟨facets, [], none⟩ (if children = [] then none else some nested) =
      .ok ⟨facets, nested, none⟩ := by
  cases children with
  | nil =>
      rw [childEntries, childrenOf] at read
      cases read
      rfl
  | cons entry rest =>
      have primary := isObject (List.cons_ne_nil entry rest)
      simp [withChildren, Node.requirePrimary, primary]

private theorem withItems_of_written {nested : Option Property}
    (distinct : facets.attributes.Distinct)
    (own : facets.OwnKeys) (isArray : items ≠ none → facets.declared.primary = "array")
    (read : itemsIn (Property.mk facets children items).entries = .ok nested)
    (again : Fields (Child Property) Name) :
    withItems ⟨{ facets with attributes := [], conditionals := [] }, again, none⟩ nested =
      .ok ⟨{ facets with attributes := [], conditionals := [] }, again,
        nested.map .property⟩ := by
  cases nested with
  | none =>
      rfl
  | some property =>
      have primary : facets.declared.primary = "array" := by
        apply isArray
        rintro rfl
        have looked := get?_items distinct own children none
        simp [itemsIn, looked, itemsDocument] at read
      simp [withItems, Node.requirePrimary, primary]

/-- The written form of a sound property is read in the places of what is nested in it: attributes
and conditional rules are still missing from the facets when these places are filled. -/
theorem ofDocument_written (sound : Node.Sound ⟨facets, children, items⟩) (own : facets.OwnKeys)
    (declares : facets.declared.members ≠ []) (given : Value) :
    ofDocument given (Property.mk facets children items).toDocument = (do
      let nested ← childrenOf (childEntries children)
      let ofItems ← itemsIn (Property.mk facets children items).entries
      let complete ← ({ facets with attributes := [], conditionals := [] } : Facets).addRest
        (Property.mk facets children items).entries
      return .mk complete nested (ofItems.map .property)) := by
  have facetsSound : facets.Sound facets.declared.primary := sound.facets
  have distinct := facetsSound.distinctAttributes
  have facetsRead := Facets.ofFields_entries facetsSound own declares given
    (childEntries children) (itemsDocument items)
  rw [ofDocument_eq, toDocument, Value.toFields_map, Outcome.ok_bind,
    childrenIn_entries distinct own]
  simp only [entries] at facetsRead ⊢
  rw [facetsRead, Outcome.ok_bind]
  cases childrenRead : childrenOf (childEntries children) with
  | error error =>
      rfl
  | ok nested =>
      have childrenSet := withChildren_of_written
        { facets with attributes := [], conditionals := [] } sound.children childrenRead
      rw [Outcome.map_ok, Outcome.ok_bind, childrenSet, Outcome.ok_bind, Outcome.ok_bind]
      cases itemsRead : itemsIn (Property.mk facets children items).entries with
      | error error =>
          simp only [entries] at itemsRead
          rw [itemsRead, Outcome.error_bind, Outcome.error_bind]
      | ok ofItems =>
          have itemsSet := withItems_of_written distinct own sound.items itemsRead nested
          simp only [entries] at itemsRead
          rw [itemsRead, Outcome.ok_bind, itemsSet, Outcome.ok_bind, Outcome.ok_bind]
          rfl

private theorem itemsIn_of_restored (children : List (Name × Child Property))
    (distinct : facets.attributes.Distinct) (own : facets.OwnKeys)
    (proper : ∀ child, items = some child → ∃ nested, child = .property nested)
    (read : ∀ nested, items = some (.property nested) →
      ∀ given, ofDocument given nested.toDocument = .ok nested) :
    ∃ nested, itemsIn (Property.mk facets children items).entries = .ok nested ∧
      nested.map Child.property = items := by
  have looked := get?_items distinct own children items
  cases items with
  | none =>
      exact ⟨none, by simp [itemsIn, looked, itemsDocument], rfl⟩
  | some child =>
      obtain ⟨nested, rfl⟩ := proper child rfl
      refine ⟨some nested, ?_, rfl⟩
      have here := read nested rfl (itemName nested.entries)
      rw [toDocument] at here
      simp [itemsIn, looked, itemsDocument, childDocument, here]

/-- A sound property that can be written in full is read back from its written form, under
whatever name it is read. -/
theorem ofDocument_toDocument {property : Property} (sound : property.Sound)
    (restorable : property.Restorable) (given : Value) :
    ofDocument given property.toDocument = .ok property := by
  induction property using induction generalizing given with
  | step facets children items ofChildren ofItems =>
      have hereSound : Node.Sound ⟨facets, children, items⟩ := sound.here
      have hereRestorable : Node.Restorable ⟨facets, children, items⟩ := restorable.here
      have facetsSound : facets.Sound facets.declared.primary := hereSound.facets
      have own : facets.OwnKeys := hereRestorable.ownKeys
      have childrenRead : childrenOf (childEntries children) = .ok children := by
        apply childrenOf_childEntries hereRestorable.properChildren
        intro name nested member
        exact ofChildren name nested member (sound.child member) (restorable.child member)
      obtain ⟨nested, itemsRead, isItems⟩ := itemsIn_of_restored children
        facetsSound.distinctAttributes own hereRestorable.properItems fun nested isItems =>
          ofItems nested isItems (sound.items isItems) (restorable.items isItems)
      have restRead := Facets.addRest_entries facetsSound own hereRestorable.writableConditionals
        (childEntries children) (itemsDocument items)
      rw [ofDocument_written hereSound own hereRestorable.declaresType, childrenRead, itemsRead]
      simp only [entries, restRead, Outcome.ok_bind, isItems]
      rfl

end Property
end RecordSchema
