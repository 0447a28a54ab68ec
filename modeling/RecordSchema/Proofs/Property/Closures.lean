import RecordSchema.Proofs.Property.Origin
import RecordSchema.Proofs.Property.RoundTrip

/-!
# Closures in trees of properties

A closure is the one thing in a tree of properties that has no written form to be read from.  So a
tree that is written and read again is refused exactly if a closure is somewhere in it, and comes
back with the same written form otherwise.  What it comes back as may differ from what it was: a
child that is named by a number is named by a text then.
-/

namespace RecordSchema

/-- What a property needs, apart from being sound, for its written form to hold all of it but
closures. -/
structure Node.Writable (node : Node Property) : Prop where
  declaresType : node.facets.declared.members ≠ []
  ownKeys : node.facets.OwnKeys
  properChildren : ∀ name child, (name, child) ∈ node.children →
    ∃ nested, child = .property nested
  properItems : ∀ child, node.items = some child → ∃ nested, child = .property nested

namespace Facets

variable {facets : Facets}

/-- A closure among conditional rules is an obstacle to reading them. -/
theorem conditionalsOf_of_closure {rules : List ConditionalRule}
    (held : ∃ rule ∈ rules, rule.isClosure = true) :
    conditionalsOf (rules.map ConditionalRule.toDocument) = .error .closureNotRestorable := by
  induction rules with
  | nil =>
      obtain ⟨rule, member, _⟩ := held
      cases member
  | cons first rest inductionHypothesis =>
      rw [List.map_cons, conditionalsOf]
      cases isClosure : first.isClosure with
      | true =>
          rw [ConditionalRule.ofDocument_of_closure isClosure, Outcome.error_bind]
      | false =>
          have later : ∃ rule ∈ rest, rule.isClosure = true := by
            obtain ⟨rule, member, isLater⟩ := held
            rcases List.mem_cons.mp member with rfl | member
            · cases isClosure.symm.trans isLater
            · exact ⟨rule, member, isLater⟩
          rw [ConditionalRule.ofDocument_toDocument isClosure, Outcome.ok_bind,
            inductionHypothesis later, Outcome.error_bind]

private theorem addRest_of_closure (distinct : facets.attributes.Distinct) (own : facets.OwnKeys)
    (held : ∃ rule ∈ facets.conditionals, rule.isClosure = true) (start : Facets)
    (children : Fields Value) (items : Option Value) :
    start.addRest (facets.entries children items) = .error .closureNotRestorable := by
  simp only [addRest, conditionalRules_entries distinct own children items, Value.parts_list,
    Outcome.ok_bind, conditionalsOf_of_closure held, Outcome.error_bind]

end Facets

namespace Property

/-- A closure is among the conditional rules of a property or of one that is nested in it. -/
def HoldsClosure (property : Property) : Prop :=
  ∃ part, Within part property ∧ ∃ rule ∈ part.facets.conditionals, rule.isClosure = true

variable {facets : Facets} {children : List (Name × Child Property)}
  {items : Option (Child Property)}

private theorem holdsClosure_mk_iff :
    HoldsClosure (.mk facets children items) ↔
      (∃ rule ∈ facets.conditionals, rule.isClosure = true) ∨
      (∃ name nested, (name, .property nested) ∈ children ∧ nested.HoldsClosure) ∨
      ∃ nested, items = some (.property nested) ∧ nested.HoldsClosure :=
  exists_within_iff

private theorem every_writable (declares : facets.declared.members ≠ []) (own : facets.OwnKeys)
    (ofChildren : ∀ name child, (name, child) ∈ children →
      ∃ nested, child = .property nested ∧ Every Node.Writable nested)
    (ofItems : ∀ child, items = some child →
      ∃ nested, child = .property nested ∧ Every Node.Writable nested) :
    Every Node.Writable (.mk facets children items) := by
  refine every_mk ⟨declares, own, fun name child member => ?_, fun child isItems => ?_⟩ ?_ ?_
  · obtain ⟨nested, isNested, _⟩ := ofChildren name child member
    exact ⟨nested, isNested⟩
  · obtain ⟨nested, isNested, _⟩ := ofItems child isItems
    exact ⟨nested, isNested⟩
  · intro name nested member
    obtain ⟨_, same, every⟩ := ofChildren name _ member
    cases same
    exact every
  · intro nested isItems
    obtain ⟨_, same, every⟩ := ofItems _ isItems
    cases same
    exact every

/-- What becomes of a property that is written and read again. -/
inductive ReadsBack (property : Property) : Except Error Property → Prop
  | refused : property.HoldsClosure → ReadsBack property (.error .closureNotRestorable)
  | restored {again : Property} : ¬ property.HoldsClosure →
      again.toDocument = property.toDocument → ReadsBack property (.ok again)

/-- What becomes of children that are written and read again. -/
inductive ChildrenReadBack (children : List (Name × Child Property)) :
    Except Error (Fields (Child Property) Name) → Prop
  | refused {name : Name} {nested : Property} : (name, .property nested) ∈ children →
      nested.HoldsClosure → ChildrenReadBack children (.error .closureNotRestorable)
  | restored {again : Fields (Child Property) Name} :
      (∀ name nested, (name, .property nested) ∈ children → ¬ nested.HoldsClosure) →
      childEntries again = childEntries children → ChildrenReadBack children (.ok again)

private theorem childrenReadBack
    (proper : ∀ name child, (name, child) ∈ children → ∃ nested, child = .property nested)
    (read : ∀ name nested, (name, .property nested) ∈ children →
      ∀ given, ReadsBack nested (ofDocument given nested.toDocument)) :
    ChildrenReadBack children (childrenOf (childEntries children)) := by
  induction children with
  | nil =>
      rw [childEntries, childrenOf]
      exact .restored (by simp) (by rw [childEntries])
  | cons entry rest inductionHypothesis =>
      obtain ⟨name, child⟩ := entry
      obtain ⟨nested, rfl⟩ := proper name child List.mem_cons_self
      have here := read name nested List.mem_cons_self (.text name.value.keyText)
      have later := inductionHypothesis
        (fun name child member => proper name child (List.mem_cons_of_mem _ member))
        (fun name nested member => read name nested (List.mem_cons_of_mem _ member))
      have written : childEntries ((name, .property nested) :: rest) =
          (name.value.keyText, nested.toDocument) :: childEntries rest := rfl
      rw [written, childrenOf]
      generalize ofDocument (.text name.value.keyText) nested.toDocument = first at here
      generalize childrenOf (childEntries rest) = others at later
      cases here with
      | refused held =>
          rw [Outcome.error_bind]
          exact .refused List.mem_cons_self held
      | restored free same =>
          rw [Outcome.ok_bind]
          cases later with
          | refused member held =>
              rw [Outcome.error_bind]
              exact .refused (List.mem_cons_of_mem _ member) held
          | restored freeRest sameRest =>
              rw [Outcome.ok_bind]
              refine .restored (fun key other member => ?_) ?_
              · rcases List.mem_cons.mp member with isHere | isLater
                · cases isHere
                  exact free
                · exact freeRest key other isLater
              · rw [written, ← sameRest, ← same]
                rfl

/-- What becomes of the schema of the items when it is written and read again. -/
inductive ItemsReadBack (items : Option (Child Property)) :
    Except Error (Option Property) → Prop
  | refused {nested : Property} : items = some (.property nested) → nested.HoldsClosure →
      ItemsReadBack items (.error .closureNotRestorable)
  | restored {again : Option Property} :
      (∀ nested, items = some (.property nested) → ¬ nested.HoldsClosure) →
      itemsDocument (again.map .property) = itemsDocument items →
      ItemsReadBack items (.ok again)

private theorem itemsReadBack (distinct : facets.attributes.Distinct) (own : facets.OwnKeys)
    (children : List (Name × Child Property))
    (proper : ∀ child, items = some child → ∃ nested, child = .property nested)
    (read : ∀ nested, items = some (.property nested) →
      ∀ given, ReadsBack nested (ofDocument given nested.toDocument)) :
    ItemsReadBack items (itemsIn (Property.mk facets children items).entries) := by
  have looked := get?_items distinct own children items
  cases items with
  | none =>
      have noItems : itemsIn (Property.mk facets children none).entries = .ok none := by
        simp [itemsIn, looked, itemsDocument]
      rw [noItems]
      exact .restored (by simp) rfl
  | some child =>
      obtain ⟨nested, rfl⟩ := proper child rfl
      have here := read nested rfl (itemName nested.entries)
      have isRead : itemsIn (Property.mk facets children (some (.property nested))).entries =
          (ofDocument (itemName nested.entries) nested.toDocument).map some := by
        simp [itemsIn, looked, itemsDocument, childDocument, toDocument]
      rw [isRead]
      generalize ofDocument (itemName nested.entries) nested.toDocument = result at here
      cases here with
      | refused held =>
          exact .refused rfl held
      | @restored again free same =>
          refine .restored (fun other isItems => ?_) ?_
          · cases isItems
            exact free
          · have written : itemsDocument (some (.property again)) = some again.toDocument := rfl
            rw [Option.map_some, written, same]
            rfl

/-- A sound property is refused exactly if it holds a closure, under whatever name it is read, and
otherwise comes back with the same written form. -/
theorem readsBack {property : Property} (sound : property.Sound)
    (writable : Every Node.Writable property) (given : Value) :
    ReadsBack property (ofDocument given property.toDocument) := by
  induction property using induction generalizing given with
  | step facets children items ofChildren ofItems =>
      have hereSound : Node.Sound ⟨facets, children, items⟩ := sound.here
      have hereWritable : Node.Writable ⟨facets, children, items⟩ := writable.here
      have facetsSound : facets.Sound facets.declared.primary := hereSound.facets
      have distinct := facetsSound.distinctAttributes
      have own : facets.OwnKeys := hereWritable.ownKeys
      have childrenRead := childrenReadBack hereWritable.properChildren fun name nested member =>
        ofChildren name nested member (sound.child member) (writable.child member)
      have itemsRead := itemsReadBack distinct own children hereWritable.properItems
        fun nested isItems => ofItems nested isItems (sound.items isItems) (writable.items isItems)
      rw [ofDocument_written hereSound own hereWritable.declaresType]
      generalize childrenOf (childEntries children) = childrenResult at childrenRead
      generalize itemsIn (Property.mk facets children items).entries = itemsResult at itemsRead
      -- The first place with a closure in it decides: children, items, or the property itself.
      cases childrenRead with
      | refused member held =>
          exact .refused (holdsClosure_mk_iff.mpr (.inr (.inl ⟨_, _, member, held⟩)))
      | @restored again free same =>
          cases itemsRead with
          | refused isItems held =>
              exact .refused (holdsClosure_mk_iff.mpr (.inr (.inr ⟨_, isItems, held⟩)))
          | @restored againItems freeItems sameItems =>
              rw [Outcome.ok_bind, Outcome.ok_bind, entries]
              by_cases held : ∃ rule ∈ facets.conditionals, rule.isClosure = true
              · rw [Facets.addRest_of_closure distinct own held, Outcome.error_bind]
                exact .refused (holdsClosure_mk_iff.mpr (.inl held))
              · have writableRules : ∀ rule ∈ facets.conditionals, rule.isClosure = false := by
                  simpa using held
                rw [Facets.addRest_entries facetsSound own writableRules, Outcome.ok_bind]
                refine .restored (fun holds => ?_) ?_
                · rcases holdsClosure_mk_iff.mp holds with here | ⟨_, _, member, inside⟩ |
                    ⟨_, isItems, inside⟩
                  · exact held here
                  · exact free _ _ member inside
                  · exact freeItems _ isItems inside
                · simp only [toDocument, entries, same, sameItems]

/-- However a property was made, its written form is refused exactly if a closure is somewhere in
it, and is read as a property with the same written form otherwise. -/
theorem Reachable.document_returns {property : Property} (reachable : Reachable Fresh property)
    (writable : Every Node.Writable property) (given : Value) :
    (ofDocument given property.toDocument = .error .closureNotRestorable ↔
      property.HoldsClosure) ∧
    (¬ property.HoldsClosure →
      ∃ again, ofDocument given property.toDocument = .ok again ∧
        again.toDocument = property.toDocument) := by
  have sound : property.Sound := reachable.sound fun _ fresh => fresh.sound
  have returns := readsBack sound writable given
  generalize ofDocument given property.toDocument = result at returns
  cases returns with
  | refused held =>
      exact ⟨⟨fun _ => held, fun _ => rfl⟩, fun free => absurd held free⟩
  | @restored again free same =>
      exact ⟨⟨nofun, fun held => absurd held free⟩, fun _ => ⟨again, rfl, same⟩⟩

/-- A line of an invoice, which is short if there is a total. -/
def invoiceLine : Property :=
  leaf {
    name := .text "line"
    declared := .single "string"
    conditionals := [.closure 0 ["max:20"]] }

/-- An invoice with the lines that stand in it. -/
def invoice : Property :=
  .mk { name := .text "invoice", declared := .single "object" }
    [(.text "lines", .property <|
      .mk { name := .text "lines", declared := .single "array" } [] (some (.property invoiceLine)))]
    none

private theorem reachable_invoice : Reachable Fresh invoice := by
  have bareLine : Reachable Fresh (plain "string" "line") :=
    .origin (@Fresh.preset "string" _ _ .null _ _ rfl rfl)
  have bareLines : Reachable Fresh (plain "array" "lines") :=
    .origin (@Fresh.preset "array" _ _ .null _ _ rfl rfl)
  have bare : Reachable Fresh (plain "object" "invoice") :=
    .origin (@Fresh.preset "object" _ _ .null _ _ rfl rfl)
  have line : Reachable Fresh invoiceLine :=
    bareLine.edit (.facets (.addWhen (.closure 0) .null (.list [.text "max:20"])))
      (List.forall_mem_nil _)
  have lines := bareLines.edit (.setItems (.property invoiceLine)) fun part member =>
    List.mem_singleton.mp member ▸ line
  exact bare.edit (.addChild _) fun part member => List.mem_singleton.mp member ▸ lines

private theorem writable_invoice : Every Node.Writable invoice := by
  have line : Every Node.Writable invoiceLine :=
    every_writable (by simp [SchemaType.members]) (by simp [Facets.OwnKeys]) nofun nofun
  refine every_writable (by simp [SchemaType.members]) (by simp [Facets.OwnKeys])
    (fun name child member => ?_) nofun
  cases List.mem_singleton.mp member
  refine ⟨_, rfl, every_writable (by simp [SchemaType.members]) (by simp [Facets.OwnKeys]) nofun
    fun child isItems => ?_⟩
  cases isItems
  exact ⟨_, rfl, line⟩

/-- The closure is two levels deep, and so is the obstacle. -/
theorem document_returns_invoice :
    Reachable Fresh invoice ∧ Every Node.Writable invoice ∧ invoice.HoldsClosure ∧
      ofDocument .null invoice.toDocument = .error .closureNotRestorable :=
  have held : invoice.HoldsClosure :=
    ⟨invoiceLine, .child List.mem_cons_self (.items rfl (.self _)), _, List.mem_cons_self, rfl⟩
  ⟨reachable_invoice, writable_invoice, held,
    (reachable_invoice.document_returns writable_invoice .null).1.mpr held⟩

end Property
end RecordSchema
