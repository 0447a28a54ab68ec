import RecordSchema.Proofs.Json.Plain
import RecordSchema.Proofs.Property.Entries
import RecordSchema.Proofs.Property.Origin

/-!
# Written forms made of plain values

A property that is read from a plain document under a plain name has a plain written form: whatever
it keeps comes from the document, or is a text or a truth value of its own.
-/

namespace RecordSchema

theorem Value.Plain.field {document value : Value} (plain : document.Plain) {name : String}
    (found : document.field name = .ok value) : value.Plain := by
  cases plain with
  | map all =>
      cases found
      exact Fields.ArePlain.getD all name .null
  | keyed hashable keys all =>
      cases found
      have entries := (Value.Plain.keyed hashable keys all).mapping? rfl
      cases held : (Fields.ofKeyed _).get? (.text name) with
      | none =>
          exact .null
      | some value =>
          exact entries.get? held
  | _ =>
      cases found

theorem Value.plain_texts (texts : List String) : (Value.list (texts.map .text)).Plain := by
  apply Value.Plain.list
  intro item member
  obtain ⟨text, _, rfl⟩ := List.mem_map.mp member
  exact .text text

private theorem SchemaType.plain_toDocument (declared : SchemaType) :
    declared.toDocument.Plain := by
  cases declared with
  | single tag =>
      exact .text tag
  | union tags =>
      exact Value.plain_texts tags

/-! ## Conditional rules -/

namespace ConditionalRule

private theorem plain_of_selector {rule : ConditionalRule} (plain : rule.selector.ArePlain) :
    rule.toDocument.Plain := by
  refine .map (Fields.arePlain_cons.mpr ⟨.text _, ?_⟩)
  refine plain.append (Fields.arePlain_cons.mpr ⟨?_, Fields.arePlain_nil⟩)
  exact Value.plain_texts rule.rules

private theorem plain_of_neededField {document value : Value} (plain : document.Plain)
    {name : String}
    (found : neededField document name = .ok value) : value.Plain := by
  unfold neededField at found
  split at found
  · next entries isMap =>
      split at found
      · next held isHeld =>
          cases found
          exact (plain.mapping? isMap).get? isHeld
      · cases found
  · cases found

private theorem plain_of_siblings {document : Value} (plain : document.Plain) {fields : List Value}
    (found : siblings document = .ok fields) : (Value.list fields).Plain := by
  obtain ⟨listed, isListed, split⟩ := Outcome.bind_eq_ok_iff.mp found
  have given := (plain.field isListed).orElse (.list (List.forall_mem_nil _))
  exact .list (given.parts split)

theorem plain_ofDocument {document : Value} (plain : document.Plain) {rule : ConditionalRule}
    (read : ofDocument document = .ok rule) : rule.toDocument.Plain := by
  obtain ⟨kind, _, afterKind⟩ := Outcome.bind_eq_ok_iff.mp read
  obtain ⟨listed, _, afterListed⟩ := Outcome.bind_eq_ok_iff.mp afterKind
  obtain ⟨tokens, _, afterTokens⟩ := Outcome.bind_eq_ok_iff.mp afterListed
  obtain ⟨value, valueFound, read⟩ := Outcome.bind_eq_ok_iff.mp afterTokens
  have valuePlain := plain.field valueFound
  apply plain_of_selector
  split at read
  · cases read
  · obtain ⟨given, isGiven, afterGiven⟩ := Outcome.bind_eq_ok_iff.mp read
    obtain ⟨expected, converted, isRule⟩ := Outcome.bind_eq_ok_iff.mp afterGiven
    cases isRule
    have expectedPlain :=
      ((plain.field isGiven).orElse (.map Fields.arePlain_nil)).toMapping converted
    exact Fields.arePlain_cons.mpr ⟨Value.plain_toValue expectedPlain, Fields.arePlain_nil⟩
  · obtain ⟨field, fieldFound, isRule⟩ := Outcome.bind_eq_ok_iff.mp read
    cases isRule
    exact Fields.arePlain_cons.mpr ⟨plain_of_neededField plain fieldFound,
      Fields.arePlain_cons.mpr ⟨valuePlain, Fields.arePlain_nil⟩⟩
  · obtain ⟨field, fieldFound, afterField⟩ := Outcome.bind_eq_ok_iff.mp read
    obtain ⟨source, sourceFound, isRule⟩ := Outcome.bind_eq_ok_iff.mp afterField
    cases isRule
    have sourcePlain := plain_of_neededField valuePlain sourceFound
    refine Fields.arePlain_cons.mpr ⟨plain_of_neededField plain fieldFound,
      Fields.arePlain_cons.mpr ⟨.map ?_, Fields.arePlain_nil⟩⟩
    exact Fields.arePlain_cons.mpr ⟨sourcePlain, Fields.arePlain_nil⟩
  · obtain ⟨field, fieldFound, afterField⟩ := Outcome.bind_eq_ok_iff.mp read
    obtain ⟨operator, operatorFound, afterOperator⟩ := Outcome.bind_eq_ok_iff.mp afterField
    obtain ⟨operand, operandFound, isRule⟩ := Outcome.bind_eq_ok_iff.mp afterOperator
    cases isRule
    have operatorPlain := plain_of_neededField valuePlain operatorFound
    have operandPlain := valuePlain.field operandFound
    refine Fields.arePlain_cons.mpr ⟨plain_of_neededField plain fieldFound,
      Fields.arePlain_cons.mpr ⟨.map ?_, Fields.arePlain_nil⟩⟩
    exact Fields.arePlain_cons.mpr ⟨operatorPlain,
      Fields.arePlain_cons.mpr ⟨operandPlain, Fields.arePlain_nil⟩⟩
  · obtain ⟨fields, found, isRule⟩ := Outcome.bind_eq_ok_iff.mp read
    cases isRule
    exact Fields.arePlain_cons.mpr ⟨plain_of_siblings plain found, Fields.arePlain_nil⟩
  · obtain ⟨fields, found, isRule⟩ := Outcome.bind_eq_ok_iff.mp read
    cases isRule
    exact Fields.arePlain_cons.mpr ⟨plain_of_siblings plain found, Fields.arePlain_nil⟩
  · cases read

end ConditionalRule

/-! ## Facets -/

/-- Facets that keep plain values only. -/
structure Facets.Plain (facets : Facets) : Prop where
  name : facets.name.Plain
  description : facets.description.Plain
  default : facets.default.Plain
  format : facets.format.Plain
  minimum : facets.minimum.Plain
  maximum : facets.maximum.Plain
  reference : facets.reference.Plain
  attributes : facets.attributes.ArePlain
  conditionals : ∀ rule ∈ facets.conditionals, rule.toDocument.Plain

namespace Facets

variable {facets changed : Facets}

private theorem arePlain_optional {name : String} {value : Value} (plain : value.Plain) :
    (optional name value).ArePlain := by
  unfold optional
  split
  · exact Fields.arePlain_nil
  · exact Fields.arePlain_cons.mpr ⟨plain, Fields.arePlain_nil⟩

/-- Facets of plain values have a plain written form, if what is nested in them has one. -/
theorem Plain.entries (plain : facets.Plain) {children : Fields Value} {items : Option Value}
    (childrenPlain : children.ArePlain) (itemsPlain : ∀ item, items = some item → item.Plain) :
    (facets.entries children items).ArePlain := by
  have pattern : ((facets.pattern.map Value.text).getD .null).Plain := by
    cases facets.pattern with
    | none =>
        exact .null
    | some source =>
        exact .text source
  have nested : (items.getD .null).Plain := by
    cases items with
    | none =>
        exact .null
    | some item =>
        exact itemsPlain item rfl
  have ofChildren : Fields.ArePlain
      (if children.isEmpty then [] else [("properties", Value.map children)]) := by
    split
    · exact Fields.arePlain_nil
    · exact Fields.arePlain_cons.mpr ⟨.map childrenPlain, Fields.arePlain_nil⟩
  have ofConditionals : Fields.ArePlain
      (if facets.conditionals.isEmpty then []
        else [("conditionalRules",
          Value.list (facets.conditionals.map ConditionalRule.toDocument))]) := by
    split
    · exact Fields.arePlain_nil
    · refine Fields.arePlain_cons.mpr ⟨.list fun item member => ?_, Fields.arePlain_nil⟩
      obtain ⟨rule, isRule, rfl⟩ := List.mem_map.mp member
      exact plain.conditionals rule isRule
  have front : Fields.ArePlain
      [("name", facets.name), ("type", facets.declared.toDocument)] :=
    Fields.arePlain_cons.mpr ⟨plain.name,
      Fields.arePlain_cons.mpr ⟨facets.declared.plain_toDocument, Fields.arePlain_nil⟩⟩
  have rules : Fields.ArePlain [("rules", ConditionalRule.tokenList facets.rules),
      ("required", Value.bool facets.isRequired)] :=
    Fields.arePlain_cons.mpr ⟨Value.plain_texts facets.rules,
      Fields.arePlain_cons.mpr ⟨.bool _, Fields.arePlain_nil⟩⟩
  apply Fields.ArePlain.putAll _ plain.attributes
  exact front
    |>.append (arePlain_optional plain.description)
    |>.append (arePlain_optional plain.default)
    |>.append rules
    |>.append (arePlain_optional plain.format)
    |>.append (arePlain_optional pattern)
    |>.append (arePlain_optional plain.minimum)
    |>.append (arePlain_optional plain.maximum)
    |>.append (arePlain_optional plain.reference)
    |>.append ofChildren
    |>.append (arePlain_optional nested)
    |>.append ofConditionals

/-- Facets keep no values in their tokens. -/
theorem Plain.addToken (plain : facets.Plain) (token : String) : (facets.addToken token).Plain :=
  { plain with }

/-- What is left over of a document becomes attributes, so these stand under no name with a meaning
of its own. -/
theorem ownKeys_addRest {fields : Fields Value} (bare : facets.attributes = [])
    (read : facets.addRest fields = .ok changed) : changed.OwnKeys := by
  obtain ⟨_, _, _, _, rfl⟩ := addRest_eq_ok read
  intro key isAttribute
  rcases Fields.mem_names_putAll isAttribute with earlier | later
  · rw [bare] at earlier
    cases earlier
  · obtain ⟨field, member, rfl⟩ := List.mem_map.mp later
    simpa using (List.mem_filter.mp member).2

private theorem plain_ofFields {name : Value} (namePlain : name.Plain) {fields : Fields Value}
    (plain : fields.ArePlain) (read : ofFields name fields = .ok facets) : facets.Plain := by
  rw [(ofFields_frame read).2]
  exact {
    name := plain.getD "name" namePlain
    description := plain.getD "description" .null
    default := plain.getD "default" .null
    format := plain.getD "format" .null
    minimum := plain.getD "minimum" .null
    maximum := plain.getD "maximum" .null
    reference := plain.getD "$ref" .null
    attributes := Fields.arePlain_nil
    conditionals := List.forall_mem_nil _ }

/-- Conditional rules and attributes from plain entries keep facets plain. -/
theorem Plain.addRest (plain : facets.Plain) {fields : Fields Value}
    (fieldsPlain : fields.ArePlain) (read : facets.addRest fields = .ok changed) :
    changed.Plain := by
  obtain ⟨documents, rules, listed, rulesRead, rfl⟩ := addRest_eq_ok read
  have given := (fieldsPlain.getD "conditionalRules" .null).orElse (.list (List.forall_mem_nil _))
  have rulesPlain : ∀ rule ∈ rules, rule.toDocument.Plain := by
    intro rule member
    obtain ⟨document, isListed, ruleRead⟩ := (mem_conditionalsOf_iff rulesRead).mp member
    exact ConditionalRule.plain_ofDocument (given.parts listed document isListed) ruleRead
  have others : Fields.ArePlain (fields.filter fun field => !documentKeys.contains field.1) :=
    fun name value member => fieldsPlain name value (List.mem_filter.mp member).1
  exact { plain with
    attributes := plain.attributes.putAll others
    conditionals := List.forall_mem_append.mpr ⟨plain.conditionals, rulesPlain⟩ }

end Facets

/-! ## Properties -/

namespace Property

/-- A property that keeps plain values only, and whose nested schemas have plain written forms. -/
structure Plain (property : Property) : Prop where
  facets : property.facets.Plain
  children : (childEntries property.children).ArePlain
  items : ∀ item, itemsDocument property.items = some item → item.Plain

theorem Plain.entries {property : Property} (plain : property.Plain) :
    property.entries.ArePlain := by
  cases property with
  | mk facets children items =>
      exact plain.facets.entries plain.children plain.items

/-- A written child stands under the text of its name. -/
theorem mem_childEntries {children : List (Name × Child Property)} {key : String} {value : Value}
    (member : (key, value) ∈ childEntries children) :
    ∃ name child, (name, child) ∈ children ∧ key = name.value.keyText ∧
      value = childDocument child := by
  induction children with
  | nil =>
      cases member
  | cons entry rest inductionHypothesis =>
      obtain ⟨name, child⟩ := entry
      rcases List.mem_cons.mp member with here | later
      · cases here
        exact ⟨name, child, List.mem_cons_self, rfl, rfl⟩
      · obtain ⟨otherName, other, isChild, same⟩ := inductionHypothesis later
        exact ⟨otherName, other, List.mem_cons_of_mem _ isChild, same⟩

/-- The attributes of a property that is read hide nothing in its written form. -/
theorem ownKeys_ofDocument {name document : Value} {property : Property}
    (read : ofDocument name document = .ok property) : property.facets.OwnKeys := by
  obtain ⟨fields, facets, children, items, _, parts⟩ := ofDocument_eq_ok read
  exact Facets.ownKeys_addRest (Facets.attributes_ofFields parts.facetsRead) parts.restAdded

theorem plain_ofDocument (name document : Value) {property : Property} (namePlain : name.Plain)
    (plain : document.Plain) (read : ofDocument name document = .ok property) :
    property.Plain := by
  obtain ⟨fields, facets, children, items, converted, parts⟩ := ofDocument_eq_ok read
  have fieldsPlain := plain.toFields converted
  have facetsPlain := (Facets.plain_ofFields namePlain fieldsPlain parts.facetsRead).addRest
    fieldsPlain parts.restAdded
  refine ⟨facetsPlain, fun key value member => ?_, fun item isItem => ?_⟩
  · obtain ⟨name, child, isChild, _, rfl⟩ := mem_childEntries member
    obtain ⟨entries, text, nestedDocument, nested, found, isEntry, _, rfl, nestedRead⟩ :=
      parts.child isChild
    have documentPlain := (fieldsPlain.get? found).entries text nestedDocument isEntry
    exact .map (plain_ofDocument (.text text) nestedDocument (.text text) documentPlain
      nestedRead).entries
  · cases isItems : property.items with
    | none =>
        rw [isItems] at isItem
        cases isItem
    | some child =>
        obtain ⟨entries, nested, found, rfl, nestedRead⟩ := parts.item isItems
        rw [isItems] at isItem
        cases isItem
        have documentPlain := fieldsPlain.get? found
        have ownName : (itemName entries).Plain := documentPlain.entries.getD "name" (.text "item")
        exact .map (plain_ofDocument (itemName entries) (.map entries) ownName documentPlain
          nestedRead).entries
termination_by document.weight
decreasing_by
  · have entryLighter := Value.weight_lt_entryWeights isEntry
    have mapLighter := Value.weight_lt_of_toFields converted found
    simp only [Value.weight] at mapLighter
    omega
  · exact Value.weight_lt_of_toFields converted found

end Property
end RecordSchema
