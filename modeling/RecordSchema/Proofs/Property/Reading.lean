import RecordSchema.Property.Reader
import RecordSchema.Proofs.Outcome
import RecordSchema.Proofs.Property.Tree

/-!
# The steps of reading a property

Reading a property from a document takes five steps: the facets, the children, the schema of the
items, the conditional rules, and the attributes.  Each of them looks at its own entries only.
Nested schemas are read in the same way, so what holds at the root of all that can be read holds
everywhere in it.
-/

namespace RecordSchema

namespace Facets

variable {facets changed : Facets}

/-- Tokens change the rules and whether one of them requires the property, and nothing else. -/
theorem addTokens_eq (facets : Facets) (tokens : List String) :
    facets.addTokens tokens =
      { facets with
        rules := (facets.addTokens tokens).rules
        isRequired := (facets.addTokens tokens).isRequired } := by
  induction tokens generalizing facets with
  | nil =>
      rfl
  | cons token rest inductionHypothesis =>
      exact inductionHypothesis (facets.addToken token)

private theorem patternFrom_frame {pattern : Value}
    (read : facets.patternFrom pattern = .ok changed) :
    changed = { facets with pattern := changed.pattern } := by
  cases pattern with
  | null =>
      cases read
      rfl
  | _ =>
      obtain ⟨_, _, isSet⟩ := Outcome.bind_eq_ok_iff.mp read
      cases isSet
      rfl

/-- Apart from the rules and the pattern, facets are made of the entries as they stand. -/
theorem ofFields_frame {name : Value} {fields : Fields Value}
    (read : ofFields name fields = .ok facets) :
    declaredIn fields = .ok facets.declared ∧
      facets = {
        name := (fields.get? "name").getD name
        declared := facets.declared
        description := entry fields "description"
        default := entry fields "default"
        rules := facets.rules
        isRequired := facets.isRequired
        format := entry fields "format"
        minimum := entry fields "minimum"
        maximum := entry fields "maximum"
        pattern := facets.pattern
        reference := entry fields "$ref" } := by
  obtain ⟨declared, declaredRead, afterType⟩ := Outcome.bind_eq_ok_iff.mp read
  obtain ⟨withRules, rulesAdded, afterRules⟩ := Outcome.bind_eq_ok_iff.mp afterType
  obtain ⟨withPattern, patternSet, afterPattern⟩ := Outcome.bind_eq_ok_iff.mp afterRules
  cases afterPattern
  obtain ⟨tokens, _, rfl⟩ := Outcome.map_eq_ok_iff.mp rulesAdded
  rw [addTokens_eq] at patternSet
  rw [patternFrom_frame patternSet]
  split
  · exact ⟨declaredRead, rfl⟩
  · exact ⟨declaredRead, rfl⟩

theorem attributes_ofFields {name : Value} {fields : Fields Value}
    (read : ofFields name fields = .ok facets) : facets.attributes = [] := by
  rw [(ofFields_frame read).2]

theorem mem_conditionalsOf_iff {documents : List Value} {rules : List ConditionalRule}
    (read : conditionalsOf documents = .ok rules) {rule : ConditionalRule} :
    rule ∈ rules ↔ ∃ document ∈ documents, ConditionalRule.ofDocument document = .ok rule := by
  induction documents generalizing rules with
  | nil =>
      cases read
      simp
  | cons document rest inductionHypothesis =>
      obtain ⟨first, firstRead, afterFirst⟩ := Outcome.bind_eq_ok_iff.mp read
      obtain ⟨others, othersRead, isRead⟩ := Outcome.bind_eq_ok_iff.mp afterFirst
      cases isRead
      simp [firstRead, inductionHypothesis othersRead, eq_comm]

/-- At the end nothing but conditional rules and attributes is added. -/
theorem addRest_eq_ok {fields : Fields Value} (read : facets.addRest fields = .ok changed) :
    ∃ documents conditionals,
      ((entry fields "conditionalRules").orElse (.list [])).parts = .ok documents ∧
      conditionalsOf documents = .ok conditionals ∧
      changed = { facets with
        conditionals := facets.conditionals ++ conditionals
        attributes := facets.attributes.putAll
          (fields.filter fun field => !documentKeys.contains field.1) } := by
  obtain ⟨documents, listed, afterListed⟩ := Outcome.bind_eq_ok_iff.mp read
  obtain ⟨conditionals, conditionalsRead, isRead⟩ := Outcome.bind_eq_ok_iff.mp afterListed
  cases isRead
  exact ⟨documents, conditionals, listed, conditionalsRead, rfl⟩

end Facets

namespace Property

/-- The children in the entries of a document, if there are any. -/
def childrenIn (fields : Fields Value) : Except Error (Option (Fields (Child Property) Name)) :=
  match fields.get? "properties" with
  | some (.map (first :: rest)) => (childrenOf (first :: rest)).map some
  | some other => if other.isTruthy then .error .noSuchMember else .ok none
  | none => .ok none

/-- The schema of the items in the entries of a document, if there is one. -/
def itemsIn (fields : Fields Value) : Except Error (Option Property) :=
  match fields.get? "items" with
  | some (.map entries) => (ofDocument (itemName entries) (.map entries)).map some
  | some .null => .ok none
  | some _ => .error .noSuchMember
  | none => .ok none

theorem ofDocument_eq (name document : Value) :
    ofDocument name document = (do
      let fields ← document.toFields
      let facets ← Facets.ofFields name fields
      let nested ← childrenIn fields
      let withNested ← withChildren ⟨facets, [], none⟩ nested
      let items ← itemsIn fields
      let whole ← withItems withNested items
      let complete ← whole.facets.addRest fields
      return ofNode (whole.withFacets complete)) := by
  rw [ofDocument]
  split
  · next error failed =>
      simp [failed]
  · next fields converted =>
      simp only [converted, Outcome.ok_bind, childrenIn, itemsIn]
      congr 1
      funext facets
      split
      · next first rest found =>
          simp only [found]
          congr 1
          funext nested
          congr 1
          funext withNested
          split <;> simp_all
      · next other notMap found =>
          split
          · simp_all
          · next absent =>
              simp only [found, if_neg absent, Outcome.ok_bind]
              congr 1
              funext withNested
              split <;> simp_all
      · next found =>
          simp only [found, Outcome.ok_bind]
          congr 1
          funext withNested
          split <;> simp_all

/-! ## What a property has been read from -/

theorem requirePrimary_eq_ok {Ref : Type} {node : Node Ref} {tag : String} {error : Error}
    (required : node.requirePrimary tag error = .ok ()) : node.facets.declared.primary = tag := by
  unfold Node.requirePrimary at required
  split at required
  · assumption
  · cases required

/-- Setting children that have been read takes an object, and leaves the rest of a node alone. -/
theorem withChildren_eq_ok {node changed : Node Property}
    {read : Option (Fields (Child Property) Name)} (set : withChildren node read = .ok changed) :
    (read ≠ none → node.facets.declared.primary = "object") ∧
      changed = { node with children := read.getD node.children } := by
  cases read with
  | none =>
      cases set
      exact ⟨fun some => absurd rfl some, rfl⟩
  | some children =>
      obtain ⟨_, isObject, isSet⟩ := Outcome.bind_eq_ok_iff.mp set
      cases isSet
      exact ⟨fun _ => requirePrimary_eq_ok isObject, rfl⟩

/-- Setting items that have been read takes an array, and leaves the rest of a node alone. -/
theorem withItems_eq_ok {node changed : Node Property} {read : Option Property}
    (set : withItems node read = .ok changed) :
    (read ≠ none → node.facets.declared.primary = "array") ∧
      changed = { node with items := (read.map Child.property).or node.items } := by
  cases read with
  | none =>
      cases set
      exact ⟨fun some => absurd rfl some, rfl⟩
  | some items =>
      obtain ⟨_, isArray, isSet⟩ := Outcome.bind_eq_ok_iff.mp set
      cases isSet
      exact ⟨fun _ => requirePrimary_eq_ok isArray, rfl⟩

/-- What the steps came to when a property was read from the fields of a document under a name. -/
structure ReadFrom (name : Value) (fields : Fields Value) (facets : Facets)
    (children : Option (Fields (Child Property) Name)) (items : Option Property)
    (property : Property) : Prop where
  facetsRead : Facets.ofFields name fields = .ok facets
  childrenRead : childrenIn fields = .ok children
  isObject : children ≠ none → facets.declared.primary = "object"
  itemsRead : itemsIn fields = .ok items
  isArray : items ≠ none → facets.declared.primary = "array"
  restAdded : facets.addRest fields = .ok property.facets
  hasChildren : property.children = children.getD []
  hasItems : property.items = items.map .property

theorem ofDocument_eq_ok {name document : Value} {property : Property}
    (read : ofDocument name document = .ok property) :
    ∃ fields facets children items, document.toFields = .ok fields ∧
      ReadFrom name fields facets children items property := by
  rw [ofDocument_eq] at read
  obtain ⟨fields, converted, afterFields⟩ := Outcome.bind_eq_ok_iff.mp read
  obtain ⟨facets, facetsRead, afterFacets⟩ := Outcome.bind_eq_ok_iff.mp afterFields
  obtain ⟨children, childrenRead, afterChildren⟩ := Outcome.bind_eq_ok_iff.mp afterFacets
  obtain ⟨withNested, childrenSet, afterNested⟩ := Outcome.bind_eq_ok_iff.mp afterChildren
  obtain ⟨items, itemsRead, afterItems⟩ := Outcome.bind_eq_ok_iff.mp afterNested
  obtain ⟨whole, itemsSet, afterWhole⟩ := Outcome.bind_eq_ok_iff.mp afterItems
  obtain ⟨complete, restAdded, isRead⟩ := Outcome.bind_eq_ok_iff.mp afterWhole
  cases isRead
  obtain ⟨isObject, rfl⟩ := withChildren_eq_ok childrenSet
  obtain ⟨isArray, rfl⟩ := withItems_eq_ok itemsSet
  exact ⟨fields, facets, children, items, converted, {
    facetsRead := facetsRead
    childrenRead := childrenRead
    isObject := isObject
    itemsRead := itemsRead
    isArray := isArray
    restAdded := restAdded
    hasChildren := rfl
    hasItems := Option.or_none }⟩

/-- Each child has been read from an entry, under its key. -/
theorem mem_childrenOf {entries : Fields Value} {children : Fields (Child Property) Name}
    (read : childrenOf entries = .ok children) {name : Name} {child : Child Property}
    (member : (name, child) ∈ children) :
    ∃ key document nested, (key, document) ∈ entries ∧ name = .text key ∧
      child = .property nested ∧ ofDocument (.text key) document = .ok nested := by
  induction entries generalizing children with
  | nil =>
      rw [childrenOf] at read
      cases read
      cases member
  | cons entry rest inductionHypothesis =>
      obtain ⟨key, document⟩ := entry
      rw [childrenOf] at read
      obtain ⟨first, firstRead, afterFirst⟩ := Outcome.bind_eq_ok_iff.mp read
      obtain ⟨others, othersRead, isRead⟩ := Outcome.bind_eq_ok_iff.mp afterFirst
      cases isRead
      rcases List.mem_cons.mp member with here | later
      · cases here
        exact ⟨key, document, first, List.mem_cons_self, rfl, rfl, firstRead⟩
      · obtain ⟨otherKey, other, nested, isEntry, found⟩ := inductionHypothesis othersRead later
        exact ⟨otherKey, other, nested, List.mem_cons_of_mem _ isEntry, found⟩

/-- The document of every entry has been read as a child. -/
theorem mem_of_childrenOf {entries : Fields Value} {children : Fields (Child Property) Name}
    (read : childrenOf entries = .ok children) {key : String} {document : Value}
    (member : (key, document) ∈ entries) :
    ∃ nested, (.text key, .property nested) ∈ children ∧
      ofDocument (.text key) document = .ok nested := by
  induction entries generalizing children with
  | nil =>
      cases member
  | cons entry rest inductionHypothesis =>
      obtain ⟨name, first⟩ := entry
      rw [childrenOf] at read
      obtain ⟨child, childRead, afterChild⟩ := Outcome.bind_eq_ok_iff.mp read
      obtain ⟨others, othersRead, isRead⟩ := Outcome.bind_eq_ok_iff.mp afterChild
      cases isRead
      rcases List.mem_cons.mp member with here | later
      · cases here
        exact ⟨child, List.mem_cons_self, childRead⟩
      · obtain ⟨nested, isChild, nestedRead⟩ := inductionHypothesis othersRead later
        exact ⟨nested, List.mem_cons_of_mem _ isChild, nestedRead⟩

namespace ReadFrom

variable {name : Value} {fields : Fields Value} {facets : Facets}
  {children : Option (Fields (Child Property) Name)} {items : Option Property}
  {property : Property}

/-- All entries of a map under `properties` have been read as children, even if there are none. -/
theorem childrenOf (parts : ReadFrom name fields facets children items property)
    {entries : Fields Value} (found : fields.get? "properties" = some (.map entries)) :
    childrenOf entries = .ok property.children := by
  have isRead := parts.childrenRead
  rw [parts.hasChildren]
  unfold childrenIn at isRead
  rw [found] at isRead
  cases entries with
  | nil =>
      cases isRead
      rw [Property.childrenOf]
      rfl
  | cons first rest =>
      obtain ⟨read, childrenRead, rfl⟩ := Outcome.map_eq_ok_iff.mp isRead
      exact childrenRead

theorem child (parts : ReadFrom name fields facets children items property) {key : Name}
    {child : Child Property} (member : (key, child) ∈ property.children) :
    ∃ entries text document nested, fields.get? "properties" = some (.map entries) ∧
      (text, document) ∈ entries ∧ key = .text text ∧ child = .property nested ∧
      ofDocument (.text text) document = .ok nested := by
  have isRead := parts.childrenRead
  rw [parts.hasChildren] at member
  unfold childrenIn at isRead
  split at isRead
  · next first rest found =>
      obtain ⟨read, childrenRead, rfl⟩ := Outcome.map_eq_ok_iff.mp isRead
      obtain ⟨text, document, nested, isEntry⟩ := mem_childrenOf childrenRead member
      exact ⟨_, text, document, nested, found, isEntry⟩
  · split at isRead <;> cases isRead
    cases member
  · cases isRead
    cases member

theorem item (parts : ReadFrom name fields facets children items property)
    {child : Child Property} (isItems : property.items = some child) :
    ∃ entries nested, fields.get? "items" = some (.map entries) ∧ child = .property nested ∧
      ofDocument (itemName entries) (.map entries) = .ok nested := by
  have isRead := parts.itemsRead
  rw [parts.hasItems] at isItems
  unfold itemsIn at isRead
  split at isRead
  · next entries found =>
      obtain ⟨nested, nestedRead, rfl⟩ := Outcome.map_eq_ok_iff.mp isRead
      cases isItems
      exact ⟨entries, nested, found, rfl, nestedRead⟩
  · cases isRead
    cases isItems
  · cases isRead
  · cases isRead
    cases isItems

theorem conditionals (parts : ReadFrom name fields facets children items property) :
    ∃ documents,
      ((Facets.entry fields "conditionalRules").orElse (.list [])).parts = .ok documents ∧
      Facets.conditionalsOf documents = .ok property.facets.conditionals := by
  obtain ⟨documents, conditionals, listed, read, complete⟩ := Facets.addRest_eq_ok parts.restAdded
  have noneYet : facets.conditionals = [] := by
    rw [(Facets.ofFields_frame parts.facetsRead).2]
  refine ⟨documents, listed, ?_⟩
  rw [read, complete, noneYet, List.nil_append]

end ReadFrom

/-- What holds at the root of all that can be read holds everywhere in what is read. -/
theorem every_ofDocument {feature : Node Property → Prop}
    (root : ∀ {name document property}, ofDocument name document = .ok property →
      feature property.node)
    (name document : Value) {property : Property} (read : ofDocument name document = .ok property) :
    Every feature property := by
  obtain ⟨fields, facets, children, items, converted, parts⟩ := ofDocument_eq_ok read
  cases property with
  | mk complete nestedChildren nestedItems =>
      refine every_mk (root read) (fun key nested member => ?_) fun nested isItems => ?_
      · obtain ⟨entries, text, nestedDocument, _, found, isEntry, _, same, nestedRead⟩ :=
          parts.child member
        cases same
        exact every_ofDocument root (.text text) nestedDocument nestedRead
      · obtain ⟨entries, _, found, same, nestedRead⟩ := parts.item isItems
        cases same
        exact every_ofDocument root (itemName entries) (.map entries) nestedRead
termination_by document.weight
decreasing_by
  · have entryLighter := Value.weight_lt_entryWeights isEntry
    have mapLighter := Value.weight_lt_of_toFields converted found
    simp only [Value.weight] at mapLighter
    omega
  · exact Value.weight_lt_of_toFields converted found

end Property
end RecordSchema
