import RecordSchema.Proofs.Check.Presence
import RecordSchema.Proofs.Property.History
import RecordSchema.Proofs.Schema.Rows
import RecordSchema.Property.Acceptance

/-!
# Rules about siblings

A rule about siblings is kept twice: as a conditional rule, by which a property accepts a value, and
as a token, by which a schema checks a record.  The first takes a sibling as filled in unless its
value is empty, the second if its value is present.  Of a missing field, the two say the same as
long as no sibling is in between: a false truth value, a zero or the text of one is empty and
present, a text of white space is neither.
-/

namespace RecordSchema

/-! ## Values in between -/

namespace Value

/-- A value that is empty and present. -/
inductive Unchosen : Value → Prop
  | no : Unchosen (.bool false)
  | zero : Unchosen (.int 0)
  | zeroDouble {value : Double} : value.isZero = true → Unchosen (.double value)
  | zeroText : Unchosen (.text "0")

/-- A text that is neither empty nor present. -/
inductive White : Value → Prop
  | text {text : String} : text ≠ "" → (∀ c ∈ text.toList, Text.isBlank c = true) →
      White (.text text)

variable {value : Value}

private theorem unchosen_iff : value.Unchosen ↔ value.isEmpty = true ∧ value.isPresent = true := by
  constructor
  · intro unchosen
    cases unchosen with
    | zeroDouble isZero =>
        exact ⟨isZero, rfl⟩
    | _ =>
        exact ⟨by decide, by decide⟩
  · rintro ⟨empty, present⟩
    cases value with
    | bool flag =>
        cases flag with
        | false =>
            exact .no
        | true =>
            cases empty
    | int number =>
        cases beq_iff_eq.mp empty
        exact .zero
    | double number =>
        exact .zeroDouble empty
    | text text =>
        rcases Bool.or_eq_true_iff.mp empty with none | zero
        · cases beq_iff_eq.mp none
          cases present
        · cases beq_iff_eq.mp zero
          exact .zeroText
    | map entries =>
        simp [isEmpty, isPresent] at empty present
        exact absurd empty present
    | keyed entries =>
        simp [isEmpty, isPresent] at empty present
        exact absurd empty present
    | list items =>
        simp [isEmpty, isPresent] at empty present
        exact absurd empty present
    | tuple items =>
        simp [isEmpty, isPresent] at empty present
        exact absurd empty present
    | set items =>
        simp [isEmpty, isPresent] at empty present
        exact absurd empty present
    | null =>
        cases present
    | _ =>
        cases empty

/-- A value that is neither empty nor absent. -/
def Filled (value : Value) : Prop :=
  value.isEmpty = false ∧ value.isPresent = true

private theorem white_iff : value.White ↔ value.isEmpty = false ∧ value.isPresent = false := by
  rw [isPresent_eq_false_iff]
  constructor
  · rintro ⟨nonempty, blank⟩
    refine ⟨?_, .blank blank⟩
    simp only [isEmpty, Bool.or_eq_false_iff, beq_eq_false_iff_ne]
    refine ⟨nonempty, ?_⟩
    rintro rfl
    exact absurd (blank '0' (by decide)) (by decide)
  · rintro ⟨filled, void⟩
    cases void with
    | blank blank =>
        refine .text ?_ blank
        rintro rfl
        cases filled
    | _ =>
        cases filled

theorem isEmpty_eq_false_iff : value.isEmpty = false ↔ value.Filled ∨ value.White := by
  rw [white_iff, Filled]
  cases value.isPresent <;> simp

private theorem isPresent_iff : value.isPresent = true ↔ value.Filled ∨ value.Unchosen := by
  rw [unchosen_iff, Filled]
  cases value.isEmpty <;> simp

end Value

def Fields.valueAt (record : Fields Value) (name : String) : Value :=
  (record.get? name).getD .null

variable {record : Fields Value} {name : String} {siblings : List String}

/-! ## Acceptance -/

private theorem ConditionalRule.anySibling_texts (record : Fields Value) (siblings : List String) :
    anySibling (.map record) (siblings.map .text) =
      .ok (siblings.any fun sibling => !(record.valueAt sibling).isEmpty) := by
  induction siblings with
  | nil =>
      rfl
  | cons sibling rest inductionHypothesis =>
      have held : (Value.map record).entry (.text sibling) = .ok (record.valueAt sibling) := rfl
      cases empty : (record.valueAt sibling).isEmpty with
      | true =>
          simp [anySibling, held, empty, inductionHypothesis]
      | false =>
          simp [anySibling, held, empty]

namespace Facets

def ofSiblings (rule : List Value → ConditionalRule) (tokenName name : String)
    (siblings : List String) : Facets where
  name := .text name
  declared := .single "string"
  rules := [tokenName ++ ":" ++ Text.join "," siblings]
  conditionals := [rule (siblings.map .text)]

private theorem addSiblingRule_plain (rule : List Value → ConditionalRule) (tokenName name : String)
    (siblings : List String) :
    addSiblingRule rule tokenName (Property.plain "string" name).facets
        (.list (siblings.map .text)) =
      .done (ofSiblings rule tokenName name siblings) := by
  have optional : (tokenName ++ ":" ++ Text.join "," siblings == "required") = false := by
    rw [beq_eq_false_iff_ne]
    intro same
    have colon : ':' ∈ "required".toList := by
      rw [← same]
      simp
    exact absurd colon (by decide)
  have named : siblingNames (.list (siblings.map .text)) = .ok (siblings.map .text) := rfl
  simp only [addSiblingRule, named, plainTexts_texts, addToken, optional]
  rfl

/-- A property with a single rule about siblings and no token `required` does without a value
exactly if the rule asks for none. -/
theorem accepts_null {facets : Facets} {rule : ConditionalRule} {asks : Bool}
    (only : facets.conditionals = [rule]) (optional : facets.isRequired = false)
    (requires : rule.requiresValue? (.map record) = some (.ok asks)) :
    facets.accepts .null (.map record) = .ok (!asks) := by
  cases asks with
  | true =>
      simp [accepts, only, lacksForSiblings, requires, Value.isBlank]
  | false =>
      simp [accepts, only, lacksForSiblings, requires, optional]

end Facets

/-! ## Checking -/

namespace Engine

private theorem demands_requiredWith_iff {call : Call} :
    Demands call ⟨"required_with", siblings⟩ ↔
      ∃ sibling ∈ siblings, (call.other sibling).isPresent = true := by
  constructor
  · intro demands
    generalize isRule : (⟨"required_with", siblings⟩ : Rule.Invocation) = rule at demands
    cases demands with
    | withSibling member present =>
        cases isRule
        exact ⟨_, member, present⟩
    | _ =>
        simp at isRule
  · rintro ⟨sibling, member, present⟩
    exact .withSibling member present

private theorem demands_requiredWithout_iff {call : Call} :
    Demands call ⟨"required_without", siblings⟩ ↔
      ∃ sibling ∈ siblings, (call.other sibling).isPresent = false := by
  constructor
  · intro demands
    generalize isRule : (⟨"required_without", siblings⟩ : Rule.Invocation) = rule at demands
    cases demands with
    | withoutSibling member lacking =>
        cases isRule
        exact ⟨_, member, lacking⟩
    | _ =>
        simp at isRule
  · rintro ⟨sibling, member, lacking⟩
    exact .withoutSibling member lacking

end Engine

/-! ## Both ways of saying it -/

namespace Property

def requiredWith (name : String) (siblings : List String) : Property :=
  (Edit.apply (plain "string" name)
    (.facets (.addRequiredWith (.list (siblings.map .text))))).state

def requiredWithout (name : String) (siblings : List String) : Property :=
  (Edit.apply (plain "string" name)
    (.facets (.addRequiredWithout (.list (siblings.map .text))))).state

private theorem requiredWith_eq (name : String) (siblings : List String) :
    requiredWith name siblings =
      leaf (.ofSiblings .requiredWith "required_with" name siblings) := by
  rw [requiredWith, Edit.apply, Facets.Edit.apply, Facets.addRequiredWith,
    Facets.addSiblingRule_plain]
  rfl

private theorem requiredWithout_eq (name : String) (siblings : List String) :
    requiredWithout name siblings =
      leaf (.ofSiblings .requiredWithout "required_without" name siblings) := by
  rw [requiredWithout, Edit.apply, Facets.Edit.apply, Facets.addRequiredWithout,
    Facets.addSiblingRule_plain]
  rfl

end Property

namespace Schema

/-- A rule about siblings compiles to nothing, so the schema of a property with a single one checks
a record against its token alone. -/
theorem evaluate_ofSiblings {rule : List Value → ConditionalRule} (tokenName name : String)
    (siblings : List String)
    (isCarried : RuleSet.ofDocument (rule (siblings.map .text)).toDocument = .ok none)
    (record : Fields Value) :
    (add {} (.leaf (.ofSiblings rule tokenName name siblings))).state.evaluate {} (.map record) =
      Engine.evaluate {} {} record
        [(.text name, [.token (tokenName ++ ":" ++ Text.join "," siblings)])] := by
  have named : Name.ofValue
      (Property.leaf (.ofSiblings rule tokenName name siblings)).facets.name =
        .ok (.text name) := rfl
  have distinct :
      (Property.leaf (.ofSiblings rule tokenName name siblings)).facets.attributes.Distinct :=
    Fields.distinct_nil
  have own : (Property.leaf (.ofSiblings rule tokenName name siblings)).facets.OwnKeys :=
    List.forall_mem_nil _
  have compiled := Compiled.ofProperty_eq distinct own
  have carried : Compiled.ofDocument (rule (siblings.map .text)).toDocument =
      .ok (.carried (.text (rule (siblings.map .text)).kind)) := by
    simp [Compiled.ofDocument, isCarried]
  simp only [Property.leaf, Property.facets, Facets.ofSiblings, List.map_cons, List.map_nil,
    Compiled.ofDocuments, carried] at compiled
  rw [add_eq_done {} named distinct own, Property.ruleEntries, Property.leaf, Facets.ofSiblings,
    compiled]
  rfl

variable (listable : Rule.Listable siblings) (missing : record.get? name = none)
include listable missing

/-- Without the field, a property with a single rule about siblings turns down a record as the rule
asks, and its schema as the token demands. -/
theorem siblingRule_verdicts (rule : List Value → ConditionalRule) (tokenName : String)
    {asks : Bool} (noColon : ':' ∉ tokenName.toList)
    (trimmed : Text.trim tokenName.toList = tokenName.toList)
    (unconditional : tokenName ∈ Rule.Invocation.unconditional)
    (isCarried : RuleSet.ofDocument (rule (siblings.map .text)).toDocument = .ok none)
    (requires : (rule (siblings.map .text)).requiresValue? (.map record) = some (.ok asks)) :
    ∃ report,
      (Facets.ofSiblings rule tokenName name siblings).accepts .null (.map record) =
        .ok (!asks) ∧
      (add {} (.leaf (.ofSiblings rule tokenName name siblings))).state.evaluate {}
        (.map record) = .ok report ∧
      (report.valid = false ↔
        Engine.Demands (Engine.callOn record (.text name)
          [tokenName ++ ":" ++ Text.join "," siblings]) ⟨tokenName, siblings⟩) := by
  have notRegex : tokenName ≠ "regex" := by
    rintro rfl
    exact absurd unconditional (by decide)
  have parsed := Rule.parse_join noColon trimmed notRegex listable
  obtain ⟨report, evaluated, messages, verdict⟩ := Engine.evaluate_missing missing
    (tokenName ++ ":" ++ Text.join "," siblings) (by rw [parsed]; exact unconditional)
  rw [messages, parsed] at verdict
  refine ⟨report, Facets.accepts_null rfl rfl requires, ?_, verdict⟩
  rw [evaluate_ofSiblings tokenName name siblings isCarried record, evaluated]

private theorem requiredWith_verdicts :
    ∃ accepted report,
      (Property.requiredWith name siblings).facets.accepts .null (.map record) = .ok accepted ∧
      (add {} (Property.requiredWith name siblings)).state.evaluate {} (.map record) =
        .ok report ∧
      (accepted = false ↔ ∃ sibling ∈ siblings, (record.valueAt sibling).isEmpty = false) ∧
      (report.valid = false ↔
        ∃ sibling ∈ siblings, (record.valueAt sibling).isPresent = true) := by
  obtain ⟨report, accepted, evaluated, verdict⟩ := siblingRule_verdicts listable missing
    .requiredWith "required_with" (by decide) (by decide) (by decide) rfl
    (congrArg some (ConditionalRule.anySibling_texts record siblings))
  rw [Engine.demands_requiredWith_iff] at verdict
  rw [Property.requiredWith_eq]
  exact ⟨_, report, accepted, evaluated, by simp, verdict⟩

private theorem requiredWithout_verdicts :
    ∃ accepted report,
      (Property.requiredWithout name siblings).facets.accepts .null (.map record) =
        .ok accepted ∧
      (add {} (Property.requiredWithout name siblings)).state.evaluate {} (.map record) =
        .ok report ∧
      (accepted = false ↔ ∀ sibling ∈ siblings, (record.valueAt sibling).isEmpty = true) ∧
      (report.valid = false ↔
        ∃ sibling ∈ siblings, (record.valueAt sibling).isPresent = false) := by
  have asks : (ConditionalRule.requiredWithout (siblings.map .text)).requiresValue?
        (.map record) =
      some (.ok !(siblings.any fun sibling => !(record.valueAt sibling).isEmpty)) := by
    rw [ConditionalRule.requiresValue?, ConditionalRule.anySibling_texts]
    rfl
  obtain ⟨report, accepted, evaluated, verdict⟩ := siblingRule_verdicts listable missing
    .requiredWithout "required_without" (by decide) (by decide) (by decide) rfl asks
  rw [Engine.demands_requiredWithout_iff] at verdict
  rw [Property.requiredWithout_eq]
  exact ⟨_, report, accepted, evaluated, by simp, verdict⟩

/-- A property that is required with siblings and its schema say the same of a record without the
field exactly if a sibling is filled in by both notions, or those of white space are matched by
those that are not chosen.  If the property is required without siblings and turns down a record,
its schema does so as well, unless none of the siblings is chosen. -/
theorem siblings_agree :
    (∃ accepted report,
      (Property.requiredWith name siblings).facets.accepts .null (.map record) = .ok accepted ∧
      (add {} (Property.requiredWith name siblings)).state.evaluate {} (.map record) =
        .ok report ∧
      ((accepted = false ↔ report.valid = false) ↔
        (∃ sibling ∈ siblings, (record.valueAt sibling).Filled) ∨
          ((∃ sibling ∈ siblings, (record.valueAt sibling).White) ↔
            ∃ sibling ∈ siblings, (record.valueAt sibling).Unchosen))) ∧
    (∃ accepted report,
      (Property.requiredWithout name siblings).facets.accepts .null (.map record) =
        .ok accepted ∧
      (add {} (Property.requiredWithout name siblings)).state.evaluate {} (.map record) =
        .ok report ∧
      ((accepted = false → report.valid = false) ↔
        ¬ ∀ sibling ∈ siblings, (record.valueAt sibling).Unchosen)) := by
  constructor
  · obtain ⟨accepted, report, isAccepted, evaluated, turnsDown, complains⟩ :=
      requiredWith_verdicts listable missing
    refine ⟨accepted, report, isAccepted, evaluated, ?_⟩
    rw [turnsDown, complains]
    simp only [Value.isEmpty_eq_false_iff, Value.isPresent_iff, and_or_left, exists_or]
    by_cases filled : ∃ sibling ∈ siblings, (record.valueAt sibling).Filled
    · simp only [filled, true_or]
    · simp only [filled, false_or]
  · obtain ⟨accepted, report, isAccepted, evaluated, turnsDown, complains⟩ :=
      requiredWithout_verdicts listable missing
    refine ⟨accepted, report, isAccepted, evaluated, ?_⟩
    rw [turnsDown, complains]
    simp only [Value.unchosen_iff]
    constructor
    · intro agrees unchosen
      obtain ⟨sibling, member, absent⟩ := agrees fun sibling member =>
        (unchosen sibling member).1
      rw [(unchosen sibling member).2] at absent
      cases absent
    · intro chosen empty
      refine Classical.byContradiction fun allPresent => chosen fun sibling member => ?_
      refine ⟨empty sibling member, ?_⟩
      refine Classical.byContradiction fun absent => allPresent ⟨sibling, member, ?_⟩
      simpa using absent

omit listable missing

private theorem listable_mail_phone : Rule.Listable ["mail", "phone"] where
  nonempty := List.cons_ne_nil _ _
  noComma := by decide
  noneEmpty := by decide

/-- A text of white space and a value that is not chosen make up for each other. -/
theorem siblings_agree_mail_phone :
    Rule.Listable ["mail", "phone"] ∧
      Fields.get? [("mail", .text " "), ("phone", Value.bool false)] "name" = none ∧
      ∃ accepted report,
        (Property.requiredWith "name" ["mail", "phone"]).facets.accepts .null
          (.map [("mail", .text " "), ("phone", .bool false)]) = .ok accepted ∧
        (add {} (Property.requiredWith "name" ["mail", "phone"])).state.evaluate {}
          (.map [("mail", .text " "), ("phone", .bool false)]) = .ok report ∧
        (accepted = false ↔ report.valid = false) := by
  refine ⟨listable_mail_phone, rfl, ?_⟩
  have missing :
      Fields.get? [("mail", .text " "), ("phone", Value.bool false)] "name" = none := rfl
  obtain ⟨⟨accepted, report, isAccepted, evaluated, agrees⟩, _⟩ :=
    siblings_agree listable_mail_phone missing
  refine ⟨accepted, report, isAccepted, evaluated, agrees.mpr (Or.inr (iff_of_true ?_ ?_))⟩
  · exact ⟨"mail", by simp, .text (by decide) (List.all_eq_true.mp rfl)⟩
  · exact ⟨"phone", by simp, .no⟩

/-- A single sibling that is not chosen is not filled in, and is present. -/
theorem siblings_disagree :
    (∃ report,
      (Property.requiredWith "name" ["mail"]).facets.accepts .null
        (.map [("mail", .bool false)]) = .ok true ∧
      (add {} (Property.requiredWith "name" ["mail"])).state.evaluate {}
        (.map [("mail", .bool false)]) = .ok report ∧
      report.valid = false) ∧
    (∃ report,
      (Property.requiredWithout "name" ["mail"]).facets.accepts .null
        (.map [("mail", .bool false)]) = .ok false ∧
      (add {} (Property.requiredWithout "name" ["mail"])).state.evaluate {}
        (.map [("mail", .bool false)]) = .ok report ∧
      report.valid = true) := by
  have listable : Rule.Listable ["mail"] :=
    ⟨List.cons_ne_nil _ _, by decide, by decide⟩
  have missing : Fields.get? [("mail", Value.bool false)] "name" = none := rfl
  constructor
  · obtain ⟨accepted, report, isAccepted, evaluated, turnsDown, complains⟩ :=
      requiredWith_verdicts listable missing
    refine ⟨report, ?_, evaluated, complains.mpr ⟨"mail", by simp, rfl⟩⟩
    rw [isAccepted]
    cases accepted with
    | true =>
        rfl
    | false =>
        obtain ⟨sibling, member, filled⟩ := turnsDown.mp rfl
        cases List.mem_singleton.mp member
        cases filled
  · obtain ⟨accepted, report, isAccepted, evaluated, turnsDown, complains⟩ :=
      requiredWithout_verdicts listable missing
    have empty : ∀ sibling ∈ ["mail"],
        (Fields.valueAt [("mail", Value.bool false)] sibling).isEmpty = true := by
      intro sibling member
      cases List.mem_singleton.mp member
      rfl
    refine ⟨report, by rw [isAccepted, turnsDown.mpr empty], evaluated, ?_⟩
    rw [← Bool.not_eq_false]
    intro invalid
    obtain ⟨sibling, member, absent⟩ := complains.mp invalid
    cases List.mem_singleton.mp member
    cases absent

end Schema
end RecordSchema
