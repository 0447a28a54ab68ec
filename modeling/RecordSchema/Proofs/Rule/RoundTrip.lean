import RecordSchema.Proofs.Outcome
import RecordSchema.Proofs.Value
import RecordSchema.Rule.Conditional

/-!
# Reading back conditional rules

The written form of a conditional rule names its kind and holds all it consists of, so reading
gives the rule back.  A closure is the one thing that cannot be read.
-/

namespace RecordSchema

@[simp]
theorem Rule.texts_map_text (tokens : List String) :
    Rule.texts (tokens.map Value.text) = .ok tokens := by
  induction tokens with
  | nil =>
      rfl
  | cons token rest inductionHypothesis =>
      simp [Rule.texts, inductionHypothesis]

@[simp]
theorem Rule.normalize_tokenList (tokens : List String) :
    Rule.normalize (ConditionalRule.tokenList tokens) = .ok tokens := by
  simp [Rule.normalize, ConditionalRule.tokenList, Value.parts, Value.parts?]

namespace ConditionalRule

def isClosure : ConditionalRule → Bool
  | .closure _ _ => true
  | _ => false

theorem field_toDocument (rule : ConditionalRule) (name : String) :
    rule.toDocument.field name =
      .ok ((Fields.get? (("type", .text rule.kind) :: rule.selector ++
        [("rules", tokenList rule.rules)]) name).getD .null) := rfl

@[simp]
theorem rules_toDocument (rule : ConditionalRule) :
    rule.toDocument.field "rules" = .ok (tokenList rule.rules) := by
  cases rule <;> rfl

@[simp]
theorem type_toDocument (rule : ConditionalRule) :
    rule.toDocument.field "type" = .ok (.text rule.kind) := rfl

/-- A rule that asks no closure is read back from its written form. -/
theorem ofDocument_toDocument {rule : ConditionalRule} (restorable : rule.isClosure = false) :
    ofDocument rule.toDocument = .ok rule := by
  unfold ofDocument
  rw [type_toDocument, rules_toDocument]
  simp only [Outcome.ok_bind, Rule.normalize_tokenList]
  cases rule with
  | closure identity tokens =>
      simp [isClosure] at restorable
  | allFields expected tokens =>
      simp [kind, rules, field_toDocument, selector, Fields.get?_cons]
  | equality field expected tokens =>
      rfl
  | pattern field source tokens =>
      rfl
  | comparison field operator operand tokens =>
      rfl
  | requiredWith fields =>
      simp [kind, siblings, field_toDocument, selector, Fields.get?_cons]
  | requiredWithout fields =>
      simp [kind, siblings, field_toDocument, selector, Fields.get?_cons]

/-- A rule that asks a closure is refused. -/
theorem ofDocument_of_closure {rule : ConditionalRule} (isClosure : rule.isClosure = true) :
    ofDocument rule.toDocument = .error .closureNotRestorable := by
  unfold ofDocument
  rw [type_toDocument, rules_toDocument]
  cases rule with
  | closure identity tokens =>
      simp [Rule.normalize_tokenList, kind, rules, field_toDocument]
  | _ =>
      cases isClosure

/-- No rule that has been read asks a closure. -/
theorem isClosure_of_ofDocument {document : Value} {rule : ConditionalRule}
    (read : ofDocument document = .ok rule) : rule.isClosure = false := by
  obtain ⟨kind, _, afterKind⟩ := Outcome.bind_eq_ok_iff.mp read
  obtain ⟨listed, _, afterListed⟩ := Outcome.bind_eq_ok_iff.mp afterKind
  obtain ⟨tokens, _, afterTokens⟩ := Outcome.bind_eq_ok_iff.mp afterListed
  obtain ⟨value, _, read⟩ := Outcome.bind_eq_ok_iff.mp afterTokens
  split at read
  · cases read
  · obtain ⟨_, _, afterGiven⟩ := Outcome.bind_eq_ok_iff.mp read
    obtain ⟨_, _, isRule⟩ := Outcome.bind_eq_ok_iff.mp afterGiven
    cases isRule
    rfl
  · obtain ⟨_, _, isRule⟩ := Outcome.bind_eq_ok_iff.mp read
    cases isRule
    rfl
  · obtain ⟨_, _, afterField⟩ := Outcome.bind_eq_ok_iff.mp read
    obtain ⟨_, _, isRule⟩ := Outcome.bind_eq_ok_iff.mp afterField
    cases isRule
    rfl
  · obtain ⟨_, _, afterField⟩ := Outcome.bind_eq_ok_iff.mp read
    obtain ⟨_, _, afterOperator⟩ := Outcome.bind_eq_ok_iff.mp afterField
    obtain ⟨_, _, isRule⟩ := Outcome.bind_eq_ok_iff.mp afterOperator
    cases isRule
    rfl
  · obtain ⟨_, _, isRule⟩ := Outcome.bind_eq_ok_iff.mp read
    cases isRule
    rfl
  · obtain ⟨_, _, isRule⟩ := Outcome.bind_eq_ok_iff.mp read
    cases isRule
    rfl
  · cases read

end ConditionalRule
end RecordSchema
