import RecordSchema.Proofs.Property.Soundness
import RecordSchema.Proofs.Rule.Parsing

/-!
# The history of tokens

Which tokens a property has after a number of edits, some of which may have failed.  An edit adds
tokens or removes them, so a token is there exactly if something added it and nothing after that
removed it.  An edit that attaches a rule about siblings adds a token of its own for it.
-/

namespace RecordSchema

/-- A rule about siblings, all of them named by texts, and the rule that its token says. -/
def ConditionalRule.CarriedBy : ConditionalRule → Rule.Invocation → Prop
  | .requiredWith fields, rule =>
    rule.name = "required_with" ∧ fields = rule.parameters.map .text
  | .requiredWithout fields, rule =>
    rule.name = "required_without" ∧ fields = rule.parameters.map .text
  | _, _ => False

namespace Facets

/-! ## Tokens of one edit -/

private theorem plainTexts_eq_ok_iff {values : List Value} {names : List String} :
    plainTexts values = .ok names ↔ values = names.map .text := by
  induction values generalizing names with
  | nil =>
      cases names with
      | nil =>
          simp [plainTexts]
      | cons name rest =>
          simp [plainTexts]
  | cons value rest inductionHypothesis =>
      cases value with
      | text text =>
          simp only [plainTexts, Outcome.map_eq_ok_iff, inductionHypothesis]
          cases names with
          | nil =>
              simp
          | cons name others =>
              simp only [List.cons.injEq, List.map_cons, Value.text.injEq]
              constructor
              · rintro ⟨taken, areTexts, same, rfl⟩
                exact ⟨same, areTexts⟩
              · rintro ⟨same, areTexts⟩
                exact ⟨others, areTexts, same, rfl⟩
      | _ =>
          cases names with
          | nil =>
              simp [plainTexts]
          | cons name others =>
              simp [plainTexts]

@[simp]
theorem plainTexts_texts (texts : List String) : plainTexts (texts.map .text) = .ok texts :=
  plainTexts_eq_ok_iff.mpr rfl

theorem map_text_inj {names others : List String} :
    names.map Value.text = others.map .text ↔ names = others :=
  List.map_inj_right fun _ _ => Value.text.inj

theorem addSiblingRule_texts {rule : List Value → ConditionalRule} {tokenName : String}
    {facets : Facets} {siblings : Value} {names : List String}
    (named : siblingNames siblings = .ok (names.map .text)) :
    addSiblingRule rule tokenName facets siblings =
      .done ((facets.addConditional (rule (names.map .text))).addToken
        (Rule.Invocation.token ⟨tokenName, names⟩)) := by
  simp [addSiblingRule, named, Rule.Invocation.token]

/-- The ways in which adding a rule about siblings can end: before it has done anything, with the
rule attached and a name that is no text, or with the rule and its token. -/
theorem addSiblingRule_cases (rule : List Value → ConditionalRule) (tokenName : String)
    (facets : Facets) (siblings : Value) :
    (∃ error, siblingNames siblings = .error error ∧
      addSiblingRule rule tokenName facets siblings = .failed facets error) ∨
    (∃ names error, siblingNames siblings = .ok names ∧
      (∀ texts : List String, names ≠ texts.map .text) ∧
      addSiblingRule rule tokenName facets siblings =
        .failed (facets.addConditional (rule names)) error) ∨
    ∃ names : List String, siblingNames siblings = .ok (names.map .text) ∧
      addSiblingRule rule tokenName facets siblings =
        .done ((facets.addConditional (rule (names.map .text))).addToken
          (Rule.Invocation.token ⟨tokenName, names⟩)) := by
  cases named : siblingNames siblings with
  | error error =>
      exact .inl ⟨error, rfl, by simp [addSiblingRule, named]⟩
  | ok values =>
      cases texts : plainTexts values with
      | error error =>
          refine .inr (.inl ⟨values, error, rfl, ?_, by simp [addSiblingRule, named, texts]⟩)
          rintro names rfl
          simp at texts
      | ok names =>
          cases plainTexts_eq_ok_iff.mp texts
          exact .inr (.inr ⟨names, rfl, addSiblingRule_texts named⟩)

namespace Edit

/-- An edit adds a token, whether it is there already or not. -/
def Adds : Facets.Edit → String → Prop
  | .addRule rule, token => rule = .text token
  | .addRules rules, token => ∃ tokens, Rule.normalize rules = .ok tokens ∧ token ∈ tokens
  | .setRequired required, token => required = true ∧ token = "required"
  | .setNullable nullable, token => nullable = true ∧ token = "nullable"
  | .addRequiredWith siblings, token =>
    ∃ names : List String, siblingNames siblings = .ok (names.map .text) ∧
      token = Rule.Invocation.token ⟨"required_with", names⟩
  | .addRequiredWithout siblings, token =>
    ∃ names : List String, siblingNames siblings = .ok (names.map .text) ∧
      token = Rule.Invocation.token ⟨"required_without", names⟩
  | .addRequiredIf field value, token => fieldValueToken "required_if" field value = .ok token
  | .addProhibitedIf field value, token => fieldValueToken "prohibited_if" field value = .ok token
  | _, _ => False

def Removes : Facets.Edit → String → Prop
  | .setRequired required, token => required = false ∧ Text.startsWith "required" token = true
  | .setNullable nullable, token => nullable = false ∧ token = "nullable"
  | _, _ => False

end Edit

variable {facets after : Facets} {token : String} {edit : Facets.Edit}

theorem mem_addToken_iff {added : String} :
    token ∈ (facets.addToken added).rules ↔ token = added ∨ token ∈ facets.rules := by
  unfold addToken
  split
  · next present =>
      rw [List.contains_iff_mem] at present
      constructor
      · exact Or.inr
      · rintro (rfl | member)
        · exact present
        · exact member
  · simp [or_comm]

private theorem mem_addTokens_iff {added : List String} :
    token ∈ (facets.addTokens added).rules ↔ token ∈ added ∨ token ∈ facets.rules := by
  induction added generalizing facets with
  | nil =>
      simp [addTokens]
  | cons first rest inductionHypothesis =>
      have others := @inductionHypothesis (facets.addToken first)
      rw [mem_addToken_iff] at others
      simp only [addTokens, List.foldl_cons, List.mem_cons] at others ⊢
      rw [others, or_left_comm, or_assoc]

private theorem mem_addSiblingRule_iff {rule : List Value → ConditionalRule} {tokenName : String}
    {siblings : Value} :
    token ∈ (addSiblingRule rule tokenName facets siblings).state.rules ↔
      (∃ names : List String, siblingNames siblings = .ok (names.map .text) ∧
        token = Rule.Invocation.token ⟨tokenName, names⟩) ∨ token ∈ facets.rules := by
  rcases addSiblingRule_cases rule tokenName facets siblings with
    ⟨error, named, ended⟩ | ⟨values, error, named, noTexts, ended⟩ | ⟨names, named, ended⟩
  · simp [ended, named, Change.failed]
  · simp [ended, named, noTexts, Change.failed, addConditional]
  · simp only [ended, Change.done, mem_addToken_iff, named, Except.ok.injEq, map_text_inj]
    constructor
    · rintro (rfl | member)
      · exact .inl ⟨names, rfl, rfl⟩
      · exact .inr member
    · rintro (⟨_, rfl, rfl⟩ | member)
      · exact .inl rfl
      · exact .inr member

private theorem mem_addFieldValueRule_iff {tokenName ruleName : String} {field value : Value} :
    token ∈ (Change.atomic facets
        (facets.addFieldValueRule tokenName ruleName field value)).state.rules ↔
      fieldValueToken tokenName field value = .ok token ∨ token ∈ facets.rules := by
  cases built : fieldValueToken tokenName field value with
  | error error =>
      simp [addFieldValueRule, built, Change.atomic, Change.failed]
  | ok added =>
      have written : facets.addFieldValueRule tokenName ruleName field value =
          .ok ((facets.addConditional (.equality field value [ruleName])).addToken added) := by
        simp [addFieldValueRule, built]
      simp only [written, Change.atomic, Change.done, mem_addToken_iff, Except.ok.injEq]
      rw [eq_comm]
      rfl

private theorem mem_setRequired_iff {required : Bool} :
    token ∈ (facets.setRequired required).rules ↔
      (required = true ∧ token = "required") ∨
        token ∈ facets.rules ∧ ¬ (required = false ∧ Text.startsWith "required" token = true) := by
  cases required with
  | true =>
      simp [setRequired, mem_addToken_iff]
  | false =>
      simp [setRequired]

theorem mem_setNullable_iff {nullable : Bool} :
    token ∈ (facets.setNullable nullable).rules ↔
      (nullable = true ∧ token = "nullable") ∨
        token ∈ facets.rules ∧ ¬ (nullable = false ∧ token = "nullable") := by
  cases nullable with
  | true =>
      simp [setNullable, mem_addToken_iff]
  | false =>
      simp [setNullable]

/-- A change that leaves tokens and conditional rules alone, but for conditional rules that no token
carries. -/
structure Bystands (facets after : Facets) : Prop where
  rules : after.rules = facets.rules
  conditionals : ∀ stored ∈ after.conditionals, stored ∈ facets.conditionals ∨
    ∀ rule, ¬ stored.CarriedBy rule

theorem Bystands.of_same (rules : after.rules = facets.rules)
    (conditionals : after.conditionals = facets.conditionals) : Bystands facets after where
  rules := rules
  conditionals := by
    intro stored member
    rw [conditionals] at member
    exact .inl member

theorem Bystands.addConditional {attached : ConditionalRule}
    (uncarried : ∀ rule, ¬ attached.CarriedBy rule) :
    Bystands facets (facets.addConditional attached) where
  rules := rfl
  conditionals := by
    intro stored member
    rcases List.mem_append.mp member with old | new
    · exact .inl old
    · cases List.mem_singleton.mp new
      exact .inr uncarried

theorem Bystands.atomic {outcome : Except Error Facets}
    (bystands : ∀ after, outcome = .ok after → Bystands facets after) :
    Bystands facets (Change.atomic facets outcome).state :=
  Change.state_atomic (.of_same rfl rfl) bystands

/-- No token carries a rule under a condition on the record. -/
theorem Edit.Attaches.uncarried {attached : ConditionalRule} (attaches : edit.Attaches attached)
    (rule : Rule.Invocation) : ¬ attached.CarriedBy rule := by
  cases attaches <;> exact id

theorem conditionals_addTokens (facets : Facets) (tokens : List String) :
    (facets.addTokens tokens).conditionals = facets.conditionals := by
  rw [addTokens_eq]

theorem mem_conditionals_addSiblingRule {rule : List Value → ConditionalRule} {tokenName : String}
    {siblings : Value} {stored : ConditionalRule}
    (member : stored ∈ (addSiblingRule rule tokenName facets siblings).state.conditionals) :
    stored ∈ facets.conditionals ∨
      ∃ names, siblingNames siblings = .ok names ∧ stored = rule names := by
  rcases addSiblingRule_cases rule tokenName facets siblings with
    ⟨error, named, ended⟩ | ⟨values, error, named, _, ended⟩ | ⟨names, named, ended⟩
  · rw [ended] at member
    exact .inl member
  · rw [ended] at member
    rcases List.mem_append.mp member with old | new
    · exact .inl old
    · exact .inr ⟨values, named, List.mem_singleton.mp new⟩
  · rw [ended] at member
    rcases List.mem_append.mp member with old | new
    · exact .inl old
    · exact .inr ⟨_, named, List.mem_singleton.mp new⟩

theorem mem_conditionals_addFieldValueRule {tokenName ruleName : String} {field value : Value}
    {stored : ConditionalRule}
    (member : stored ∈ (Change.atomic facets
      (facets.addFieldValueRule tokenName ruleName field value)).state.conditionals) :
    stored ∈ facets.conditionals ∨ stored = .equality field value [ruleName] := by
  cases built : fieldValueToken tokenName field value with
  | error error =>
      simp only [addFieldValueRule, built, Outcome.error_bind] at member
      exact .inl member
  | ok token =>
      simp only [addFieldValueRule, built, Outcome.ok_bind] at member
      rcases List.mem_append.mp member with old | new
      · exact .inl old
      · exact .inr (List.mem_singleton.mp new)

namespace Edit

/-- An edit is about tokens, or about a rule that comes with a token. -/
def EditsTokens : Facets.Edit → Prop
  | .addRule _ | .addRules _ | .setRequired _ | .setNullable _ => True
  | .addRequiredWith _ | .addRequiredWithout _ | .addRequiredIf _ _ | .addProhibitedIf _ _ => True
  | _ => False

private theorem bystands (facets : Facets) (other : ¬ edit.EditsTokens) :
    Bystands facets (edit.apply facets).state := by
  cases edit with
  | setName name => exact .of_same rfl rfl
  | setDescription description => exact .of_same rfl rfl
  | setDefault default => exact .of_same rfl rfl
  | setFormat format => exact .of_same rfl rfl
  | setMinimum bound => exact .of_same rfl rfl
  | setMaximum bound => exact .of_same rfl rfl
  | setReference reference => exact .of_same rfl rfl
  | addAttribute key value =>
      apply Bystands.atomic
      intro after added
      unfold Facets.addAttribute at added
      split at added
      · cases added
        exact .of_same rfl rfl
      · cases added
  | setChoices choices =>
      apply Bystands.atomic
      intro after set
      obtain ⟨parts, _, isSet⟩ := Outcome.bind_eq_ok_iff.mp set
      cases isSet
      exact .of_same rfl rfl
  | setPattern pattern =>
      apply Bystands.atomic
      intro after set
      obtain ⟨read, _, isSet⟩ := Outcome.bind_eq_ok_iff.mp set
      cases isSet
      exact .of_same rfl rfl
  | addWhen condition value rules =>
      apply Bystands.atomic
      intro after added
      obtain ⟨attached, attaches, rfl⟩ := addWhen_eq_ok added
      exact .addConditional attaches.uncarried
  | addWhenMatches field source rules =>
      apply Bystands.atomic
      intro after added
      obtain ⟨attached, attaches, rfl⟩ := addWhenMatches_eq_ok added
      exact .addConditional attaches.uncarried
  | addWhenCompares field operator operand rules =>
      apply Bystands.atomic
      intro after added
      obtain ⟨attached, attaches, rfl⟩ := addWhenCompares_eq_ok added
      exact .addConditional attaches.uncarried
  | _ =>
      exact absurd trivial other

private theorem mem_rules_iff_of_added
    (added : token ∈ after.rules ↔ edit.Adds token ∨ token ∈ facets.rules)
    (removes : ¬ edit.Removes token) :
    token ∈ after.rules ↔ edit.Adds token ∨ token ∈ facets.rules ∧ ¬ edit.Removes token := by
  rw [added]
  simp only [removes, not_false_eq_true, and_true]

/-- After an edit, whether it has failed or not, a token is there exactly if the edit adds it, or it
was there before and the edit does not remove it. -/
theorem mem_rules_iff (edit : Facets.Edit) (facets : Facets) (token : String) :
    token ∈ (edit.apply facets).state.rules ↔
      edit.Adds token ∨ token ∈ facets.rules ∧ ¬ edit.Removes token := by
  cases edit with
  | addRule rule =>
      refine mem_rules_iff_of_added ?_ id
      cases rule with
      | text added =>
          simp [apply, Facets.addRule, Change.atomic, Change.done, mem_addToken_iff, Adds, eq_comm]
      | _ =>
          simp [apply, Facets.addRule, Change.atomic, Change.failed, Adds]
  | addRules rules =>
      refine mem_rules_iff_of_added ?_ id
      cases normal : Rule.normalize rules with
      | error error =>
          simp [apply, Facets.addRules, normal, Change.atomic, Change.failed, Adds]
      | ok tokens =>
          simp [apply, Facets.addRules, normal, Change.atomic, Change.done, mem_addTokens_iff, Adds]
  | setRequired required => exact mem_setRequired_iff
  | setNullable nullable => exact mem_setNullable_iff
  | addRequiredWith siblings => exact mem_rules_iff_of_added mem_addSiblingRule_iff id
  | addRequiredWithout siblings => exact mem_rules_iff_of_added mem_addSiblingRule_iff id
  | addRequiredIf field value => exact mem_rules_iff_of_added mem_addFieldValueRule_iff id
  | addProhibitedIf field value => exact mem_rules_iff_of_added mem_addFieldValueRule_iff id
  | _ =>
      refine mem_rules_iff_of_added ?_ id
      rw [(bystands facets id).rules]
      exact ⟨Or.inr, fun given => given.resolve_left id⟩

/-- A rule about siblings that an edit attaches comes with its token. -/
theorem adds_of_mem_conditionals {stored : ConditionalRule} {rule : Rule.Invocation}
    (member : stored ∈ (edit.apply facets).state.conditionals) (carried : stored.CarriedBy rule) :
    stored ∈ facets.conditionals ∨ edit.Adds rule.token := by
  cases edit with
  | addRule rule =>
      left
      cases rule with
      | text token =>
          exact member
      | _ =>
          exact member
  | addRules rules =>
      left
      cases normal : Rule.normalize rules with
      | error error =>
          simp only [apply, Facets.addRules, normal, Outcome.map_error] at member
          exact member
      | ok tokens =>
          simp only [apply, Facets.addRules, normal, Outcome.map_ok, Change.atomic, Change.done,
            conditionals_addTokens] at member
          exact member
  | setRequired required =>
      left
      cases required with
      | true =>
          exact member
      | false =>
          exact member
  | setNullable nullable =>
      left
      cases nullable with
      | true =>
          exact member
      | false =>
          exact member
  | addRequiredWith siblings =>
      rcases mem_conditionals_addSiblingRule member with old | ⟨names, named, rfl⟩
      · exact .inl old
      · obtain ⟨name, parameters⟩ := rule
        obtain ⟨rfl, rfl⟩ := carried
        exact .inr ⟨_, named, rfl⟩
  | addRequiredWithout siblings =>
      rcases mem_conditionals_addSiblingRule member with old | ⟨names, named, rfl⟩
      · exact .inl old
      · obtain ⟨name, parameters⟩ := rule
        obtain ⟨rfl, rfl⟩ := carried
        exact .inr ⟨_, named, rfl⟩
  | addRequiredIf field value =>
      rcases mem_conditionals_addFieldValueRule member with old | rfl
      · exact .inl old
      · exact carried.elim
  | addProhibitedIf field value =>
      rcases mem_conditionals_addFieldValueRule member with old | rfl
      · exact .inl old
      · exact carried.elim
  | _ =>
      rcases (bystands facets id).conditionals stored member with old | uncarried
      · exact .inl old
      · exact absurd carried (uncarried rule)

end Edit

end Facets

namespace Property

/-! ## Tokens after many edits -/

namespace Edit

/-- An edit adds a token to those of the root. -/
def Adds : Edit → String → Prop
  | .facets edit, token => edit.Adds token
  | _, _ => False

/-- An edit removes a token from those of the root. -/
def Removes : Edit → String → Prop
  | .facets edit, token => edit.Removes token
  | _, _ => False

theorem facets_apply (edit : Edit) (property : Property) :
    (∃ inner, edit = .facets inner ∧
      (edit.apply property).state.facets = (inner.apply property.facets).state) ∨
    (∀ inner, edit ≠ .facets inner) ∧ (edit.apply property).state.facets = property.facets := by
  have atomic {outcome : Except Error (Node Property)}
      (kept : ∀ node, outcome = .ok node → node.facets = property.facets) :
      (Change.atomic property (outcome.map ofNode)).state.facets = property.facets := by
    cases outcome with
    | error error =>
        rfl
    | ok node =>
        exact kept node rfl
  cases edit with
  | facets inner =>
      exact .inl ⟨inner, rfl, rfl⟩
  | addChild child =>
      exact .inr ⟨nofun, atomic fun _ added => (Node.nests_addChild added).facets_eq⟩
  | setChildren offered =>
      exact .inr ⟨nofun, atomic fun _ set => (Node.nests_setChildren set).facets_eq⟩
  | setItems offered =>
      exact .inr ⟨nofun, atomic fun _ set => (Node.nests_setItems set).facets_eq⟩
  | adoptChildren collected =>
      exact .inr ⟨nofun, atomic fun _ adopted => (Node.nests_adoptChildren adopted).facets_eq⟩

theorem mem_rules_iff (edit : Edit) (property : Property) (token : String) :
    token ∈ (edit.apply property).state.facets.rules ↔
      edit.Adds token ∨ token ∈ property.facets.rules ∧ ¬ edit.Removes token := by
  rcases edit.facets_apply property with ⟨inner, rfl, same⟩ | ⟨other, same⟩
  · rw [same]
    exact inner.mem_rules_iff property.facets token
  · rw [same]
    cases edit with
    | facets inner =>
        exact absurd rfl (other inner)
    | _ =>
        simp only [Adds, Removes, false_or, not_false_eq_true, and_true]

theorem adds_of_mem_conditionals {edit : Edit} {property : Property} {stored : ConditionalRule}
    {rule : Rule.Invocation} (member : stored ∈ (edit.apply property).state.facets.conditionals)
    (carried : stored.CarriedBy rule) :
    stored ∈ property.facets.conditionals ∨ edit.Adds rule.token := by
  rcases edit.facets_apply property with ⟨inner, rfl, same⟩ | ⟨_, same⟩
  · rw [same] at member
    exact inner.adds_of_mem_conditionals member carried
  · rw [same] at member
    exact .inl member

end Edit

/-- What edits make of a property one after the other, those that fail included. -/
def edited (property : Property) (edits : List Edit) : Property :=
  edits.foldl (fun current edit => (edit.apply current).state) property

/-- A token that some edit adds and that no edit after it removes. -/
inductive Lasts (token : String) : List Edit → Prop
  | added {edit : Edit} {later : List Edit} :
      edit.Adds token → (∀ next ∈ later, ¬ next.Removes token) → Lasts token (edit :: later)
  | later {edit : Edit} {later : List Edit} : Lasts token later → Lasts token (edit :: later)

variable {token : String}

private theorem lasts_cons_iff {edit : Edit} {later : List Edit} :
    Lasts token (edit :: later) ↔
      edit.Adds token ∧ (∀ next ∈ later, ¬ next.Removes token) ∨ Lasts token later := by
  constructor
  · intro lasts
    cases lasts with
    | added adds kept =>
        exact .inl ⟨adds, kept⟩
    | later lasts =>
        exact .inr lasts
  · rintro (⟨adds, kept⟩ | lasts)
    · exact .added adds kept
    · exact .later lasts

/-- After any edits, the tokens are those that were added and last, and those of the start that
nothing removed. -/
theorem mem_rules_edited_iff (edits : List Edit) (property : Property) :
    token ∈ (property.edited edits).facets.rules ↔
      Lasts token edits ∨
        token ∈ property.facets.rules ∧ ∀ edit ∈ edits, ¬ edit.Removes token := by
  induction edits generalizing property with
  | nil =>
      simp only [edited, List.foldl_nil, List.not_mem_nil, false_implies, implies_true, and_true]
      exact ⟨Or.inr, fun given => given.resolve_left nofun⟩
  | cons edit later inductionHypothesis =>
      have rest := inductionHypothesis (edit.apply property).state
      rw [Edit.mem_rules_iff] at rest
      rw [lasts_cons_iff, List.forall_mem_cons]
      rw [edited, List.foldl_cons, ← edited, rest]
      constructor
      · rintro (lasts | ⟨adds | ⟨present, kept⟩, keptLater⟩)
        · exact .inl (.inr lasts)
        · exact .inl (.inl ⟨adds, keptLater⟩)
        · exact .inr ⟨present, kept, keptLater⟩
      · rintro ((⟨adds, keptLater⟩ | lasts) | ⟨present, kept, keptLater⟩)
        · exact .inr ⟨.inl adds, keptLater⟩
        · exact .inl lasts
        · exact .inr ⟨.inr ⟨present, kept⟩, keptLater⟩

end Property
end RecordSchema
