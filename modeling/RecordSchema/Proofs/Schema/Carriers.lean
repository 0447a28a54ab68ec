import RecordSchema.Proofs.Property.History
import RecordSchema.Proofs.Schema.Required
import RecordSchema.Property.Acceptance

/-!
# Tokens that carry rules about siblings

A schema compiles a rule about siblings to nothing and relies on the token that says the same.  The
token is attached with the rule, and only making the property optional takes it away again, along
with every other token that begins with `required`; the rule itself stays.  So a schema enforces the
rule as long as its token was added after the property was last made optional.
-/

namespace RecordSchema

namespace ConditionalRule

variable {stored : ConditionalRule} {rule : Rule.Invocation}

/-- A rule about siblings that a token carries compiles to nothing. -/
theorem CarriedBy.compiles (carried : stored.CarriedBy rule) :
    RuleSet.ofDocument stored.toDocument = .ok none := by
  cases stored with
  | requiredWith fields =>
      rfl
  | requiredWithout fields =>
      rfl
  | _ =>
      exact carried.elim

private theorem CarriedBy.startsWith_required (carried : stored.CarriedBy rule) :
    Text.startsWith "required" rule.token = true := by
  obtain ⟨name, parameters⟩ := rule
  apply List.isPrefixOf_iff_prefix.mpr
  cases stored with
  | requiredWith fields =>
      obtain ⟨rfl, _⟩ := carried
      exact ⟨"_with:".toList ++ (Text.join "," parameters).toList, by simp [Rule.Invocation.token]⟩
  | requiredWithout fields =>
      obtain ⟨rfl, _⟩ := carried
      exact ⟨"_without:".toList ++ (Text.join "," parameters).toList,
        by simp [Rule.Invocation.token]⟩
  | _ =>
      exact carried.elim

/-- Only making a property optional removes the token of a rule about siblings. -/
theorem CarriedBy.removes_iff (carried : stored.CarriedBy rule) (edit : Property.Edit) :
    edit.Removes rule.token ↔ edit = .facets (.setRequired false) := by
  have begins := carried.startsWith_required
  constructor
  · intro removes
    cases edit with
    | facets inner =>
        cases inner with
        | setRequired required =>
            obtain ⟨rfl, _⟩ := removes
            rfl
        | setNullable nullable =>
            obtain ⟨_, isNullable⟩ := removes
            rw [isNullable] at begins
            exact absurd begins (by decide)
        | _ =>
            exact removes.elim
    | _ =>
        exact removes.elim
  · rintro rfl
    exact ⟨rfl, begins⟩

end ConditionalRule

/-! ## Rules with their tokens -/

/-- Every rule about siblings is there together with its token. -/
def Facets.Carries (facets : Facets) : Prop :=
  ∀ stored ∈ facets.conditionals, ∀ rule, stored.CarriedBy rule → rule.token ∈ facets.rules

namespace Property

/-- A property that is declared, or that a preset makes. -/
inductive Made : Property → Prop
  | declared {name type description : Value} {property : Property} :
      declare name type description = .ok property → Made property
  | preset {kind : String} {name description format : Value} {property : Property}
      {make : Value → Value → Value → Except Error Property} :
      preset? kind = some make → make name description format = .ok property → Made property

private theorem Made.conditionals_eq {property : Property} (made : Made property) :
    property.facets.conditionals = [] := by
  cases made with
  | declared isMade =>
      obtain ⟨declared, _, isLeaf⟩ := Outcome.bind_eq_ok_iff.mp isMade
      cases isLeaf
      rfl
  | preset isPreset isMade =>
      unfold preset? at isPreset
      split at isPreset
      · cases isPreset
        obtain ⟨label, _, isWhole⟩ := Outcome.bind_eq_ok_iff.mp isMade
        cases isWhole
        rfl
      · cases isPreset
        obtain ⟨label, _, isWhole⟩ := Outcome.bind_eq_ok_iff.mp isMade
        cases isWhole
        rfl
      · cases isPreset
        obtain ⟨label, _, isWhole⟩ := Outcome.bind_eq_ok_iff.mp isMade
        cases isWhole
        rfl
      · cases isPreset
        obtain ⟨label, _, isWhole⟩ := Outcome.bind_eq_ok_iff.mp isMade
        cases isWhole
        rfl
      · split at isPreset
        · cases isPreset
          cases isMade
          rfl
        · cases isPreset

private theorem Made.carries {property : Property} (made : Made property) :
    property.facets.Carries := by
  intro stored member
  rw [made.conditionals_eq] at member
  cases member

variable {property : Property}

/-- An edit keeps rules and tokens together, failing or not, unless it makes the property
optional. -/
theorem carries_apply {edit : Edit} (carries : property.facets.Carries)
    (keeps : edit ≠ .facets (.setRequired false)) :
    (edit.apply property).state.facets.Carries := by
  intro stored member rule carried
  rw [Edit.mem_rules_iff]
  rcases Edit.adds_of_mem_conditionals member carried with old | adds
  · exact .inr ⟨carries stored old rule carried, mt (carried.removes_iff edit).mp keeps⟩
  · exact .inl adds

private theorem carries_edited {edits : List Edit} (carries : property.facets.Carries)
    (keeps : .facets (.setRequired false) ∉ edits) :
    (property.edited edits).facets.Carries := by
  induction edits generalizing property with
  | nil =>
      exact carries
  | cons edit later inductionHypothesis =>
      obtain ⟨keepsHere, keepsLater⟩ := List.ne_and_not_mem_of_not_mem_cons keeps
      exact inductionHypothesis (carries_apply carries (Ne.symm keepsHere)) keepsLater

end Property

/-! ## What a schema relies on -/

namespace Schema

/-- Registering a property puts its tokens under its name, whatever becomes of the rest. -/
theorem add_token_iff (schema : Schema) {property : Property} {name : Name}
    (named : Name.ofValue property.facets.name = .ok name) :
    ∃ entries, (schema.add property).state.rules.get? name = some entries ∧
      ∀ token, .token token ∈ entries ↔ token ∈ property.facets.rules := by
  refine ⟨property.ruleEntries, ?_, fun token => token_mem_ruleEntries_iff⟩
  have put : (schema.add property).state.rules =
      schema.rules.put name property.ruleEntries := by
    simp only [add, addProperty, named, Rule.normalize_tokenList, Change.lift,
      Property.ruleEntries]
  rw [put, Fields.get?_put_self]

end Schema

namespace Property

/-- On whatever property edits have made, a rule about siblings has its token exactly if the token
was added, or was there from the start, and the property was not made optional after that.  So it
has it if nothing made the property optional since the property was declared.  A schema compiles the
rule to nothing, and has the token for the field exactly if the property has it. -/
theorem carried_iff {start : Property} {edits : List Edit} {stored : ConditionalRule}
    {rule : Rule.Invocation} (member : stored ∈ (start.edited edits).facets.conditionals)
    (carried : stored.CarriedBy rule) :
    (∀ edit : Edit, edit.Removes rule.token ↔ edit = .facets (.setRequired false)) ∧
    (rule.token ∈ (start.edited edits).facets.rules ↔
      Lasts rule.token edits ∨
        rule.token ∈ start.facets.rules ∧ .facets (.setRequired false) ∉ edits) ∧
    (Made start → .facets (.setRequired false) ∉ edits →
      rule.token ∈ (start.edited edits).facets.rules) ∧
    RuleSet.ofDocument stored.toDocument = .ok none ∧
    ∀ (schema : Schema) (name : Name),
      Name.ofValue (start.edited edits).facets.name = .ok name →
        ∃ entries, (schema.add (start.edited edits)).state.rules.get? name = some entries ∧
          (.token rule.token ∈ entries ↔ rule.token ∈ (start.edited edits).facets.rules) := by
  refine ⟨carried.removes_iff, ?_, ?_, carried.compiles, ?_⟩
  · rw [mem_rules_edited_iff]
    simp only [carried.removes_iff]
    refine or_congr Iff.rfl (and_congr Iff.rfl ?_)
    constructor
    · intro kept member
      exact kept _ member rfl
    · rintro absent edit member rfl
      exact absent member
  · intro made keeps
    exact carries_edited made.carries keeps stored member rule carried
  · intro schema name named
    obtain ⟨entries, found, tokens⟩ := schema.add_token_iff named
    exact ⟨entries, found, tokens rule.token⟩

/-- Requiring a property with a mail address, and making it optional after that. -/
def requiredThenOptional : List Edit :=
  [.facets (.addRequiredWith (.text "mail")), .facets (.setRequired false)]

/-- The same, and adding the token again. -/
def requiredAgain : List Edit :=
  requiredThenOptional ++ [.facets (.addRules (.text "required_with:mail"))]

/-- A name has the token for its rule again when it was added after the name was made optional. -/
theorem carried_iff_requiredAgain :
    ConditionalRule.requiredWith [.text "mail"] ∈
        ((plain "string" "name").edited requiredAgain).facets.conditionals ∧
      ConditionalRule.CarriedBy (.requiredWith [.text "mail"]) ⟨"required_with", ["mail"]⟩ ∧
      "required_with:mail" ∈ ((plain "string" "name").edited requiredAgain).facets.rules := by
  have member : ConditionalRule.requiredWith [.text "mail"] ∈
      ((plain "string" "name").edited requiredAgain).facets.conditionals :=
    List.mem_cons_self
  have carried :
      ConditionalRule.CarriedBy (.requiredWith [.text "mail"]) ⟨"required_with", ["mail"]⟩ :=
    ⟨rfl, rfl⟩
  have adds : Edit.Adds (.facets (.addRules (.text "required_with:mail"))) "required_with:mail" :=
    ⟨["required_with:mail"], rfl, List.mem_cons_self⟩
  have lasts : Lasts "required_with:mail" requiredAgain :=
    .later (.later (.added adds (List.forall_mem_nil _)))
  obtain ⟨_, present, _⟩ := carried_iff member carried
  exact ⟨member, carried, present.mpr (.inl lasts)⟩

/-- A name that was made optional still has its rule, by which it does not accept a record with a
mail address alone.  It has no token for the rule any more, so its schema does. -/
theorem uncarried_requiredThenOptional :
    Made (plain "string" "name") ∧
      ConditionalRule.requiredWith [.text "mail"] ∈
        ((plain "string" "name").edited requiredThenOptional).facets.conditionals ∧
      ((plain "string" "name").edited requiredThenOptional).facets.rules = [] ∧
      ((plain "string" "name").edited requiredThenOptional).facets.accepts .null
          (.map [("mail", .text "m")]) = .ok false ∧
      ∃ report,
        (Schema.add {} ((plain "string" "name").edited requiredThenOptional)).state.evaluate {}
            (.map [("mail", .text "m")]) = .ok report ∧
          report.valid = true := by
  have made : Made (plain "string" "name") :=
    @Made.preset "string" _ _ .null _ _ rfl rfl
  exact ⟨made, List.mem_cons_self, rfl, rfl, _, rfl, rfl⟩

end Property
end RecordSchema
