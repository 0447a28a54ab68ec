import RecordSchema.Proofs.Property.History

/-!
# Rules that are written as tokens

A rule about other fields is attached to a property and written as a token as well, and a check only
reads the token.  What it reads is what was written, unless the name of a field has a comma in it or
the only name is empty: values are guarded against commas, and names of fields are not.
-/

namespace RecordSchema

namespace Facets

variable {facets after : Facets}

/-- Adding a rule about a field and its value succeeds only if the text of the value has no comma in
it. -/
theorem addFieldValueRule_eq_ok {tokenName ruleName name : String} {value : Value}
    (added : facets.addFieldValueRule tokenName ruleName (.text name) value = .ok after) :
    ∃ rendered, value.writtenText = .ok rendered ∧ ',' ∉ rendered.toList ∧
      after = (facets.addConditional (.equality (.text name) value [ruleName])).addToken
        (Rule.Invocation.token ⟨tokenName, [name, rendered]⟩) := by
  obtain ⟨token, built, isAdded⟩ := Outcome.bind_eq_ok_iff.mp added
  obtain ⟨rendered, written, guarded⟩ := Outcome.bind_eq_ok_iff.mp built
  simp only [Value.isWritable, Bool.not_true, Bool.false_eq_true, if_false] at guarded
  split at guarded
  · cases guarded
  · next noComma =>
      have token_eq : Rule.Invocation.token ⟨tokenName, [name, rendered]⟩ = token := by
        rw [← Except.ok.inj guarded]
        apply String.toList_inj.mp
        simp [Rule.Invocation.token, Text.join, Text.joinChars, Value.toText]
      cases isAdded
      refine ⟨rendered, written, ?_, ?_⟩
      · simpa using noComma
      · rw [token_eq]

/-! ## Reading what was written -/

namespace Edit

/-- The fields that a rule is about, when all of them are named by texts. -/
def IsAbout : Facets.Edit → List String → Prop
  | .addRequiredWith siblings, names => siblingNames siblings = .ok (names.map .text)
  | .addRequiredWithout siblings, names => siblingNames siblings = .ok (names.map .text)
  | .addRequiredIf field _, names => ∃ name, field = .text name ∧ names = [name]
  | .addProhibitedIf field _, names => ∃ name, field = .text name ∧ names = [name]
  | _, _ => False

/-- The rule that an edit attaches, and the one that it writes as a token. -/
inductive Writes : Facets.Edit → ConditionalRule → Rule.Invocation → Prop
  | requiredWith {siblings : Value} {names : List String} :
      siblingNames siblings = .ok (names.map .text) →
      Writes (.addRequiredWith siblings) (.requiredWith (names.map .text))
        ⟨"required_with", names⟩
  | requiredWithout {siblings : Value} {names : List String} :
      siblingNames siblings = .ok (names.map .text) →
      Writes (.addRequiredWithout siblings) (.requiredWithout (names.map .text))
        ⟨"required_without", names⟩
  | requiredIf {name rendered : String} {value : Value} :
      value.writtenText = .ok rendered →
      Writes (.addRequiredIf (.text name) value) (.equality (.text name) value ["required"])
        ⟨"required_if", [name, rendered]⟩
  | prohibitedIf {name rendered : String} {value : Value} :
      value.writtenText = .ok rendered →
      Writes (.addProhibitedIf (.text name) value) (.equality (.text name) value ["prohibited"])
        ⟨"prohibited_if", [name, rendered]⟩

variable {edit : Facets.Edit} {names : List String}

theorem Writes.parse_token_iff {stored : ConditionalRule} {rule : Rule.Invocation}
    (writes : edit.Writes stored rule) :
    (Rule.parse rule.token).name = rule.name ∧
      (Rule.parse rule.token = rule ↔ Rule.Separable rule.parameters) := by
  cases writes with
  | requiredWith named =>
      exact Rule.parse_token_iff (by decide) (by decide) (by decide) _
  | requiredWithout named =>
      exact Rule.parse_token_iff (by decide) (by decide) (by decide) _
  | requiredIf written =>
      exact Rule.parse_token_iff (by decide) (by decide) (by decide) _
  | prohibitedIf written =>
      exact Rule.parse_token_iff (by decide) (by decide) (by decide) _

theorem separable_pair_iff {name rendered : String} (noComma : ',' ∉ rendered.toList) :
    Rule.Separable [name, rendered] ↔ ∀ field ∈ [name], ',' ∉ field.toList := by
  constructor
  · intro separable field member
    cases List.mem_singleton.mp member
    exact separable.noComma name List.mem_cons_self
  · intro names
    exact {
      noComma := by
        simpa [noComma] using names
      notBlank := nofun }

private theorem separable_iff {parameters : List String} :
    Rule.Separable parameters ↔ (∀ field ∈ parameters, ',' ∉ field.toList) ∧ parameters ≠ [""] :=
  ⟨fun separable => ⟨separable.noComma, separable.notBlank⟩,
    fun ⟨noComma, notBlank⟩ => ⟨noComma, notBlank⟩⟩

/-- An edit that adds a rule about fields named by texts attaches the rule and adds its token.  The
token is read under the name of the rule, and with the parameters of the rule exactly if no field
has a comma in its name and the parameters are not just one empty name. -/
theorem token_decodes_iff (about : edit.IsAbout names) (done : edit.apply facets = .done after) :
    ∃ stored rule, edit.Writes stored rule ∧
      after = (facets.addConditional stored).addToken rule.token ∧
      (Rule.parse rule.token).name = rule.name ∧
      (Rule.parse rule.token = rule ↔
        (∀ name ∈ names, ',' ∉ name.toList) ∧ rule.parameters ≠ [""]) := by
  cases edit with
  | addRequiredWith siblings =>
      have writes := Writes.requiredWith about
      obtain ⟨sameName, decodes⟩ := writes.parse_token_iff
      have ended : after = _ := congrArg Change.state (done.symm.trans (addSiblingRule_texts about))
      exact ⟨_, _, writes, ended, sameName, decodes.trans separable_iff⟩
  | addRequiredWithout siblings =>
      have writes := Writes.requiredWithout about
      obtain ⟨sameName, decodes⟩ := writes.parse_token_iff
      have ended : after = _ := congrArg Change.state (done.symm.trans (addSiblingRule_texts about))
      exact ⟨_, _, writes, ended, sameName, decodes.trans separable_iff⟩
  | addRequiredIf field value =>
      obtain ⟨name, rfl, rfl⟩ := about
      obtain ⟨rendered, written, noComma, ended⟩ :=
        addFieldValueRule_eq_ok (Change.atomic_eq_done_iff.mp done)
      have writes := @Writes.requiredIf name rendered value written
      obtain ⟨sameName, decodes⟩ := writes.parse_token_iff
      refine ⟨_, _, writes, ended, sameName, ?_⟩
      rw [decodes, separable_pair_iff noComma]
      exact (and_iff_left nofun).symm
  | addProhibitedIf field value =>
      obtain ⟨name, rfl, rfl⟩ := about
      obtain ⟨rendered, written, noComma, ended⟩ :=
        addFieldValueRule_eq_ok (Change.atomic_eq_done_iff.mp done)
      have writes := @Writes.prohibitedIf name rendered value written
      obtain ⟨sameName, decodes⟩ := writes.parse_token_iff
      refine ⟨_, _, writes, ended, sameName, ?_⟩
      rw [decodes, separable_pair_iff noComma]
      exact (and_iff_left nofun).symm
  | _ =>
      exact about.elim

/-- The siblings of a list of texts. -/
theorem token_decodes_mail_phone :
    IsAbout (.addRequiredWith (.list [.text "mail", .text "phone"])) ["mail", "phone"] ∧
      ∃ after, apply (Property.plain "string" "name").facets
          (.addRequiredWith (.list [.text "mail", .text "phone"])) = .done after ∧
        ∃ stored rule,
          Writes (.addRequiredWith (.list [.text "mail", .text "phone"])) stored rule ∧
          rule.token ∈ after.rules ∧ Rule.parse rule.token = rule := by
  have about : IsAbout (.addRequiredWith (.list [.text "mail", .text "phone"]))
      ["mail", "phone"] := rfl
  have done := @addSiblingRule_texts .requiredWith "required_with"
    (Property.plain "string" "name").facets _ _ about
  obtain ⟨stored, rule, writes, ended, _, decodes⟩ := token_decodes_iff about done
  refine ⟨about, _, done, stored, rule, writes, ?_, decodes.mpr ⟨by decide, ?_⟩⟩
  · rw [ended]
    exact mem_addToken_iff.mpr (.inl rfl)
  · cases writes with
    | requiredWith named =>
        rw [← map_text_inj.mp (Except.ok.inj (Eq.trans about.symm named))]
        decide

/-- A name with a comma in it is read as two names, neither of which is the one that the rule is
about. -/
theorem token_splits_comma :
    ∃ after stored rule,
      apply (Property.plain "string" "name").facets (.addRequiredWith (.text "mail,phone")) =
          .done after ∧
        Writes (.addRequiredWith (.text "mail,phone")) stored rule ∧ rule.token ∈ after.rules ∧
        rule.parameters = ["mail,phone"] ∧
        Rule.parse rule.token = ⟨"required_with", ["mail", "phone"]⟩ := by
  have named : siblingNames (.text "mail,phone") = .ok (["mail,phone"].map .text) := rfl
  refine ⟨_, _, _, addSiblingRule_texts named, .requiredWith named, ?_, rfl, by decide⟩
  exact mem_addToken_iff.mpr (.inl rfl)

end Edit
end Facets
end RecordSchema
