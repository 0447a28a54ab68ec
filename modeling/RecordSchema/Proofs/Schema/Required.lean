import RecordSchema.Proofs.Check.Presence
import RecordSchema.Proofs.Schema.RoundTrip

/-!
# Required fields

The document of a schema lists fields as required.  Each of them is enforced: a record without a
value there is invalid, whatever other rules the field has and whatever is added to it later.

The converse goes by another spelling.  A property is listed if it has the token `required`, letter
for letter, but checks read a token without the white space around its name and without a colon
that nothing follows.  So a missing field is complained about exactly if some token of it reads as
`required`, listed or not.
-/

namespace RecordSchema

private theorem Change.andThen_preserves {State : Type} {invariant : State → Prop}
    {change : Change State}
    {next : State → Change State} (first : invariant change.state)
    (second : ∀ state, invariant state → invariant (next state).state) :
    invariant (change.andThen next).state := by
  unfold Change.andThen
  split
  · exact second change.state first
  · exact first

namespace Schema

/-! ## Building schemas -/

/-- A property that can be made, and whose attributes hide nothing in its written form. -/
structure Enlistable (property : Property) : Prop where
  reachable : Property.Reachable Property.Fresh property
  ownKeys : property.facets.OwnKeys

/-- A schema that is put together from properties and from further tokens for fields. -/
inductive Assembled : Schema → Prop
  | empty : Assembled {}
  | add {schema : Schema} {property : Property} :
      Assembled schema → Enlistable property → Assembled (schema.add property).state
  | addAll {schema : Schema} {properties : List Property} :
      Assembled schema → (∀ property ∈ properties, Enlistable property) →
      Assembled (schema.addAll properties).state
  | addRule {schema : Schema} (field rules : Value) :
      Assembled schema → Assembled (schema.addRule field rules).state
  | addRules {schema : Schema} (rules : Fields Value Name) :
      Assembled schema → Assembled (schema.addRules rules).state
  | reword {schema : Schema} (messages labels : Fields Value Name) :
      Assembled schema → Assembled { schema with messages, labels }

/-- A schema that is put together from properties alone. -/
inductive Registered : Schema → Prop
  | empty : Registered {}
  | add {schema : Schema} {property : Property} :
      Registered schema → Enlistable property → Registered (schema.add property).state
  | reword {schema : Schema} (messages labels : Fields Value Name) :
      Registered schema → Registered { schema with messages, labels }

variable {schema : Schema} {property : Property}

theorem Enlistable.facets (enlistable : Enlistable property) :
    property.facets.Sound property.facets.declared.primary := by
  have sound := (enlistable.reachable.sound fun _ fresh => fresh.sound).here.facets
  rw [← sound.samePrimary] at sound
  exact sound

theorem Enlistable.flag (enlistable : Enlistable property) :
    property.toDocument.field "required" = .ok (.bool property.facets.isRequired) :=
  requiredFlag_toDocument enlistable.facets.distinctAttributes enlistable.ownKeys

/-- Registering a property changes nothing, if its name cannot be a key, or puts the property under
its name. -/
theorem Enlistable.add_cases (schema : Schema) (enlistable : Enlistable property) :
    (schema.add property).state = schema ∨
      ∃ name, (schema.add property).state = { schema with
        properties := schema.properties.put name property.toDocument
        rules := schema.rules.put name property.ruleEntries } := by
  cases named : Name.ofValue property.facets.name with
  | error error =>
      left
      simp [add, addProperty, named, Change.failed]
  | ok name =>
      right
      refine ⟨name, ?_⟩
      rw [add_eq_done schema named enlistable.facets.distinctAttributes enlistable.ownKeys]
      rfl

/-! ## Listed fields -/

/-- The fields that are listed are those whose documents say so. -/
theorem requiredNames_eq_ok {properties : Fields Value Name}
    (flagged : ∀ name document, (name, document) ∈ properties →
      ∃ flag, document.field "required" = .ok (.bool flag)) :
    ∃ names, requiredNames properties = .ok names ∧ ∀ name, name ∈ names ↔
      ∃ document, (name, document) ∈ properties ∧
        document.field "required" = .ok (.bool true) := by
  induction properties with
  | nil =>
      exact ⟨[], rfl, by simp⟩
  | cons entry rest inductionHypothesis =>
      obtain ⟨key, held⟩ := entry
      obtain ⟨flag, isFlag⟩ := flagged key held List.mem_cons_self
      obtain ⟨names, areNames, listed⟩ := inductionHypothesis fun name document member =>
        flagged name document (List.mem_cons_of_mem _ member)
      refine ⟨if flag then key :: names else names, ?_, fun name => ?_⟩
      · simp [requiredNames, isFlag, areNames]
      · simp only [List.mem_cons, Prod.mk.injEq, or_and_right, exists_or, and_assoc,
          exists_and_left, exists_eq_left, isFlag, ← listed]
        cases flag with
        | true =>
            simp
        | false =>
            simp

private theorem toDocument_of_required {names : List Name}
    (required : schema.required = .ok names) :
    ∃ document, schema.toDocument = .ok document ∧
      document.field "required" = .ok (.list (names.map (·.value))) := by
  refine ⟨_, by rw [toDocument, required]; rfl, ?_⟩
  simp [Fields.get?_cons]

/-! ## Listed fields are enforced -/

/-- The rule table has the token `required` for a field. -/
def Requires (schema : Schema) (name : Name) : Prop :=
  ∃ entries, schema.rules.get? name = some entries ∧ .token "required" ∈ entries

/-- Every property says whether it is required, and if so, the rule table says it as well. -/
structure Guarded (schema : Schema) : Prop where
  distinct : schema.properties.Distinct
  flagged : ∀ name document, schema.properties.get? name = some document →
    ∃ flag, document.field "required" = .ok (.bool flag) ∧ (flag = true → schema.Requires name)

theorem Guarded.add (guarded : schema.Guarded) (enlistable : Enlistable property) :
    (schema.add property).state.Guarded := by
  rcases enlistable.add_cases schema with same | ⟨key, put⟩
  · rw [same]
    exact guarded
  rw [put]
  refine ⟨guarded.distinct.put key property.toDocument, ?_⟩
  intro name document found
  cases same : name == key with
  | true =>
      rw [Fields.get?_of_equivalent _ same, Fields.get?_put_self] at found
      cases found
      refine ⟨_, enlistable.flag, fun isRequired => ⟨property.ruleEntries, ?_, ?_⟩⟩
      · rw [Fields.get?_of_equivalent _ same, Fields.get?_put_self]
      · have hasToken := enlistable.facets.requiredToken.mp isRequired
        exact List.mem_append_left _ (List.mem_map_of_mem hasToken)
  | false =>
      rw [Fields.get?_put_of_ne _ _ same] at found
      obtain ⟨flag, isFlag, requires⟩ := guarded.flagged name document found
      refine ⟨flag, isFlag, fun isRequired => ?_⟩
      obtain ⟨entries, areEntries, hasToken⟩ := requires isRequired
      exact ⟨entries, by rw [Fields.get?_put_of_ne _ _ same, areEntries], hasToken⟩

private theorem mem_foldl_appendToken {entry : RuleEntry} {entries : List RuleEntry}
    (member : entry ∈ entries) (tokens : List String) :
    entry ∈ tokens.foldl appendToken entries := by
  induction tokens generalizing entries with
  | nil =>
      exact member
  | cons token rest inductionHypothesis =>
      apply inductionHypothesis
      unfold appendToken
      split
      · exact member
      · exact List.mem_append_left _ member

/-- What a field has in the rule table it keeps, whatever else is put there for it. -/
theorem Guarded.putRules (guarded : schema.Guarded) (key : Name) {entries : List RuleEntry}
    (kept : ∀ entry ∈ (schema.rules.get? key).getD [], entry ∈ entries) :
    ({ schema with rules := schema.rules.put key entries } : Schema).Guarded := by
  refine ⟨guarded.distinct, fun name document found => ?_⟩
  obtain ⟨flag, isFlag, requires⟩ := guarded.flagged name document found
  refine ⟨flag, isFlag, fun isRequired => ?_⟩
  obtain ⟨earlier, areEarlier, hasToken⟩ := requires isRequired
  cases same : name == key with
  | true =>
      refine ⟨entries, ?_, kept _ ?_⟩
      · rw [Fields.get?_of_equivalent _ same, Fields.get?_put_self]
      · rw [← Fields.get?_of_equivalent _ same, areEarlier]
        exact hasToken
  | false =>
      exact ⟨earlier, by rw [Fields.get?_put_of_ne _ _ same, areEarlier], hasToken⟩

theorem Guarded.addRule (guarded : schema.Guarded) (field rules : Value) :
    (schema.addRule field rules).state.Guarded := by
  unfold Schema.addRule
  split
  · exact guarded
  · next key named =>
      split
      · exact guarded.putRules key fun _ member => member
      · next tokens _ =>
          exact guarded.putRules key fun _ member => mem_foldl_appendToken member tokens

theorem Guarded.addAll (guarded : schema.Guarded) {properties : List Property}
    (enlistable : ∀ property ∈ properties, Enlistable property) :
    (schema.addAll properties).state.Guarded := by
  induction properties generalizing schema with
  | nil =>
      exact guarded
  | cons property rest inductionHypothesis =>
      apply Change.andThen_preserves (guarded.add (enlistable property List.mem_cons_self))
      intro state guardedState
      exact inductionHypothesis guardedState fun other member =>
        enlistable other (List.mem_cons_of_mem _ member)

theorem Guarded.addRules (guarded : schema.Guarded) (rules : Fields Value Name) :
    (schema.addRules rules).state.Guarded := by
  induction rules generalizing schema with
  | nil =>
      exact guarded
  | cons entry rest inductionHypothesis =>
      apply Change.andThen_preserves (guarded.addRule entry.1.value entry.2)
      intro state guardedState
      exact inductionHypothesis guardedState

/-- However it is put together, a schema has the token for every property that is required. -/
theorem Assembled.guarded (assembled : Assembled schema) : schema.Guarded := by
  induction assembled with
  | empty =>
      exact ⟨Fields.distinct_nil, fun _ _ found => nomatch found⟩
  | add _ enlistable inductionHypothesis =>
      exact inductionHypothesis.add enlistable
  | addAll _ enlistable inductionHypothesis =>
      exact inductionHypothesis.addAll enlistable
  | addRule field rules _ inductionHypothesis =>
      exact inductionHypothesis.addRule field rules
  | addRules rules _ inductionHypothesis =>
      exact inductionHypothesis.addRules rules
  | reword messages labels _ inductionHypothesis =>
      exact ⟨inductionHypothesis.distinct, inductionHypothesis.flagged⟩

theorem Guarded.required (guarded : schema.Guarded) :
    ∃ names, schema.required = .ok names ∧ ∀ name ∈ names, schema.Requires name := by
  obtain ⟨names, areNames, listed⟩ := requiredNames_eq_ok fun name document member => by
    obtain ⟨flag, isFlag, _⟩ :=
      guarded.flagged name document (Fields.get?_of_mem guarded.distinct member)
    exact ⟨flag, isFlag⟩
  refine ⟨names, areNames, fun name member => ?_⟩
  obtain ⟨document, isProperty, stated⟩ := (listed name).mp member
  obtain ⟨flag, isFlag, requires⟩ :=
    guarded.flagged name document (Fields.get?_of_mem guarded.distinct isProperty)
  cases stated.symm.trans isFlag
  exact requires rfl

/-- What comes of checking a record that lacks a field for which the table has the token. -/
theorem Requires.complains {name : Name} (requires : schema.Requires name)
    {record : Fields Value} (lacks : record.Lacks name) {strict stopsEarly : Bool}
    {closures : Rule.Closures} {report : Report}
    (evaluated : schema.evaluate { strict, stopsEarly, closures } (.map record) = .ok report) :
    report.messagesOf name ≠ [] := by
  obtain ⟨entries, found, hasToken⟩ := requires
  obtain ⟨key, same, isRow⟩ := Fields.mem_of_get?_eq_some found
  obtain ⟨findings, isFound⟩ := (Engine.evaluate_eq_ok_iff.mp evaluated).1 _ isRow
  obtain ⟨tokens, resolved, _⟩ := Outcome.bind_eq_ok_iff.mp isFound
  have listed : "required" ∈ tokens := RuleEntry.mem_resolve resolved hasToken
  have fails : Engine.FailsOn { strict, stopsEarly, closures } record key tokens :=
    Engine.failsOn_of_required ⟨"required", listed, rfl⟩ (lacks.of_equivalent same)
  exact (Engine.messagesOf_ne_nil_iff rfl evaluated name).mpr
    ⟨_, isRow, same, tokens, resolved, fails⟩

/-- Every field that the document of a schema lists as required is enforced: there are messages
about it wherever a record has no value for it, in an invalid report. -/
theorem Assembled.required_enforced (assembled : Assembled schema) :
    ∃ (document : Value) (names : List Name), schema.toDocument = .ok document ∧
      document.field "required" = .ok (.list (names.map (·.value))) ∧
      ∀ name ∈ names, ∀ record : Fields Value, record.Lacks name →
        ∀ strict stopsEarly closures report,
          schema.evaluate { strict, stopsEarly, closures } (.map record) = .ok report →
            report.valid = false ∧ report.messagesOf name ≠ [] := by
  obtain ⟨names, required, requires⟩ := assembled.guarded.required
  obtain ⟨document, written, listed⟩ := toDocument_of_required required
  refine ⟨document, names, written, listed, ?_⟩
  intro name member record lacks strict stopsEarly closures report evaluated
  have messages := (requires name member).complains lacks evaluated
  exact ⟨(Engine.valid_eq_false_iff evaluated).mpr ⟨name, messages⟩, messages⟩

/-- A nickname that has to be given, though it may be given as no value. -/
def nickname : Property :=
  .mk {
    name := .text "nickname"
    declared := .union ["null", "string"]
    rules := ["required", "nullable"]
    isRequired := true } [] none

private theorem enlistable_nickname : Enlistable nickname where
  reachable := by
    have bare : Property.Reachable Property.Fresh (Property.plain "string" "nickname") :=
      .origin (@Property.Fresh.preset "string" _ _ .null _ _ rfl rfl)
    have required := bare.edit (.facets (.setRequired true)) (List.forall_mem_nil _)
    have nullable := required.edit (.facets (.setNullable true)) (List.forall_mem_nil _)
    exact nullable
  ownKeys := List.forall_mem_nil _

/-- Neither that no value is allowed nor that the first message ends the check helps a nickname of
white space. -/
theorem required_enforced_nickname :
    Assembled ((add {} nickname).state.addRule (.text "nickname") (.text "bail")).state ∧
      ∀ strict stopsEarly closures report,
        ((add {} nickname).state.addRule (.text "nickname") (.text "bail")).state.evaluate
            { strict, stopsEarly, closures } (.map [("nickname", .text " ")]) = .ok report →
          report.valid = false ∧ report.messagesOf (.text "nickname") ≠ [] := by
  have assembled : Assembled
      ((add {} nickname).state.addRule (.text "nickname") (.text "bail")).state :=
    .addRule _ _ (.add .empty enlistable_nickname)
  refine ⟨assembled, ?_⟩
  obtain ⟨document, names, written, listed, enforced⟩ := assembled.required_enforced
  have required :
      ((add {} nickname).state.addRule (.text "nickname") (.text "bail")).state.required =
        .ok [.text "nickname"] := by
    have flag : nickname.toDocument.field "required" = .ok (.bool true) :=
      enlistable_nickname.flag
    change requiredNames [(.text "nickname", nickname.toDocument)] = _
    simp [requiredNames, flag]
  obtain ⟨again, writtenAgain, listedAgain⟩ := toDocument_of_required required
  cases written.symm.trans writtenAgain
  obtain ⟨name, rfl, isText⟩ : ∃ name, names = [name] ∧ name.value = .text "nickname" := by
    simpa [Name.text] using listed.symm.trans listedAgain
  have isNickname : name = .text "nickname" :=
    Name.text?_eq_some_iff.mp (by simp [Name.text?, isText, Value.text?])
  intro strict stopsEarly closures report evaluated
  refine enforced (.text "nickname") (by simp [isNickname]) _ ?_ strict stopsEarly closures report
    evaluated
  intro value held
  cases held
  exact .blank (List.all_eq_true.mp rfl)

/-! ## Fields that are missing -/

/-- The rule table has, for each property that is registered, what its rules compile to, and
nothing else. -/
structure Mirrored (schema : Schema) : Prop where
  distinctProperties : schema.properties.Distinct
  distinctRules : schema.rules.Distinct
  row : ∀ name entries, schema.rules.get? name = some entries →
    ∃ property, Enlistable property ∧ schema.properties.get? name = some property.toDocument ∧
      entries = property.ruleEntries
  flagged : ∀ name document, schema.properties.get? name = some document →
    ∃ flag, document.field "required" = .ok (.bool flag)

theorem Mirrored.add (mirrored : schema.Mirrored) (enlistable : Enlistable property) :
    (schema.add property).state.Mirrored := by
  rcases enlistable.add_cases schema with same | ⟨key, put⟩
  · rw [same]
    exact mirrored
  rw [put]
  refine ⟨mirrored.distinctProperties.put key _, mirrored.distinctRules.put key _, ?_, ?_⟩
  · intro name entries found
    cases same : name == key with
    | true =>
        rw [Fields.get?_of_equivalent _ same, Fields.get?_put_self] at found ⊢
        cases found
        exact ⟨property, enlistable, rfl, rfl⟩
    | false =>
        rw [Fields.get?_put_of_ne _ _ same] at found ⊢
        exact mirrored.row name entries found
  · intro name document found
    cases same : name == key with
    | true =>
        rw [Fields.get?_of_equivalent _ same, Fields.get?_put_self] at found
        cases found
        exact ⟨_, enlistable.flag⟩
    | false =>
        rw [Fields.get?_put_of_ne _ _ same] at found
        exact mirrored.flagged name document found

private theorem Registered.mirrored (registered : Registered schema) : schema.Mirrored := by
  induction registered with
  | empty =>
      exact {
        distinctProperties := Fields.distinct_nil
        distinctRules := Fields.distinct_nil
        row := fun _ _ found => nomatch found
        flagged := fun _ _ found => nomatch found }
  | add _ enlistable inductionHypothesis =>
      exact inductionHypothesis.add enlistable
  | reword messages labels _ inductionHypothesis =>
      exact ⟨inductionHypothesis.distinctProperties, inductionHypothesis.distinctRules,
        inductionHypothesis.row, inductionHypothesis.flagged⟩

/-- What conditional rules compile to are no tokens. -/
theorem token_mem_ruleEntries_iff {token : String} :
    .token token ∈ property.ruleEntries ↔ token ∈ property.facets.rules := by
  simp only [Property.ruleEntries, List.mem_append, List.mem_map, List.mem_filterMap,
    RuleEntry.token.injEq, exists_eq_right]
  constructor
  · rintro (listed | ⟨compiled, _, isEntry⟩)
    · exact listed
    · cases compiled <;> cases isEntry
  · exact Or.inl

/-- A field is listed as required exactly if it has the token `required`, letter for letter. -/
theorem Mirrored.contains_iff (mirrored : schema.Mirrored) {names : List Name}
    (required : schema.required = .ok names) {name : Name} {entries : List RuleEntry}
    (found : schema.rules.get? name = some entries) :
    names.contains name = true ↔ .token "required" ∈ entries := by
  obtain ⟨property, enlistable, isProperty, rfl⟩ := mirrored.row name entries found
  obtain ⟨others, areOthers, listed⟩ := requiredNames_eq_ok fun name document member =>
    mirrored.flagged name document (Fields.get?_of_mem mirrored.distinctProperties member)
  cases required.symm.trans areOthers
  rw [token_mem_ruleEntries_iff, ← enlistable.facets.requiredToken,
    List.contains_iff_exists_mem_beq]
  constructor
  · rintro ⟨other, member, same⟩
    obtain ⟨document, isDocument, stated⟩ := (listed other).mp member
    have held := Fields.get?_of_mem mirrored.distinctProperties isDocument
    rw [← Fields.get?_of_equivalent _ same, isProperty] at held
    cases held
    simpa using (stated.symm.trans enlistable.flag).symm
  · intro isRequired
    obtain ⟨key, same, member⟩ := Fields.mem_of_get?_eq_some isProperty
    refine ⟨key, (listed key).mpr ⟨_, member, ?_⟩, same⟩
    rw [enlistable.flag, isRequired]

/-- On a missing field, a rule whose name is none of those that depend on siblings asks for a value
exactly if it is the rule `required`. -/
theorem demands_iff_required {call : Call} {rule : Rule.Invocation}
    (independent : rule.name ∉ ["required_with", "required_without", "required_if"]) :
    Engine.Demands call rule ↔ rule.name = "required" := by
  constructor
  · intro demands
    cases demands with
    | always =>
        rfl
    | _ =>
        simp at independent
  · obtain ⟨name, parameters⟩ := rule
    rintro rfl
    exact .always

/-- A field is listed as required exactly if one of its tokens is `required`, letter for letter.
When it is missing, there are messages about it exactly if one of its tokens reads as `required`. -/
theorem Registered.missing_iff (registered : Registered schema) {name : Name}
    {tokens : List String} (plain : schema.rules.get? name = some (tokens.map .token))
    (independent : ∀ token ∈ tokens,
      (Rule.parse token).name ∉ ["required_with", "required_without", "required_if"]) :
    ∃ (document : Value) (names : List Name), schema.toDocument = .ok document ∧
      document.field "required" = .ok (.list (names.map (·.value))) ∧
      (names.contains name = true ↔ "required" ∈ tokens) ∧
      ∀ record : Fields Value, record.under? name = none →
        ∀ strict stopsEarly closures report,
          schema.evaluate { strict, stopsEarly, closures } (.map record) = .ok report →
            (report.messagesOf name ≠ [] ↔
              ∃ token ∈ tokens, (Rule.parse token).name = "required") := by
  have mirrored := registered.mirrored
  obtain ⟨names, required, _⟩ := requiredNames_eq_ok fun name document member =>
    mirrored.flagged name document (Fields.get?_of_mem mirrored.distinctProperties member)
  obtain ⟨document, written, listed⟩ := toDocument_of_required required
  refine ⟨document, names, written, listed, ?_, ?_⟩
  · rw [mirrored.contains_iff required plain]
    simp
  intro record missing strict stopsEarly closures report evaluated
  obtain ⟨key, same, isRow⟩ := Fields.mem_of_get?_eq_some plain
  rw [Engine.messagesOf_ne_nil_iff rfl evaluated name]
  constructor
  · rintro ⟨row, member, sameRow, resolved, isResolved, fails⟩
    have entries := Fields.get?_of_mem mirrored.distinctRules member
    rw [← Fields.get?_of_equivalent _ sameRow, plain] at entries
    rw [← Option.some.inj entries, RuleEntry.resolve_tokens] at isResolved
    cases isResolved
    rw [Fields.under?_of_equivalent sameRow] at missing
    obtain ⟨token, isToken, demands⟩ := (Engine.failsOn_missing_iff missing).mp fails
    have isListed := Text.mem_of_mem_distinct isToken
    exact ⟨token, isListed, (demands_iff_required (independent token isListed)).mp demands⟩
  · rintro ⟨token, isToken, isRequired⟩
    refine ⟨_, isRow, same, _, RuleEntry.resolve_tokens closures record tokens, ?_⟩
    refine Engine.failsOn_of_required ⟨token, ?_, isRequired⟩ ?_
    · exact Text.mem_distinct (fun other equal => (beq_iff_eq.mp equal).symm) isToken
    · rw [Fields.under?_of_equivalent same] at missing
      intro value held
      rw [missing] at held
      cases held

/-- A nickname with a token that is read as `required` and is not written so. -/
def spacedNickname : Property :=
  .mk {
    name := .text "nickname"
    declared := .single "string"
    rules := [" required"] } [] none

private theorem enlistable_spacedNickname : Enlistable spacedNickname where
  reachable := by
    have bare : Property.Reachable Property.Fresh (Property.plain "string" "nickname") :=
      .origin (@Property.Fresh.preset "string" _ _ .null _ _ rfl rfl)
    have spaced := bare.edit (.facets (.addRule (.text " required"))) (List.forall_mem_nil _)
    exact spaced
  ownKeys := List.forall_mem_nil _

theorem missing_iff_spacedNickname :
    Registered (add {} spacedNickname).state ∧
      (add {} spacedNickname).state.rules.get? (.text "nickname") = some [.token " required"] ∧
      ∀ report, (add {} spacedNickname).state.evaluate {} (.map []) = .ok report →
        report.messagesOf (.text "nickname") ≠ [] := by
  have registered : Registered (add {} spacedNickname).state :=
    .add .empty enlistable_spacedNickname
  have plain : (add {} spacedNickname).state.rules.get? (.text "nickname") =
      some ([" required"].map .token) := rfl
  obtain ⟨_, _, _, _, _, missing⟩ := registered.missing_iff plain (by decide)
  refine ⟨registered, plain, fun report evaluated => ?_⟩
  exact (missing [] rfl true false _ report evaluated).mpr ⟨" required", by decide, by decide⟩

/-- A field that is not listed is complained about when it is missing. -/
theorem missing_unlisted :
    Registered (add {} spacedNickname).state ∧
      (add {} spacedNickname).state.rules.get? (.text "nickname") = some [.token " required"] ∧
      (add {} spacedNickname).state.required = .ok [] ∧
      ∃ report, (add {} spacedNickname).state.evaluate {} (.map []) = .ok report ∧
        report.messagesOf (.text "nickname") ≠ [] := by
  have flag : spacedNickname.toDocument.field "required" = .ok (.bool false) :=
    enlistable_spacedNickname.flag
  have parsed : Rule.parse " required" = ⟨"required", []⟩ := rfl
  obtain ⟨report, evaluated, messages, _⟩ := @Engine.evaluate_missing [] "nickname" rfl " required"
    (by rw [parsed]; simp [Rule.Invocation.unconditional])
  refine ⟨.add .empty enlistable_spacedNickname, rfl, ?_, report, evaluated, ?_⟩
  · change requiredNames [(.text "nickname", spacedNickname.toDocument)] = _
    simp [requiredNames, flag]
  · rw [messages, parsed]
    exact .always

end Schema
end RecordSchema
