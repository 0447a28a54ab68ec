import RecordSchema.Proofs.Rule.Resolution
import RecordSchema.Proofs.Schema.Registration

/-!
# The order of the entries of a field

A property puts its tokens in front of the rule sets of its conditional rules, and in this order
they are reported.  Tokens that are added to a field later are put behind all entries, rule sets
included.  So the tokens of a field come first unless new tokens were added behind rule sets, and
the field was not registered as a property after that.
-/

namespace RecordSchema

/-! ## Distinct elements -/

namespace Text

variable {α : Type} [BEq α]

theorem distinct_append (first second : List α) :
    ∃ others, distinct (first ++ second) = distinct first ++ others := by
  induction first with
  | nil =>
      exact ⟨distinct second, rfl⟩
  | cons item rest inductionHypothesis =>
      obtain ⟨others, same⟩ := inductionHypothesis
      refine ⟨others.filter fun other => !(other == item), ?_⟩
      rw [List.cons_append, distinct, same, List.filter_append]
      rfl

end Text

namespace RuleEntry

variable {entries : List RuleEntry} {closures : Rule.Closures} {record : Fields Value}

/-! ## Tokens before rule sets -/

/-- No token stands behind an entry that is none. -/
def TokensFirst (entries : List RuleEntry) : Prop :=
  entries.Pairwise fun earlier later =>
    later.token?.isSome = true → earlier.token?.isSome = true

/-- The entries of a field are in order: no token stands behind an entry that is none, and what
applies to a record are the tokens of the field in their order, whatever the record is and whatever
closures compute, before anything else, and nothing twice. -/
structure InOrder (entries : List RuleEntry) : Prop where
  tokensFirst : TokensFirst entries
  resolved : ∀ closures record tokens, resolve closures record entries = .ok tokens →
    tokens.Nodup ∧ ∃ added, tokens = Text.distinct (entries.filterMap token?) ++ added

private theorem tokensFirst_nil : TokensFirst [] :=
  .nil

private theorem token?_eq_some_iff {entry : RuleEntry} {text : String} :
    entry.token? = some text ↔ entry = .token text := by
  cases entry <;> simp [token?]

private theorem mem_filterMap_token? {text : String} :
    text ∈ entries.filterMap token? ↔ .token text ∈ entries := by
  simp [List.mem_filterMap, token?_eq_some_iff]

/-- Where tokens come first, they are a list of their own in front of all else. -/
theorem TokensFirst.split (first : TokensFirst entries) :
    ∃ others, entries = (entries.filterMap token?).map .token ++ others := by
  induction entries with
  | nil =>
      exact ⟨[], rfl⟩
  | cons entry rest inductionHypothesis =>
      obtain ⟨beforeAll, restFirst⟩ := List.pairwise_cons.mp first
      cases isToken : entry.token? with
      | some text =>
          obtain ⟨others, same⟩ := inductionHypothesis restFirst
          refine ⟨others, ?_⟩
          rw [List.filterMap_cons_some isToken, List.map_cons, List.cons_append, ← same,
            token?_eq_some_iff.mp isToken]
      | none =>
          have noTokens : rest.filterMap token? = [] := by
            refine List.filterMap_eq_nil_iff.mpr fun other member => ?_
            simpa [isToken] using beforeAll other member
          refine ⟨entry :: rest, ?_⟩
          rw [List.filterMap_cons_none isToken, noTokens, List.map_nil, List.nil_append]

private theorem tokensFirst_append {added : List String} :
    TokensFirst (entries ++ added.map .token) ↔
      TokensFirst entries ∧ (added = [] ∨ ∀ entry ∈ entries, entry.token?.isSome = true) := by
  have onlyTokens : TokensFirst (added.map .token) :=
    List.pairwise_map.mpr (List.pairwise_of_forall fun _ _ _ => rfl)
  rw [TokensFirst, List.pairwise_append]
  constructor
  · rintro ⟨first, _, across⟩
    refine ⟨first, ?_⟩
    cases added with
    | nil =>
        exact .inl rfl
    | cons token rest =>
        exact .inr fun entry member => across entry member (.token token) List.mem_cons_self rfl
  · rintro ⟨first, isNil | allTokens⟩
    · subst isNil
      exact ⟨first, onlyTokens, fun _ _ _ member => nomatch member⟩
    · exact ⟨first, onlyTokens, fun entry member _ _ _ => allTokens entry member⟩

/-! ## What applies to a record -/

private theorem contributions_append {first second : List RuleEntry} {values : List Value}
    (collected : contributions closures record (first ++ second) = .ok values) :
    ∃ earlier later, contributions closures record first = .ok earlier ∧
      contributions closures record second = .ok later ∧ values = earlier ++ later := by
  induction first generalizing values with
  | nil =>
      exact ⟨[], values, rfl, collected, rfl⟩
  | cons entry rest inductionHypothesis =>
      obtain ⟨here, isHere, afterHere⟩ := Outcome.bind_eq_ok_iff.mp collected
      obtain ⟨others, areOthers, isWhole⟩ := Outcome.bind_eq_ok_iff.mp afterHere
      cases isWhole
      obtain ⟨earlier, later, isEarlier, isLater, rfl⟩ := inductionHypothesis areOthers
      refine ⟨here ++ earlier, later, ?_, isLater, (List.append_assoc _ _ _).symm⟩
      rw [contributions, isHere, isEarlier]
      rfl

/-- Where tokens come first among the entries, they come first in what applies to a record. -/
theorem TokensFirst.inOrder (first : TokensFirst entries) : InOrder entries := by
  refine ⟨first, fun closures record tokens resolved => ⟨nodup_of_resolve resolved, ?_⟩⟩
  obtain ⟨values, collected, areDistinct⟩ := resolve_eq_ok resolved
  obtain ⟨others, split⟩ := first.split
  rw [split] at collected
  obtain ⟨earlier, later, isEarlier, _, rfl⟩ := contributions_append collected
  rw [contributions_tokens] at isEarlier
  cases isEarlier
  obtain ⟨rest, same⟩ := @Text.distinct_append Value ⟨Value.agrees⟩
    ((entries.filterMap token?).map .text) later
  rw [same, distinct_texts] at areDistinct
  obtain ⟨front, added, rfl, isFront, _⟩ := List.append_eq_map_iff.mp areDistinct
  have sameFront : front = Text.distinct (entries.filterMap token?) :=
    (List.map_inj_right fun _ _ => Value.text.inj).mp isFront
  exact ⟨added, by rw [sameFront]⟩

private theorem inOrder_iff : InOrder entries ↔ TokensFirst entries :=
  ⟨InOrder.tokensFirst, TokensFirst.inOrder⟩

end RuleEntry

/-! ## What a registration does to the entries of a field -/

namespace Schema

def entriesOf (schema : Schema) (field : Name) : List RuleEntry :=
  (schema.rules.get? field).getD []

private theorem appendToken_of_mem {entries : List RuleEntry} {token : String}
    (present : .token token ∈ entries) : appendToken entries token = entries := by
  have listed := RuleEntry.mem_filterMap_token?.mpr present
  simp [appendToken, -List.mem_filterMap, listed]

private theorem appendToken_of_not_mem {entries : List RuleEntry} {token : String}
    (absent : .token token ∉ entries) : appendToken entries token = entries ++ [.token token] := by
  have unlisted := mt RuleEntry.mem_filterMap_token?.mp absent
  simp [appendToken, -List.mem_filterMap, unlisted]

/-- Tokens are put behind entries in as far as they are new there. -/
theorem foldl_appendToken (tokens : List String) (entries : List RuleEntry) :
    ∃ added : List String, tokens.foldl appendToken entries = entries ++ added.map .token ∧
      (added = [] ↔ ∀ token ∈ tokens, RuleEntry.token token ∈ entries) := by
  induction tokens generalizing entries with
  | nil =>
      exact ⟨[], by simp⟩
  | cons token rest inductionHypothesis =>
      by_cases present : .token token ∈ entries
      · obtain ⟨added, same, isNil⟩ := inductionHypothesis entries
        refine ⟨added, ?_, by simp [isNil, present]⟩
        rw [List.foldl_cons, appendToken_of_mem present, same]
      · obtain ⟨added, same, _⟩ := inductionHypothesis (entries ++ [.token token])
        refine ⟨token :: added, ?_, by simp [present]⟩
        rw [List.foldl_cons, appendToken_of_not_mem present, same, List.append_assoc]
        rfl

namespace Registration

variable {schema : Schema} {field : Name} {registration : Registration}

def Concerns (registration : Registration) (field : Name) : Prop :=
  ∃ key, Name.ofValue registration.subject = .ok key ∧ (field == key) = true

/-- A registration replaces all entries of a field: it is a property under that name, with tokens
that can be read. -/
def Replaces (registration : Registration) (field : Name) : Prop :=
  registration.Concerns field ∧
    match registration with
    | .property _ rules _ => ∃ tokens, Rule.normalize rules = .ok tokens
    | .rule _ _ => False

/-- A registration puts a token behind a rule set: it adds tokens to a field that has rule sets, and
one of the tokens is new there. -/
def Disorders (registration : Registration) (schema : Schema) (field : Name) : Prop :=
  registration.Concerns field ∧
    match registration with
    | .property _ _ _ => False
    | .rule _ rules => ∃ tokens, Rule.normalize rules = .ok tokens ∧
        (∃ token ∈ tokens, .token token ∉ entriesOf schema field) ∧
        ∃ entry ∈ entriesOf schema field, entry.token? = none

private theorem Disorders.not_replaces (disorders : registration.Disorders schema field) :
    ¬ registration.Replaces field := by
  cases registration with
  | property name rules document =>
      exact disorders.2.elim
  | rule given rules =>
      exact fun replaces => replaces.2

inductive Effect (registration : Registration) (schema : Schema) (field : Name) :
    List RuleEntry → Prop
  | kept : ¬ registration.Replaces field → ¬ registration.Disorders schema field →
      Effect registration schema field (entriesOf schema field)
  | replaced {tokens : List String} {document : Value} : registration.Replaces field →
      Effect registration schema field (compiledEntries tokens document)
  | appended {tokens : List String} : ¬ registration.Replaces field →
      (registration.Disorders schema field ↔
        (∃ token ∈ tokens, .token token ∉ entriesOf schema field) ∧
          ∃ entry ∈ entriesOf schema field, entry.token? = none) →
      Effect registration schema field (tokens.foldl appendToken (entriesOf schema field))

private theorem effect (registration : Registration) (schema : Schema) (field : Name) :
    Effect registration schema field (entriesOf (registration.apply schema).state field) := by
  by_cases concerns : registration.Concerns field
  · obtain ⟨key, named, same⟩ := concerns
    cases registration with
    | property name rules document =>
        rw [subject] at named
        cases normal : Rule.normalize rules with
        | error error =>
            have unchanged : entriesOf (apply schema (.property name rules document)).state field =
                entriesOf schema field := by
              simp [apply, addProperty, named, normal, Change.failed, entriesOf]
            rw [unchanged]
            exact .kept (fun replaces => by simp [Replaces, normal] at replaces)
              fun disorders => disorders.2
        | ok tokens =>
            have isReplaced : entriesOf (apply schema (.property name rules document)).state field =
                compiledEntries tokens document := by
              simp [apply, addProperty, named, normal, Change.lift, entriesOf, compiledEntries,
                Fields.get?_of_equivalent _ same]
            rw [isReplaced]
            exact .replaced ⟨⟨key, named, same⟩, tokens, normal⟩
    | rule given rules =>
        rw [subject] at named
        have keeps : ¬ Replaces (.rule given rules) field := fun replaces => replaces.2
        cases normal : Rule.normalize rules with
        | error error =>
            have unchanged : entriesOf (apply schema (.rule given rules)).state field =
                entriesOf schema field := by
              simp [apply, addRule, named, normal, Change.failed, entriesOf,
                Fields.get?_of_equivalent _ same]
            rw [unchanged]
            exact .kept keeps fun disorders => by simp [Disorders, normal] at disorders
        | ok tokens =>
            have isAppended : entriesOf (apply schema (.rule given rules)).state field =
                tokens.foldl appendToken (entriesOf schema field) := by
              simp [apply, addRule, named, normal, Change.done, entriesOf,
                Fields.get?_of_equivalent _ same]
            rw [isAppended]
            refine .appended keeps ?_
            simp [Disorders, normal, Concerns, subject, named, same]
  · have elsewhere : ∀ key, Name.ofValue registration.subject = .ok key →
        (field == key) = false := by
      intro key named
      rw [← Bool.not_eq_true]
      exact fun same => concerns ⟨key, named, same⟩
    have unchanged :
        entriesOf (registration.apply schema).state field = entriesOf schema field := by
      rw [entriesOf, (state_elsewhere registration schema elsewhere).2, entriesOf]
    rw [unchanged]
    exact .kept (fun replaces => concerns replaces.1) fun disorders => concerns disorders.1

private theorem tokensFirst_compiledEntries (tokens : List String) (document : Value) :
    RuleEntry.TokensFirst (compiledEntries tokens document) := by
  have noToken : ∀ entry ∈ (Compiled.ofProperty document).state.filterMap Compiled.entry?,
      entry.token? = none := by
    intro entry member
    obtain ⟨compiled, _, isEntry⟩ := List.mem_filterMap.mp member
    cases compiled with
    | carried kind =>
        cases isEntry
    | ruleSet set =>
        cases isEntry
        rfl
  refine List.pairwise_append.mpr ⟨?_, ?_, ?_⟩
  · exact List.pairwise_map.mpr (List.pairwise_of_forall fun _ _ _ => rfl)
  · refine List.pairwise_of_forall_mem_list fun _ _ entry member isToken => ?_
    rw [noToken entry member] at isToken
    cases isToken
  · intro entry member _ _ _
    obtain ⟨token, _, rfl⟩ := List.mem_map.mp member
    rfl

/-- After a registration tokens come first if it replaces the entries, or if they came first before
and it does not disorder them. -/
theorem tokensFirst_apply_iff (registration : Registration) (schema : Schema) (field : Name) :
    RuleEntry.TokensFirst (entriesOf (registration.apply schema).state field) ↔
      registration.Replaces field ∨
        (RuleEntry.TokensFirst (entriesOf schema field) ∧
          ¬ registration.Disorders schema field) := by
  have effect := effect registration schema field
  generalize entriesOf (registration.apply schema).state field = entries at effect
  cases effect with
  | kept keeps orders =>
      simp [keeps, orders]
  | replaced replaces =>
      simp [replaces, tokensFirst_compiledEntries]
  | @appended tokens keeps disorders =>
      obtain ⟨added, same, isNil⟩ := foldl_appendToken tokens (entriesOf schema field)
      have noneNew : (∀ token ∈ tokens, .token token ∈ entriesOf schema field) ↔
          ¬ ∃ token ∈ tokens, .token token ∉ entriesOf schema field := by
        simp
      have onlyTokens : (∀ entry ∈ entriesOf schema field, entry.token?.isSome = true) ↔
          ¬ ∃ entry ∈ entriesOf schema field, entry.token? = none := by
        simp [Option.isSome_iff_ne_none]
      rw [same, RuleEntry.tokensFirst_append, isNil, disorders, noneNew, onlyTokens,
        Classical.not_and_iff_not_or_not]
      simp only [keeps, false_or]

/-- The schema after registrations one after the other, those that fail included. -/
def registered (schema : Schema) (registrations : List Registration) : Schema :=
  registrations.foldl (fun state registration => (registration.apply state).state) schema

private theorem registered_append (schema : Schema) (first second : List Registration) :
    registered schema (first ++ second) = registered (registered schema first) second :=
  List.foldl_append

/-- Some registration puts a token behind a rule set, and none after it replaces the entries. -/
inductive Disordered (field : Name) : Schema → List Registration → Prop
  | here {schema : Schema} {step : Registration} {later : List Registration} :
      step.Disorders schema field → (∀ next ∈ later, ¬ next.Replaces field) →
      Disordered field schema (step :: later)
  | later {schema : Schema} {step : Registration} {later : List Registration} :
      Disordered field (step.apply schema).state later → Disordered field schema (step :: later)

private theorem disordered_cons_iff {step : Registration} {later : List Registration} :
    Disordered field schema (step :: later) ↔
      (step.Disorders schema field ∧ ∀ next ∈ later, ¬ next.Replaces field) ∨
        Disordered field (step.apply schema).state later := by
  constructor
  · intro disordered
    cases disordered with
    | here disorders keep =>
        exact .inl ⟨disorders, keep⟩
    | later disordered =>
        exact .inr disordered
  · rintro (⟨disorders, keep⟩ | disordered)
    · exact .here disorders keep
    · exact .later disordered

/-- After registrations tokens do not come first exactly if one of them has disordered the entries
for good, or they did not come first before and the entries were never replaced. -/
theorem not_tokensFirst_registered_iff (registrations : List Registration) (schema : Schema)
    (field : Name) :
    ¬ RuleEntry.TokensFirst (entriesOf (registered schema registrations) field) ↔
      Disordered field schema registrations ∨
        (¬ RuleEntry.TokensFirst (entriesOf schema field) ∧
          ∀ next ∈ registrations, ¬ next.Replaces field) := by
  -- From the first registration on, since each is judged by the schema that it meets.
  induction registrations generalizing schema with
  | nil =>
      constructor
      · exact fun unordered => .inr ⟨unordered, List.forall_mem_nil _⟩
      · rintro (disordered | ⟨unordered, _⟩)
        · cases disordered
        · exact unordered
  | cons step later inductionHypothesis =>
      rw [registered, List.foldl_cons, ← registered, inductionHypothesis, tokensFirst_apply_iff,
        disordered_cons_iff, List.forall_mem_cons]
      -- A step that disorders the entries replaces none, so it decides unless a later one replaces.
      by_cases disorders : step.Disorders schema field
      · have keeps := disorders.not_replaces
        simp only [disorders, keeps, not_true_eq_false, and_false, or_false, not_false_eq_true,
          true_and]
        constructor
        · rintro (disordered | keepAll)
          · exact .inl (.inr disordered)
          · exact .inl (.inl keepAll)
        · rintro ((keepAll | disordered) | ⟨_, keepAll⟩)
          · exact .inr keepAll
          · exact .inl disordered
          · exact .inr keepAll
      · by_cases replaces : step.Replaces field
        · simp [disorders, replaces]
        · simp [disorders, replaces]

/-! ## Registrations up to the first that fails -/

/-- Registrations one after the other, up to the first that fails. -/
def applyAll (schema : Schema) : List Registration → Change Schema
  | [] => .done schema
  | step :: later => (step.apply schema).andThen fun next => applyAll next later

/-- What is registered until the first registration fails, and that one. -/
def attempted (schema : Schema) : List Registration → List Registration
  | [] => []
  | step :: later =>
    step :: match (step.apply schema).failure with
      | none => attempted (step.apply schema).state later
      | some _ => []

private theorem state_applyAll (registrations : List Registration) (schema : Schema) :
    (applyAll schema registrations).state = registered schema (attempted schema registrations) := by
  induction registrations generalizing schema with
  | nil =>
      rfl
  | cons step later inductionHypothesis =>
      rw [applyAll, Change.andThen, attempted, registered, List.foldl_cons, ← registered]
      cases (step.apply schema).failure with
      | none =>
          exact inductionHypothesis (step.apply schema).state
      | some error =>
          rfl

def ofProperty (property : Property) : Registration :=
  .property property.facets.name (ConditionalRule.tokenList property.facets.rules)
    property.toDocument

private theorem addAll_eq_applyAll (all : List Property) (schema : Schema) :
    schema.addAll all = applyAll schema (all.map ofProperty) := by
  induction all generalizing schema with
  | nil =>
      rfl
  | cons property later inductionHypothesis =>
      rw [addAll, List.map_cons, applyAll]
      exact congrArg _ (funext inductionHypothesis)

private theorem addRules_eq_applyAll (table : Fields Value Name) (schema : Schema) :
    schema.addRules table =
      applyAll schema (table.map fun row => .rule row.1.value row.2) := by
  induction table generalizing schema with
  | nil =>
      rfl
  | cons row later inductionHypothesis =>
      rw [addRules, List.map_cons, applyAll]
      exact congrArg _ (funext inductionHypothesis)

end Registration

/-! ## What is registered in several calls -/

open Registration

/-- A call that registers something: a property or tokens of a field, several properties, or the
tokens of several fields. -/
inductive Batch where
  | one (registration : Registration)
  | properties (all : List Property)
  | rules (table : Fields Value Name)

namespace Batch

def perform (schema : Schema) : Batch → Change Schema
  | .one registration => registration.apply schema
  | .properties all => schema.addAll all
  | .rules table => schema.addRules table

/-- What is to be registered, one after the other. -/
def parts : Batch → List Registration
  | .one registration => [registration]
  | .properties all => all.map ofProperty
  | .rules table => table.map fun row => .rule row.1.value row.2

/-- The schema after calls one after the other, those that fail included. -/
def after (schema : Schema) (batches : List Batch) : Schema :=
  batches.foldl (fun state batch => (batch.perform state).state) schema

/-- All that has been registered in calls one after the other, or has failed to be. -/
def history (schema : Schema) : List Batch → List Registration
  | [] => []
  | batch :: later => attempted schema batch.parts ++ history (batch.perform schema).state later

private theorem state_perform (batch : Batch) (schema : Schema) :
    (batch.perform schema).state = registered schema (attempted schema batch.parts) := by
  cases batch with
  | one registration =>
      rw [perform, parts, attempted]
      cases (registration.apply schema).failure <;> rfl
  | properties all =>
      rw [perform, addAll_eq_applyAll, state_applyAll, parts]
  | rules table =>
      rw [perform, addRules_eq_applyAll, state_applyAll, parts]

private theorem after_eq_registered (batches : List Batch) (schema : Schema) :
    after schema batches = registered schema (history schema batches) := by
  induction batches generalizing schema with
  | nil =>
      rfl
  | cons batch later inductionHypothesis =>
      rw [history, registered_append, ← state_perform]
      exact inductionHypothesis (batch.perform schema).state

/-- After any calls the entries of a field are in order exactly if none of the registrations in them
has put a token of the field behind a rule set for good. -/
theorem inOrder_after_iff (batches : List Batch) (field : Name) :
    RuleEntry.InOrder (entriesOf (after {} batches) field) ↔
      ¬ Disordered field {} (history {} batches) := by
  have nothingYet : RuleEntry.TokensFirst (entriesOf {} field) := RuleEntry.tokensFirst_nil
  have disordered := not_tokensFirst_registered_iff (history {} batches) {} field
  rw [← after_eq_registered] at disordered
  simp only [nothingYet, not_true_eq_false, false_and, or_false] at disordered
  rw [RuleEntry.inOrder_iff, ← disordered, Classical.not_not]

def expressNote : Property :=
  .leaf {
    name := .text "note"
    declared := .single "string"
    conditionals := [.equality (.text "express") (.bool true) ["required"]] }

/-- A schema in which the note has got a token of the field after the property. -/
def limited : Schema :=
  after {} [.one (ofProperty expressNote), .one (.rule (.text "note") (.text "max:20"))]

/-- The token that applies in any case stands behind the rule set, and behind what it adds. -/
theorem limited_not_inOrder :
    ¬ RuleEntry.InOrder (entriesOf limited (.text "note")) ∧
      RuleEntry.resolve ({} : Engine).closures [("express", .bool true)]
        (entriesOf limited (.text "note")) = .ok ["required", "max:20"] := by
  have entries : entriesOf limited (.text "note") =
      [.ruleSet ⟨.equality (.text "express") (.bool true), ["required"], "field"⟩,
        .token "max:20"] := rfl
  refine ⟨fun inOrder => ?_, ?_⟩
  · have first := inOrder.tokensFirst
    rw [entries] at first
    have beforeToken := (List.pairwise_cons.mp first).1 _ List.mem_cons_self rfl
    cases beforeToken
  · refine RuleEntry.resolve_of_contributions ["required", "max:20"] ?_
    rw [entries]
    simp [RuleEntry.contributions, RuleEntry.contribution, RuleSet.resolve, Rule.Condition.holds,
      Rule.Condition.presentAndEqual, Value.lookupField, Fields.get?_cons]

end Batch
end Schema
end RecordSchema
