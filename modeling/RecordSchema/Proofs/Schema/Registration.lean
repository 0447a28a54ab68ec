import RecordSchema.Proofs.Schema.Rows

/-!
# Registrations that fail

A schema takes a property or tokens by storing first and reading after that, so it keeps what it has
stored when something turns out to be unfit.  What it keeps is under the name of the property or of
the field, and all else is as it was.
-/

namespace RecordSchema.Schema

/-- Something to be registered in a schema. -/
inductive Registration where
  | property (name rules document : Value)
  | rule (field rules : Value)

namespace Registration

def apply (schema : Schema) : Registration → Change Schema
  | .property name rules document => schema.addProperty name rules document
  | .rule field rules => schema.addRule field rules

def subject : Registration → Value
  | .property name _ _ => name
  | .rule field _ => field

def compiledEntries (tokens : List String) (document : Value) : List RuleEntry :=
  tokens.map RuleEntry.token ++
    (Compiled.ofProperty document).state.filterMap Compiled.entry?

/-- The schema holds already what a registration would leave under a key.  That is the document of a
property, with its entries as far as they compile if its tokens can be read; for tokens of a field,
any entries will do. -/
def Anticipated (schema : Schema) (key : Name) : Registration → Prop
  | .property _ rules document =>
    schema.properties.get? key = some document ∧
      ∀ tokens, Rule.normalize rules = .ok tokens →
        schema.rules.get? key = some (compiledEntries tokens document)
  | .rule _ _ => ∃ entries, schema.rules.get? key = some entries

variable {schema : Schema} {error : Error}

private theorem state_of_unnamed {registration : Registration}
    (unnamed : Name.ofValue registration.subject = .error error) :
    (registration.apply schema).state = schema := by
  cases registration with
  | property name rules document =>
      rw [subject] at unnamed
      simp [apply, addProperty, unnamed, Change.failed]
  | rule field rules =>
      rw [subject] at unnamed
      simp [apply, addRule, unnamed, Change.failed]

private theorem put_properties_eq_iff {key : Name} {document : Value} :
    ({ schema with properties := schema.properties.put key document } : Schema) = schema ↔
      schema.properties.get? key = some document := by
  rw [← Fields.put_eq_self_iff]
  constructor
  · exact congrArg Schema.properties
  · intro same
    rw [same]

private theorem put_rules_eq_iff {key : Name} {entries : List RuleEntry} :
    ({ schema with rules := schema.rules.put key entries } : Schema) = schema ↔
      schema.rules.get? key = some entries := by
  rw [← Fields.put_eq_self_iff]
  constructor
  · exact congrArg Schema.rules
  · intro same
    rw [same]

private theorem put_both_eq_iff {key : Name} {document : Value} {entries : List RuleEntry} :
    ({ schema with
        properties := schema.properties.put key document
        rules := schema.rules.put key entries } : Schema) = schema ↔
      schema.properties.get? key = some document ∧ schema.rules.get? key = some entries := by
  rw [← Fields.put_eq_self_iff, ← Fields.put_eq_self_iff]
  constructor
  · intro same
    exact ⟨congrArg Schema.properties same, congrArg Schema.rules same⟩
  · rintro ⟨sameProperties, sameRules⟩
    rw [sameProperties, sameRules]

/-- A registration that fails under a key changes nothing exactly if the schema held already what it
leaves there. -/
theorem state_eq_iff {registration : Registration} {key : Name}
    (failed : (registration.apply schema).failure = some error)
    (named : Name.ofValue registration.subject = .ok key) :
    (registration.apply schema).state = schema ↔ registration.Anticipated schema key := by
  cases registration with
  | property name rules document =>
      rw [subject] at named
      cases normal : Rule.normalize rules with
      | error error =>
          simp [apply, addProperty, named, normal, Change.failed, put_properties_eq_iff,
            Anticipated]
      | ok tokens =>
          simp only [apply, addProperty, named, normal, Change.lift, put_both_eq_iff, Anticipated,
            compiledEntries, Except.ok.injEq, forall_eq']
  | rule field rules =>
      rw [subject] at named
      cases normal : Rule.normalize rules with
      | error error =>
          simp only [apply, addRule, named, normal, Change.failed, put_rules_eq_iff, Anticipated]
          cases schema.rules.get? key with
          | none =>
              simp
          | some entries =>
              simp
      | ok tokens =>
          simp [apply, addRule, named, normal, Change.done] at failed

theorem state_elsewhere (registration : Registration) (schema : Schema) {other : Name}
    (elsewhere : ∀ key, Name.ofValue registration.subject = .ok key → (other == key) = false) :
    (registration.apply schema).state.properties.get? other = schema.properties.get? other ∧
      (registration.apply schema).state.rules.get? other = schema.rules.get? other := by
  cases registration with
  | property name rules document =>
      cases named : Name.ofValue name with
      | error error =>
          simp [apply, addProperty, named, Change.failed]
      | ok key =>
          have differs := elsewhere key named
          cases normal : Rule.normalize rules with
          | error error =>
              simp [apply, addProperty, named, normal, Change.failed,
                Fields.get?_put_of_ne _ _ differs]
          | ok tokens =>
              simp [apply, addProperty, named, normal, Change.lift,
                Fields.get?_put_of_ne _ _ differs]
  | rule field rules =>
      cases named : Name.ofValue field with
      | error error =>
          simp [apply, addRule, named, Change.failed]
      | ok key =>
          have differs := elsewhere key named
          cases normal : Rule.normalize rules with
          | error error =>
              simp [apply, addRule, named, normal, Change.failed, Fields.get?_put_of_ne _ _ differs]
          | ok tokens =>
              simp [apply, addRule, named, normal, Change.done, Fields.get?_put_of_ne _ _ differs]

/-- A registration that fails changes nothing exactly if it has no key to file anything under, or
the schema held already what it leaves under its key.  Under other keys nothing is changed in any
case. -/
theorem unchanged_iff {registration : Registration}
    (failed : (registration.apply schema).failure = some error) :
    ((registration.apply schema).state = schema ↔
      ∀ key, Name.ofValue registration.subject = .ok key →
        registration.Anticipated schema key) ∧
    ∀ other : Name,
      (∀ key, Name.ofValue registration.subject = .ok key → (other == key) = false) →
        (registration.apply schema).state.properties.get? other = schema.properties.get? other ∧
        (registration.apply schema).state.rules.get? other = schema.rules.get? other := by
  refine ⟨?_, fun other elsewhere => state_elsewhere registration schema elsewhere⟩
  cases named : Name.ofValue registration.subject with
  | error error =>
      exact iff_of_true (state_of_unnamed named) nofun
  | ok key =>
      rw [state_eq_iff failed named]
      constructor
      · rintro anticipated _ ⟨⟩
        exact anticipated
      · intro anticipated
        exact anticipated key rfl

/-- A schema in which an age has rules already. -/
def aged : Schema where
  rules := [(.text "age", [.token "integer"])]

/-- A number among further tokens changes nothing for a field that has rules already. -/
theorem unchanged_iff_aged :
    (apply aged (.rule (.text "age") (.list [.text "min:1", .int 5]))).failure =
        some (.tokenNotText (.int 5)) ∧
      (apply aged (.rule (.text "age") (.list [.text "min:1", .int 5]))).state = aged := by
  have failed : (apply aged (.rule (.text "age") (.list [.text "min:1", .int 5]))).failure =
      some (.tokenNotText (.int 5)) := rfl
  refine ⟨failed, (unchanged_iff failed).1.mpr ?_⟩
  rintro key ⟨⟩
  exact ⟨[.token "integer"], rfl⟩

/-- A number as the first token of a field leaves the field without rules, and what it holds is from
then on among the data that has been checked. -/
theorem failure_adds_field :
    (apply {} (.rule (.text "age") (.list [.int 5]))).failure = some (.tokenNotText (.int 5)) ∧
      (∃ report, evaluate {} {} (.map [("age", .int 3)]) = .ok report ∧ report.data = []) ∧
      ∃ report,
        (apply {} (.rule (.text "age") (.list [.int 5]))).state.evaluate {}
            (.map [("age", .int 3)]) = .ok report ∧
          report.data = [("age", .int 3)] :=
  ⟨rfl, ⟨_, rfl, rfl⟩, _, rfl, rfl⟩

end Registration
end RecordSchema.Schema
