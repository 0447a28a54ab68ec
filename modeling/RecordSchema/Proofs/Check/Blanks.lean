import RecordSchema.Proofs.Check.Locality
import RecordSchema.Proofs.Check.Presence

/-!
# Blank values

White space counts as no value, and so does the value that says that there is none, where there may
be none.  The rules that ask for values take such a value for a missing one, and no other rule looks
at it, so it makes no difference to the messages whether it is there.
-/

namespace RecordSchema

namespace Value

/-- A value that counts as none for a field with these tokens: white space, or no value where there
may be none. -/
inductive CountsAsNone (tokens : List String) : Value → Prop
  | blank {text : String} :
      (∀ c ∈ text.toList, Text.isBlank c = true) → CountsAsNone tokens (.text text)
  | null : (∃ token ∈ tokens, (Rule.parse token).name = "nullable") → CountsAsNone tokens .null

theorem CountsAsNone.void {tokens : List String} {value : Value}
    (none : value.CountsAsNone tokens) : value.Void := by
  cases none with
  | blank blank =>
      exact .blank blank
  | null _ =>
      exact .null

end Value

namespace Fields

/-- Two records hold the same, apart from one field in which neither has a value. -/
structure AgreeBeside (field : String) (record other : Fields Value) : Prop where
  same : ∀ name, name ≠ field → record.get? name = other.get? name
  lacks : record.Lacks (.text field)
  otherLacks : other.Lacks (.text field)

variable {field : String} {record other : Fields Value}

private theorem agreeBeside_put (absent : record.get? field = none) {value : Value}
    (void : value.Void) :
    AgreeBeside field record (record.put field value) where
  same name differs := (get?_put_of_ne record value (by simpa using differs)).symm
  lacks held found := by
    have nothing : record.under? (.text field) = none := absent
    rw [nothing] at found
    cases found
  otherLacks held found := by
    have put : (record.put field value).under? (.text field) = some value :=
      get?_put_self record field value
    rw [put] at found
    cases found
    exact void

private theorem AgreeBeside.agreeOn (agree : AgreeBeside field record other) {names : List String}
    (others : field ∉ names) : AgreeOn names record other := by
  intro name member
  exact agree.same name fun isField => others (isField ▸ member)

/-- A field has a value in both records or in neither. -/
theorem AgreeBeside.isPresent (agree : AgreeBeside field record other) (name : String) :
    ((other.get? name).getD .null).isPresent = ((record.get? name).getD .null).isPresent := by
  by_cases isField : name = field
  · subst isField
    have absent := lacks_iff.mp agree.lacks
    have otherAbsent := lacks_iff.mp agree.otherLacks
    exact otherAbsent.trans absent.symm
  · rw [agree.same name isField]

end Fields

/-! ## Checks -/

/-- A rule that compares the value of a field to candidates compares that of another field. -/
def Rule.Invocation.ComparesOthers (field : String) (rule : Invocation) : Prop :=
  rule.name ∈ ["required_if", "prohibited_if"] → field ∉ rule.siblings

variable {field : String} {record other : Fields Value}

namespace Check

variable {call : Call} {value : Value}

private theorem otherMatches_of_agreeBeside (agree : call.record.AgreeBeside field other)
    (others : field ∉ call.parameters.take 1) (rule : String) :
    otherMatches { call with value := value, record := other } rule = otherMatches call rule :=
  otherMatches_of_agree (agree.agreeOn others) rule

/-- The rules about presence do not tell a missing value from one that counts as none. -/
theorem presence_of_agreeBeside {rule : Rule.Invocation} {check : Check}
    (known : standard.get? rule.name = some check)
    (aboutPresence : rule.name ∈ ({} : Engine).implicit)
    (given : call.parameters = rule.parameters) (agree : call.record.AgreeBeside field other)
    (others : rule.ComparesOthers field) (absent : call.value.isPresent = false)
    (otherAbsent : value.isPresent = false) :
    check { call with value := value, record := other } = check call := by
  obtain ⟨name, parameters⟩ := rule
  cases given
  have sameValue : value.isPresent = call.value.isPresent := otherAbsent.trans absent.symm
  have samePresence (sibling : String) :
      (Call.other { call with value := value, record := other } sibling).isPresent =
        (call.other sibling).isPresent :=
    agree.isPresent sibling
  simp only [List.mem_cons, List.not_mem_nil, or_false] at aboutPresence
  rcases aboutPresence with rfl | rfl | rfl | rfl | rfl | rfl
  · cases known
    simp only [required, sameValue]
  · cases known
    simp only [requiredWith, samePresence, sameValue]
  · cases known
    simp only [requiredWithout, samePresence, sameValue]
  · cases known
    have apart : field ∉ call.parameters.take 1 := others (by simp)
    simp only [requiredIf, otherMatches_of_agreeBeside agree apart, sameValue]
  · cases known
    simp only [prohibited, sameValue]
  · cases known
    have apart : field ∉ call.parameters.take 1 := others (by simp)
    simp only [prohibitedIf, otherMatches_of_agreeBeside agree apart, sameValue]

end Check

/-- The message about a rule that is not about sizes does not depend on the value. -/
theorem Message.Wording.message_of_unsized {wording : Wording} {known : Fields Value} {call : Call}
    {rule : String} (unsized : ∀ kind, ofSize? rule kind = none) (value : Value) :
    wording.message known { call with value := value, record := other } rule =
      wording.message known call rule := by
  have template : wording.template known { call with value := value, record := other } rule =
      wording.template known call rule := by
    simp only [Wording.template, unsized]
  rw [message, template]
  rfl

namespace Engine

variable {engine : Engine} {wording : Message.Wording} {call : Call} {value : Value}

/-! ## Walks -/

private theorem ofSize?_of_implicit {rule : String} (aboutPresence : rule ∈ ({} : Engine).implicit)
    (kind : SizeKind) : Message.ofSize? rule kind = none := by
  simp only [List.mem_cons, List.not_mem_nil, or_false] at aboutPresence
  rcases aboutPresence with rfl | rfl | rfl | rfl | rfl | rfl <;> rfl

/-- Where only the rules about presence run, a rule comes to the same with a value that counts as
none as without a value. -/
theorem verdict_of_agreeBeside (standard : engine.checks = Check.standard)
    (implicit : engine.implicit ⊆ ({} : Engine).implicit)
    (agree : call.record.AgreeBeside field other) (absent : call.value.isPresent = false)
    (otherAbsent : value.isPresent = false) {rule : Rule.Invocation}
    (others : rule.ComparesOthers field) :
    engine.verdict wording { call with value := value, record := other } false rule =
      engine.verdict wording call false rule := by
  refine verdict_congr fun check known asks => ?_
  have aboutPresence : rule.name ∈ ({} : Engine).implicit :=
    implicit (asks.2.resolve_left Bool.false_ne_true)
  constructor
  · exact @Check.presence_of_agreeBeside field other { call with parameters := rule.parameters }
      value rule check (standard ▸ known) aboutPresence rfl agree others absent otherAbsent
  · exact @Message.Wording.message_of_unsized other wording engine.templates
      { call with parameters := rule.parameters } rule.name (ofSize?_of_implicit aboutPresence)
      value

private theorem walk_of_agreeBeside (standard : engine.checks = Check.standard)
    (implicit : engine.implicit ⊆ ({} : Engine).implicit)
    (agree : call.record.AgreeBeside field other) (absent : call.value.isPresent = false)
    (otherAbsent : value.isPresent = false) {rules : List Rule.Invocation}
    (others : ∀ rule ∈ rules, rule.ComparesOthers field) :
    engine.walk wording { call with value := value, record := other } false rules =
      engine.walk wording call false rules := by
  induction rules with
  | nil =>
      rfl
  | cons rule rest inductionHypothesis =>
      obtain ⟨othersHere, othersRest⟩ := List.forall_mem_cons.mp others
      rw [walk_cons, walk_cons, inductionHypothesis othersRest,
        verdict_of_agreeBeside standard implicit agree absent otherAbsent othersHere]

/-! ## Fields -/

/-- The rules that are not about presence do not run on a value that counts as none. -/
theorem runsOn_of_countsAsNone {tokens : List String} (held : record.get? field = some value)
    (none : value.CountsAsNone tokens) :
    runsOn record (.text field) (callOn record (.text field) tokens).ruleNames = false := by
  have found : record.under? (.text field) = some value := held
  rw [runsOn, found]
  cases none with
  | blank blank =>
      simp [Text.trim_eq_nil_iff.mpr blank]
  | null marked =>
      obtain ⟨token, member, isNullable⟩ := marked
      have listed : "nullable" ∈ (callOn record (.text field) tokens).ruleNames := by
        rw [callOn, List.map_map]
        exact List.mem_map.mpr ⟨token, member, isNullable⟩
      simp [listed]

private theorem checkField_of_countsAsNone (standard : engine.checks = Check.standard)
    (implicit : engine.implicit ⊆ ({} : Engine).implicit) {tokens : List String}
    (others : ∀ token ∈ tokens, (Rule.parse token).ComparesOthers field)
    (absent : record.get? field = none) (none : value.CountsAsNone tokens) :
    engine.checkField wording (record.put field value) (.text field) tokens =
      engine.checkField wording record (.text field) tokens := by
  have missing : record.under? (.text field) = .none := absent
  have put : (record.put field value).get? field = some value :=
    Fields.get?_put_self record field value
  have held : (record.put field value).under? (.text field) = some value := put
  have idle (names : List String) : runsOn record (.text field) names = false := by
    rw [runsOn, missing]
  have noValue : (callOn record (.text field) tokens).value = .null := by
    rw [callOn, missing]
    rfl
  have lacking : (callOn record (.text field) tokens).value.isPresent = false := by
    rw [noValue]
    rfl
  have otherCall : callOn (record.put field value) (.text field) tokens =
      { callOn record (.text field) tokens with
        value := value, record := record.put field value } := by
    rw [callOn, held]
    rfl
  calc engine.checkField wording (record.put field value) (.text field) tokens
    _ = engine.walk wording (callOn (record.put field value) (.text field) tokens) false
          (tokens.map Rule.parse) := by
        rw [← runsOn_of_countsAsNone put none]
        rfl
    _ = engine.walk wording (callOn record (.text field) tokens) false (tokens.map Rule.parse) := by
        rw [otherCall]
        exact walk_of_agreeBeside standard implicit (Fields.agreeBeside_put absent none.void)
          lacking (Value.isPresent_eq_false_iff.mpr none.void) (List.forall_mem_map.mpr others)
    _ = engine.checkField wording record (.text field) tokens := by
        rw [← idle (callOn record (.text field) tokens).ruleNames]
        rfl

/-- The verdict and the messages do not depend on the record that stands beside what is found. -/
theorem conclude_errors (table : RuleTable) (found : Change (Fields Finding Name)) :
    (conclude record table found).map (fun report => (report.valid, report.errors)) =
      (conclude other table found).map fun report => (report.valid, report.errors) := by
  unfold conclude
  cases found.failure with
  | some error =>
      rfl
  | none =>
      rfl

/-- A value that counts as none makes no difference where there is none: the messages about a field
are the same with it and without it, or the same error is in the way. -/
theorem evaluate_of_countsAsNone (standard : engine.checks = Check.standard)
    (implicit : engine.implicit ⊆ ({} : Engine).implicit) (wording : Message.Wording)
    {tokens : List String} (others : ∀ token ∈ tokens, (Rule.parse token).ComparesOthers field)
    (absent : record.get? field = none) (none : value.CountsAsNone tokens) :
    let table : RuleTable := [(.text field, tokens.map .token)]
    (∀ error, engine.evaluate wording (record.put field value) table = .error error ↔
      engine.evaluate wording record table = .error error) ∧
    ∀ report, engine.evaluate wording record table = .ok report →
      ∃ again, engine.evaluate wording (record.put field value) table = .ok again ∧
        again.valid = report.valid ∧ again.errors = report.errors := by
  intro table
  have othersDistinct : ∀ token ∈ Text.distinct tokens, (Rule.parse token).ComparesOthers field :=
    fun token member => others token (Text.mem_of_mem_distinct member)
  have noneDistinct : value.CountsAsNone (Text.distinct tokens) := by
    cases none with
    | blank blank =>
        exact .blank blank
    | null marked =>
        obtain ⟨token, member, isNullable⟩ := marked
        exact .null ⟨token, Text.mem_distinct (fun _ same => (eq_of_beq same).symm) member,
          isNullable⟩
  have sameFound : engine.checkTable wording (record.put field value) table =
      engine.checkTable wording record table := by
    simp only [table, checkTable, RuleEntry.resolve_tokens,
      checkField_of_countsAsNone standard implicit othersDistinct absent noneDistinct]
  have same : (engine.evaluate wording (record.put field value) table).map
        (fun report => (report.valid, report.errors)) =
      (engine.evaluate wording record table).map fun report => (report.valid, report.errors) := by
    rw [evaluate, evaluate, sameFound]
    exact conclude_errors table _
  obtain ⟨sameErrors, sameReports⟩ := Outcome.same_of_map_eq same
  refine ⟨sameErrors, fun report evaluated => ?_⟩
  obtain ⟨again, evaluatedAgain, isSame⟩ := sameReports report evaluated
  exact ⟨again, evaluatedAgain, congrArg Prod.fst isSame, congrArg Prod.snd isSame⟩

/-- A name of white space that is required with a city, and one that is not there. -/
theorem evaluate_of_countsAsNone_name :
    let tokens := ["required_with:name,city", "string", "min:3"]
    let table : RuleTable := [(.text "name", tokens.map .token)]
    let record : Fields Value := [("city", .text "Rome")]
    let standing : Engine := {}
    standing.checks = Check.standard ∧ standing.implicit ⊆ ({} : Engine).implicit ∧
      (∀ token ∈ tokens, (Rule.parse token).ComparesOthers "name") ∧
      record.get? "name" = none ∧ (Value.text " \t").CountsAsNone tokens ∧
      (∀ error, standing.evaluate {} (record.put "name" (.text " \t")) table = .error error ↔
        standing.evaluate {} record table = .error error) ∧
      ∃ report, standing.evaluate {} record table = .ok report ∧
        report.errors = [(.text "name",
          [.text "The name field is required when name / city is present."])] ∧
        ∃ again, standing.evaluate {} (record.put "name" (.text " \t")) table = .ok again ∧
          again.valid = report.valid ∧ again.errors = report.errors := by
  intro tokens table record standing
  have others : ∀ token ∈ tokens, (Rule.parse token).ComparesOthers "name" := by
    have names : tokens.map (fun token => (Rule.parse token).name) =
        ["required_with", "string", "min"] := rfl
    intro token member named
    have listed : (Rule.parse token).name ∈ ["required_with", "string", "min"] :=
      names ▸ List.mem_map_of_mem member
    simp only [List.mem_cons, List.not_mem_nil, or_false] at named listed
    rcases named with named | named <;> simp [named] at listed
  have none : (Value.text " \t").CountsAsNone tokens := .blank (by simp [Text.isBlank])
  have evaluated : standing.evaluate {} record table = .ok {
      valid := false
      errors := [(.text "name",
        [.text "The name field is required when name / city is present."])]
      data := record } := by
    cbv
  obtain ⟨sameErrors, sameReport⟩ :=
    @evaluate_of_countsAsNone "name" record standing (.text " \t") rfl (List.Subset.refl _) {}
      tokens others rfl none
  exact ⟨rfl, List.Subset.refl _, others, rfl, none, sameErrors, _, evaluated, rfl,
    sameReport _ evaluated⟩

end Engine
end RecordSchema
