import RecordSchema.Proofs.Check.Verdicts

/-!
# Where unknown rules come to light

The error that a rule is unknown comes from the walk through the rules of a field and from nowhere
else: no standard check and no message ends in it, and no condition does unless a closure does.
-/

namespace RecordSchema

/-- Whatever goes wrong, it is not that a rule is unknown. -/
def KnowsRules {α : Type} (outcome : Except Error α) : Prop :=
  ∀ rule field, outcome ≠ .error (.ruleUnknown rule field)

namespace KnowsRules

variable {α β : Type}

theorem ok (value : α) : KnowsRules (.ok value) := by
  intro rule field impossible
  cases impossible

private theorem of_isOk {outcome : Except Error α} (isOk : ∃ value, outcome = .ok value) :
    KnowsRules outcome := by
  obtain ⟨value, rfl⟩ := isOk
  exact ok value

theorem bind {first : Except Error α} {next : α → Except Error β} (knowsFirst : KnowsRules first)
    (knowsNext : ∀ value, KnowsRules (next value)) : KnowsRules (first >>= next) := by
  cases first with
  | error error =>
      intro rule field isUnknown
      cases isUnknown
      exact knowsFirst rule field rfl
  | ok value =>
      exact knowsNext value

theorem map {first : Except Error α} (knowsFirst : KnowsRules first) (change : α → β) :
    KnowsRules (first.map change) := by
  cases first with
  | error error =>
      intro rule field isUnknown
      cases isUnknown
      exact knowsFirst rule field rfl
  | ok value =>
      exact ok _

/-- A step that does nothing more than hand on a result. -/
theorem andReturn {first : Except Error α} (knowsFirst : KnowsRules first) (change : α → β) :
    KnowsRules (do return change (← first)) :=
  knowsFirst.bind fun _ => ok _

end KnowsRules

/-! ## Conditions -/

private theorem Value.knowsRules_writtenText (value : Value) : KnowsRules value.writtenText := by
  unfold writtenText
  split
  · exact .ok _
  · nofun

private theorem Value.knowsRules_lookupField (record : Fields Value) (name : Value) :
    KnowsRules (lookupField record name) := by
  unfold lookupField
  split
  · exact .ok _
  · split
    · exact .ok _
    · nofun

private theorem Pattern.knowsRules_ofValue (source : Value) : KnowsRules (ofValue source) := by
  unfold ofValue
  split
  · next text =>
      cases compile .early text with
      | error refused =>
          cases refused <;> nofun
      | ok pattern =>
          exact .ok pattern
  · nofun

private theorem Pattern.knowsRules_found (source : Value) (text : String) :
    KnowsRules (found source text) := by
  refine (knowsRules_ofValue source).bind fun pattern => ?_
  cases pattern.isFoundIn text .early with
  | error broken =>
      nofun
  | ok answer =>
      exact .ok answer

namespace Rule

private theorem knowsRules_compare (left operator right : Value) :
    KnowsRules (compare left operator right) := by
  unfold compare
  split
  · exact .ok _
  · split
    · exact .ok _
    · nofun

/-- Closures may fail on a record, but not because of unknown rules. -/
def Closures.KnowRules (closures : Closures) (record : Fields Value) : Prop :=
  ∀ identity, KnowsRules (closures identity (.map record))

private theorem Condition.knowsRules_holds {closures : Closures} {record : Fields Value}
    (known : closures.KnowRules record) (condition : Condition) :
    KnowsRules (condition.holds closures record) := by
  cases condition with
  | closure identity =>
      exact (known identity).andReturn _
  | fields expected =>
      exact .ok _
  | pattern field source =>
      refine (Value.knowsRules_lookupField record field).bind fun found => ?_
      split
      · exact found.knowsRules_writtenText.bind fun text => Pattern.knowsRules_found source text
      · exact .ok _
  | comparison field operator operand =>
      refine (Value.knowsRules_lookupField record field).bind fun found => ?_
      split
      · exact .ok _
      · exact knowsRules_compare _ _ _
  | equality field expected =>
      exact (Value.knowsRules_lookupField record field).andReturn _

end Rule

namespace RuleEntry

variable {closures : Rule.Closures} {record : Fields Value}

private theorem knowsRules_contributions (known : closures.KnowRules record)
    (entries : List RuleEntry) :
    KnowsRules (contributions closures record entries) := by
  induction entries with
  | nil =>
      exact .ok _
  | cons entry rest inductionHypothesis =>
      refine KnowsRules.bind ?_ fun first => inductionHypothesis.andReturn _
      cases entry with
      | token text =>
          exact .ok _
      | stray value =>
          exact .ok _
      | ruleSet set =>
          refine KnowsRules.andReturn ?_ (List.map Value.text)
          refine (set.condition.knowsRules_holds known).bind fun holds => ?_
          split
          · exact .ok _
          · exact .ok _

private theorem knowsRules_tokensOf (values : List Value) : KnowsRules (tokensOf values) := by
  induction values with
  | nil =>
      exact .ok _
  | cons value rest inductionHypothesis =>
      cases value with
      | text name =>
          exact inductionHypothesis.map _
      | _ =>
          nofun

private theorem knowsRules_resolve (known : closures.KnowRules record) (entries : List RuleEntry) :
    KnowsRules (resolve closures record entries) := by
  refine KnowsRules.bind ?_ knowsRules_tokensOf
  refine (knowsRules_contributions known entries).bind fun values => ?_
  unfold distinctValues
  split
  · exact .ok _
  · nofun

end RuleEntry

/-! ## Checks -/

namespace Call

private theorem knowsRules_worth (value : Value) : KnowsRules (worth value) := by
  unfold worth
  split
  · split
    · exact .ok _
    · nofun
  · exact .ok _
  · split
    · exact .ok _
    · nofun
  · nofun

private theorem knowsRules_size (call : Call) : KnowsRules call.size := by
  unfold size
  split
  · exact (knowsRules_worth call.value).map _
  · exact .ok _
  · exact .ok _

private theorem knowsRules_parameterWorth (text : String) : KnowsRules (parameterWorth text) :=
  (knowsRules_worth (.text text)).map _

private theorem knowsRules_needed (call : Call) (rule : String) (count : Nat) :
    KnowsRules (call.needed rule count) := by
  unfold needed
  split
  · nofun
  · exact .ok _

end Call

namespace Check

private theorem knowsRules_matchesAny (value : Value) (candidates : List String) :
    KnowsRules (matchesAny value candidates) := by
  induction candidates with
  | nil =>
      exact .ok _
  | cons candidate rest inductionHypothesis =>
      refine KnowsRules.bind ?_ fun matched => ?_
      · unfold isCandidate
        split
        · exact .ok _
        · exact .ok _
        · exact .ok _
        · exact (Value.knowsRules_writtenText value).andReturn _
      · split
        · exact .ok _
        · exact inductionHypothesis

private theorem knowsRules_otherMatches (call : Call) (rule : String) :
    KnowsRules (otherMatches call rule) := by
  refine (call.knowsRules_needed rule 2).bind fun parameters => ?_
  cases parameters with
  | nil =>
      exact .ok _
  | cons field candidates =>
      exact knowsRules_matchesAny _ _

private theorem knowsRules_min (call : Call) : KnowsRules (min call) :=
  (call.knowsRules_needed "min" 1).bind fun _ =>
    call.knowsRules_size.bind fun _ => (Call.knowsRules_parameterWorth _).andReturn _

private theorem knowsRules_max (call : Call) : KnowsRules (max call) :=
  (call.knowsRules_needed "max" 1).bind fun _ =>
    call.knowsRules_size.bind fun _ => (Call.knowsRules_parameterWorth _).andReturn _

private theorem knowsRules_between (call : Call) : KnowsRules (between call) := by
  refine (call.knowsRules_needed "between" 2).bind fun _ => call.knowsRules_size.bind fun _ =>
    (Call.knowsRules_parameterWorth _).bind fun _ => ?_
  split
  · exact (Call.knowsRules_parameterWorth _).andReturn _
  · exact .ok _

private theorem knowsRules_hasDigits (text parameter : String) :
    KnowsRules (hasDigits text parameter) := by
  unfold hasDigits
  split
  · exact .ok _
  · split
    · exact .ok _
    · nofun

private theorem knowsRules_digits (call : Call) : KnowsRules (digits call) := by
  refine (call.knowsRules_needed "digits" 1).bind fun _ => ?_
  split
  · exact (Value.knowsRules_writtenText _).bind fun _ => knowsRules_hasDigits _ _
  · exact knowsRules_hasDigits _ _
  · exact .ok _

private theorem knowsRules_alphaNum (call : Call) : KnowsRules (alphaNum call) := by
  unfold alphaNum
  split
  · exact (Value.knowsRules_writtenText _).andReturn _
  · exact .ok _
  · exact .ok _

private theorem knowsRules_regex (call : Call) : KnowsRules (regex call) := by
  refine (call.knowsRules_needed "regex" 1).bind fun _ => ?_
  dsimp only
  split
  · exact Pattern.knowsRules_found _ _
  · exact (Value.knowsRules_writtenText _).bind fun _ => Pattern.knowsRules_found _ _
  · exact Pattern.knowsRules_found _ _
  · exact .ok _

private theorem knowsRules_isListed (call : Call) (value : Value) :
    KnowsRules (isListed call value) :=
  value.knowsRules_writtenText.andReturn _

private theorem knowsRules_allListed (call : Call) (listed : Bool) (items : List Value) :
    KnowsRules (allListed call listed items) := by
  induction items with
  | nil =>
      exact .ok _
  | cons item rest inductionHypothesis =>
      refine (knowsRules_isListed call item).bind fun isListed => ?_
      split
      · exact inductionHypothesis
      · exact .ok _

private theorem knowsRules_oneOf (call : Call) : KnowsRules (oneOf call) := by
  unfold oneOf
  split
  · exact knowsRules_allListed _ _ _
  · exact knowsRules_allListed _ _ _
  · exact .ok _
  · exact .ok _
  · exact .ok _
  · exact knowsRules_isListed _ _

private theorem knowsRules_notOneOf (call : Call) : KnowsRules (notOneOf call) := by
  unfold notOneOf
  split
  · exact knowsRules_allListed _ _ _
  · exact knowsRules_allListed _ _ _
  · exact (knowsRules_isListed _ _).map _

/-- Standard checks may fail, but not because of unknown rules. -/
theorem knowsRules_standard {rule : String} {check : Check}
    (known : standard.get? rule = some check) (call : Call) : KnowsRules (check call) := by
  by_cases unconditional : rule ∈ Rule.Invocation.unconditional
  · exact .of_isOk (answers_of_unconditional unconditional known)
  have conditional :
      standard.filter (fun entry => !Rule.Invocation.unconditional.contains entry.1) =
      [("required_if", requiredIf), ("prohibited_if", prohibitedIf), ("min", min), ("max", max),
       ("between", between), ("digits", digits), ("alpha_num", alphaNum), ("in", oneOf),
       ("not_in", notOneOf), ("regex", regex)] := rfl
  have others : ∀ entry ∈ standard.filter
      (fun entry => !Rule.Invocation.unconditional.contains entry.1),
      KnowsRules (entry.2 call) := by
    simp only [conditional, List.forall_mem_cons]
    exact ⟨(knowsRules_otherMatches call "required_if").andReturn _,
      (knowsRules_otherMatches call "prohibited_if").andReturn _, knowsRules_min call,
      knowsRules_max call, knowsRules_between call, knowsRules_digits call,
      knowsRules_alphaNum call, knowsRules_oneOf call, knowsRules_notOneOf call,
      knowsRules_regex call, List.forall_mem_nil _⟩
  obtain ⟨key, same, member⟩ := Fields.mem_of_get?_eq_some known
  have isKey : rule = key := by
    simpa using same
  refine others (key, check) (List.mem_filter.mpr ⟨member, ?_⟩)
  simpa [← isKey] using unconditional

end Check

/-! ## Messages -/

private theorem Name.knowsRules_ofValue (value : Value) : KnowsRules (ofValue value) := by
  unfold ofValue
  split
  · exact .ok _
  · intro rule field failed
    cases failed

private theorem Value.knowsRules_field (value : Value) (name : String) :
    KnowsRules (value.field name) := by
  unfold field
  split
  · exact .ok _
  · exact .ok _
  · nofun

private theorem Value.knowsRules_notReplaceable {α : Type} (value : Value) :
    KnowsRules (.error value.notReplaceable : Except Error α) := by
  unfold notReplaceable
  split
  · nofun
  · nofun

namespace Message

private theorem knowsRules_fillAll (replacements : Fields Value) (names : List String)
    (template : Value) :
    KnowsRules (fillAll replacements names template) := by
  induction names generalizing template with
  | nil =>
      exact .ok _
  | cons name rest inductionHypothesis =>
      refine KnowsRules.bind ?_ inductionHypothesis
      unfold fillOne
      split
      · exact .ok _
      · nofun
      · exact Value.knowsRules_notReplaceable _

namespace Wording

variable (wording : Wording)

private theorem knowsRules_label (field : Name) : KnowsRules (wording.label field) := by
  have entry : KnowsRules (wording.labels.entry field.value) := by
    unfold Value.entry
    split
    · exact Value.knowsRules_lookupField _ _
    · exact (Name.knowsRules_ofValue _).andReturn _
    · nofun
  refine entry.bind fun own => ?_
  split
  · exact .ok _
  · unfold spaced
    split
    · exact .ok _
    · exact Value.knowsRules_notReplaceable _

private theorem knowsRules_joinedLabels (names : List String) :
    KnowsRules (wording.joinedLabels names) := by
  induction names with
  | nil =>
      exact .ok _
  | cons name rest inductionHypothesis =>
      exact (wording.knowsRules_label _).bind fun _ => inductionHypothesis.andReturn _

private theorem knowsRules_labelTexts (labels : List Value) : KnowsRules (labelTexts labels) := by
  induction labels with
  | nil =>
      exact .ok _
  | cons label rest inductionHypothesis =>
      cases label with
      | text name =>
          exact inductionHypothesis.map _
      | _ =>
          nofun

private theorem knowsRules_template (known : Fields Value) (call : Call) (rule : String) :
    KnowsRules (wording.template known call rule) := by
  refine (wording.messages.knowsRules_field _).bind fun forField => ?_
  dsimp only
  split
  · rw [Outcome.pure_eq_ok, Outcome.ok_bind]
    split
    · split
      · exact .ok _
      · exact .ok _
    · exact .ok _
  · refine (wording.messages.knowsRules_field rule).bind fun own => ?_
    split
    · split
      · exact .ok _
      · exact .ok _
    · exact .ok _

private theorem knowsRules_details (call : Call) (rule : String) :
    KnowsRules (wording.details call rule) := by
  have joined (others : List String) : KnowsRules (details.joined wording others) :=
    (wording.knowsRules_joinedLabels others).bind fun labels =>
      (knowsRules_labelTexts labels).andReturn _
  have dependent (other : String) (values : List String) :
      KnowsRules (details.dependent wording other values) :=
    (wording.knowsRules_label _).andReturn _
  unfold details
  split
  · exact .ok _
  · exact .ok _
  · exact .ok _
  · exact .ok _
  · exact joined _
  · exact joined _
  · exact dependent _ _
  · exact dependent _ _
  · exact .ok _

/-- Messages may be impossible to write, but not because of unknown rules. -/
theorem knowsRules_message (known : Fields Value) (call : Call) (rule : String) :
    KnowsRules (wording.message known call rule) :=
  (wording.knowsRules_template known call rule).bind fun _ =>
    (wording.knowsRules_label call.field).bind fun _ =>
      (wording.knowsRules_details call rule).bind fun _ =>
        (knowsRules_fillAll _ _ _).andReturn _

end Wording
end Message

namespace Engine

variable {engine : Engine} {wording : Message.Wording} {call : Call} {runs : Bool}
  {record : Fields Value} {table : RuleTable}

/-! ## Walks -/

private theorem knowsRules_of_breaks (standard : engine.checks = Check.standard)
    {rule : Rule.Invocation}
    {error : Error} (breaks : engine.verdict wording call runs rule = .breaks error)
    (name field : String) : error ≠ .ruleUnknown name field := by
  rintro rfl
  obtain ⟨check, known, _, unanswered | unwritten⟩ := breaks_cases breaks
  · exact Check.knowsRules_standard (standard ▸ known) _ name field unanswered
  · exact wording.knowsRules_message _ _ _ name field unwritten

/-- A walk that ends because of an unknown rule is strict, and comes to such a rule. -/
theorem unknown_of_walk (standard : engine.checks = Check.standard) {rules : List Rule.Invocation}
    {name field : String}
    (failed : (engine.walk wording call runs rules).failure = some (.ruleUnknown name field)) :
    engine.strict = true ∧ ∃ rule ∈ rules, engine.knows rule.name = false := by
  induction rules with
  | nil =>
      cases failed
  | cons rule rest inductionHypothesis =>
      have later (failedLater : (engine.walk wording call runs rest).failure =
          some (.ruleUnknown name field)) :
          engine.strict = true ∧ ∃ other ∈ rule :: rest, engine.knows other.name = false := by
        obtain ⟨strict, other, member, unknown⟩ := inductionHypothesis failedLater
        exact ⟨strict, other, List.mem_cons_of_mem _ member, unknown⟩
      rw [walk_cons] at failed
      cases isVerdict : engine.verdict wording call runs rule with
      | passes =>
          rw [isVerdict] at failed
          exact later failed
      | unknown =>
          simp only [isVerdict] at failed
          by_cases strict : engine.strict = true
          · exact ⟨strict, rule, List.mem_cons_self, verdict_eq_unknown_iff.mp isVerdict⟩
          · rw [if_neg strict] at failed
            exact later failed
      | fails text =>
          simp only [isVerdict] at failed
          split at failed
          · cases failed
          · exact later failed
      | breaks error =>
          simp only [isVerdict] at failed
          exact absurd (Option.some.inj failed) (knowsRules_of_breaks standard isVerdict name field)

/-- A rule that applies to a field is not known. -/
def UnknownOn (engine : Engine) (record : Fields Value) (row : Name × List RuleEntry) : Prop :=
  ∃ tokens, RuleEntry.resolve engine.closures record row.2 = .ok tokens ∧
    ∃ token ∈ tokens, engine.knows (Rule.parse token).name = false

/-- Where checking ends in an error, one of the fields does. -/
theorem findingsOn_of_evaluate {error : Error}
    (evaluated : engine.evaluate wording record table = .error error) :
    ∃ row ∈ table, engine.findingsOn wording record row = .error error := by
  have failed : (engine.checkTable wording record table).failure = some error := by
    rw [evaluate, conclude] at evaluated
    split at evaluated
    · next found isFound =>
        cases evaluated
        exact isFound
    · cases evaluated
  clear evaluated
  induction table with
  | nil =>
      cases failed
  | cons row rest inductionHypothesis =>
      rcases @checkTable_cons engine wording record row rest
        with ⟨found, _, walked⟩ | ⟨other, here, walked⟩
      · rw [walked] at failed
        obtain ⟨later, member, isLater⟩ := inductionHypothesis failed
        exact ⟨later, List.mem_cons_of_mem _ member, isLater⟩
      · rw [walked] at failed
        cases failed
        exact ⟨row, List.mem_cons_self, here⟩

/-- Where the conditions on a field have an answer, only a strict engine ends at an unknown rule, and
the field has one. -/
theorem unknownOn_of_findingsOn (engine : Engine) (standard : engine.checks = Check.standard)
    {row : Name × List RuleEntry} {tokens : List String}
    (resolved : RuleEntry.resolve engine.closures record row.2 = .ok tokens) {name field : String}
    (failed : engine.findingsOn wording record row = .error (.ruleUnknown name field)) :
    engine.strict = true ∧ engine.UnknownOn record row := by
  rw [findingsOn, resolved, Outcome.ok_bind] at failed
  dsimp only at failed
  split at failed
  · cases failed
  · next error failure =>
      cases failed
      obtain ⟨strict, _, isRule, unknown⟩ := unknown_of_walk standard failure
      obtain ⟨token, isToken, rfl⟩ := List.mem_map.mp isRule
      exact ⟨strict, tokens, resolved, token, isToken, unknown⟩

/-- Checking that ends because of an unknown rule is strict, and some field has such a rule. -/
theorem unknown_of_evaluate (engine : Engine) (standard : engine.checks = Check.standard)
    (closures : engine.closures.KnowRules record) {name field : String}
    (evaluated : engine.evaluate wording record table = .error (.ruleUnknown name field)) :
    engine.strict = true ∧ ∃ row ∈ table, engine.UnknownOn record row := by
  obtain ⟨row, member, failed⟩ := findingsOn_of_evaluate evaluated
  cases resolved : RuleEntry.resolve engine.closures record row.2 with
  | error error =>
      rw [findingsOn, resolved] at failed
      cases failed
      exact absurd resolved (RuleEntry.knowsRules_resolve closures row.2 name field)
  | ok tokens =>
      obtain ⟨strict, unknown⟩ := unknownOn_of_findingsOn engine standard resolved failed
      exact ⟨strict, row, member, unknown⟩

end Engine
end RecordSchema
