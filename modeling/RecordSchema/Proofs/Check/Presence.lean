import RecordSchema.Proofs.Check.Failures

/-!
# Fields without a value

A field may be missing, or hold a value that counts as none for the rules.  The rule `required` is
not met there, whatever the other rules of the field are.  Where the field is missing altogether,
the only rules that are not met are those that ask for a value.
-/

namespace RecordSchema

/-! ## Blank texts -/

namespace Text

private theorem dropWhile_isBlank_eq_nil_iff {characters : List Char} :
    characters.dropWhile isBlank = [] ↔ ∀ c ∈ characters, isBlank c = true := by
  induction characters with
  | nil =>
      simp
  | cons first rest inductionHypothesis =>
      by_cases blank : isBlank first = true
      · rw [List.dropWhile_cons_of_pos blank, inductionHypothesis]
        simp [blank]
      · rw [List.dropWhile_cons_of_neg blank]
        simp [blank]

/-- Trimming leaves nothing of a text exactly if all of it is white space. -/
theorem trim_eq_nil_iff {characters : List Char} :
    trim characters = [] ↔ ∀ c ∈ characters, isBlank c = true := by
  rw [trim, List.reverse_eq_nil_iff, dropWhile_isBlank_eq_nil_iff]
  simp only [List.mem_reverse]
  constructor
  · intro remaining
    refine dropWhile_isBlank_eq_nil_iff.mp ?_
    cases kept : characters.dropWhile isBlank with
    | nil =>
        rfl
    | cons first rest =>
        have starts := List.head_dropWhile_not isBlank (l := characters) (by simp [kept])
        simp only [kept, List.head_cons] at starts
        rw [remaining first (by simp [kept])] at starts
        cases starts
  · intro blank c member
    exact blank c ((List.dropWhile_sublist _).subset member)

end Text

/-! ## Values that count as none -/

/-- A value that counts as none for the rules. -/
inductive Value.Void : Value → Prop
  | null : Void .null
  | blank {text : String} : (∀ c ∈ text.toList, Text.isBlank c = true) → Void (.text text)
  | map : Void (.map [])
  | keyed : Void (.keyed [])
  | list : Void (.list [])
  | tuple : Void (.tuple [])
  | set : Void (.set [])

theorem Value.isPresent_eq_false_iff {value : Value} : value.isPresent = false ↔ value.Void := by
  constructor
  · intro absent
    cases value with
    | null =>
        exact .null
    | text text =>
        refine .blank (Text.trim_eq_nil_iff.mp ?_)
        simpa [isPresent] using absent
    | map entries =>
        cases List.isEmpty_iff.mp (by simpa [isPresent] using absent)
        exact .map
    | keyed entries =>
        cases List.isEmpty_iff.mp (by simpa [isPresent] using absent)
        exact .keyed
    | list items =>
        cases List.isEmpty_iff.mp (by simpa [isPresent] using absent)
        exact .list
    | tuple items =>
        cases List.isEmpty_iff.mp (by simpa [isPresent] using absent)
        exact .tuple
    | set items =>
        cases List.isEmpty_iff.mp (by simpa [isPresent] using absent)
        exact .set
    | _ =>
        cases absent
  · intro void
    cases void with
    | blank blank =>
        simp [isPresent, Text.trim_eq_nil_iff.mpr blank]
    | _ =>
        rfl

namespace Fields

variable {record : Fields Value}

/-- A record has nothing under a name, or a value that counts as none. -/
def Lacks (record : Fields Value) (name : Name) : Prop :=
  ∀ value, record.under? name = some value → value.Void

theorem lacks_iff {name : Name} :
    record.Lacks name ↔ ((record.under? name).getD .null).isPresent = false := by
  cases held : record.under? name with
  | none =>
      simp [Lacks, held, Value.isPresent]
  | some value =>
      simp [Lacks, held, Value.isPresent_eq_false_iff]

theorem under?_of_equivalent {name other : Name} (same : (name == other) = true) :
    record.under? name = record.under? other := by
  cases isText : name.text? with
  | some text =>
      cases Name.text?_eq_some_iff.mp isText
      rw [Name.eq_text_of_beq (BEq.symm same)]
  | none =>
      cases isOther : other.text? with
      | some text =>
          cases Name.text?_eq_some_iff.mp isOther
          cases Name.eq_text_of_beq same
          cases isText
      | none =>
          simp [under?, isText, isOther]

theorem Lacks.of_equivalent {name other : Name} (lacks : record.Lacks name)
    (same : (name == other) = true) : record.Lacks other := by
  rw [lacks_iff] at lacks ⊢
  rw [← under?_of_equivalent same]
  exact lacks

end Fields

namespace Engine

variable {strict stopsEarly : Bool} {closures : Rule.Closures} {record : Fields Value}

/-! ## The rule `required` -/

/-- Where a value is required and there is none, a rule is not met: the rule runs on every field,
and no other rule can take it away. -/
theorem failsOn_of_required {field : Name} {tokens : List String}
    (listed : ∃ token ∈ tokens, (Rule.parse token).name = "required")
    (lacks : record.Lacks field) :
    FailsOn { strict, stopsEarly, closures } record field tokens := by
  obtain ⟨token, member, isRequired⟩ := listed
  have absent : (callOn record field tokens).value.isPresent = false :=
    Fields.lacks_iff.mp lacks
  refine ⟨token, member, ⟨?_, Or.inr ?_⟩, Check.required, ?_, ?_⟩
  · rw [isRequired]
    decide
  · simp [isRequired]
  · rw [isRequired]
    rfl
  · rw [Check.required, absent]

/-! ## Missing fields -/

/-- A rule asks for a value of a field that is missing. -/
inductive Demands (call : Call) : Rule.Invocation → Prop
  | always {parameters : List String} : Demands call ⟨"required", parameters⟩
  | withSibling {parameters : List String} {sibling : String} :
      sibling ∈ parameters → (call.other sibling).isPresent = true →
      Demands call ⟨"required_with", parameters⟩
  | withoutSibling {parameters : List String} {sibling : String} :
      sibling ∈ parameters → (call.other sibling).isPresent = false →
      Demands call ⟨"required_without", parameters⟩
  | ifMatches {parameters : List String} :
      Check.otherMatches { call with parameters } "required_if" = .ok true →
      Demands call ⟨"required_if", parameters⟩

/-- On a missing field only the rules that ask for a value are not met. -/
theorem fails_iff_demands {call : Call} (missing : call.value = .null) {rule : Rule.Invocation} :
    Fails { strict, stopsEarly, closures } call false rule ↔ Demands call rule := by
  have absent : call.value.isPresent = false := by
    rw [missing]
    rfl
  constructor
  · obtain ⟨name, parameters⟩ := rule
    rintro ⟨⟨_, running | implicit⟩, check, known, failed⟩
    · cases running
    simp only [List.mem_cons, List.not_mem_nil, or_false] at implicit
    rcases implicit with rfl | rfl | rfl | rfl | rfl | rfl
    · exact .always
    · cases known
      simp only [Check.requiredWith, absent, Bool.or_false, Except.ok.injEq, Bool.not_eq_false',
        List.any_eq_true] at failed
      obtain ⟨sibling, member, present⟩ := failed
      exact .withSibling member present
    · cases known
      simp only [Check.requiredWithout, absent, Bool.or_false, Except.ok.injEq, Bool.not_eq_false',
        List.any_eq_true, Bool.not_eq_true'] at failed
      obtain ⟨sibling, member, lacking⟩ := failed
      exact .withoutSibling member lacking
    · cases known
      obtain ⟨isMatch, found, answered⟩ := Outcome.bind_eq_ok_iff.mp failed
      simp only [absent, Bool.or_false, Outcome.pure_eq_ok, Except.ok.injEq,
        Bool.not_eq_false'] at answered
      rw [answered] at found
      exact .ifMatches found
    · cases known
      simp [Check.prohibited, absent] at failed
    · cases known
      obtain ⟨isMatch, _, answered⟩ := Outcome.bind_eq_ok_iff.mp failed
      simp [absent] at answered
  · intro demands
    cases demands with
    | always =>
        refine ⟨⟨by simp [markers], Or.inr (by simp)⟩, Check.required, rfl, ?_⟩
        simp [Check.required, absent]
    | withSibling member present =>
        refine ⟨⟨by simp [markers], Or.inr (by simp)⟩, Check.requiredWith, rfl, ?_⟩
        simp only [Check.requiredWith, absent, Bool.or_false, Except.ok.injEq, Bool.not_eq_false',
          List.any_eq_true]
        exact ⟨_, member, present⟩
    | withoutSibling member lacking =>
        refine ⟨⟨by simp [markers], Or.inr (by simp)⟩, Check.requiredWithout, rfl, ?_⟩
        simp only [Check.requiredWithout, absent, Bool.or_false, Except.ok.injEq,
          Bool.not_eq_false', List.any_eq_true, Bool.not_eq_true']
        exact ⟨_, member, lacking⟩
    | ifMatches matching =>
        refine ⟨⟨by simp [markers], Or.inr (by simp)⟩, Check.requiredIf, rfl, ?_⟩
        simp [Check.requiredIf, matching, absent]

/-- A missing field has a rule that is not met exactly if one of its rules asks for a value. -/
theorem failsOn_missing_iff {field : Name} (missing : record.under? field = none)
    {tokens : List String} :
    FailsOn { strict, stopsEarly, closures } record field tokens ↔
      ∃ token ∈ tokens, Demands (callOn record field tokens) (Rule.parse token) := by
  have noValue : (callOn record field tokens).value = .null := by
    simp [callOn, missing]
  have idle : runsOn record field (callOn record field tokens).ruleNames = false := by
    simp [runsOn, missing]
  simp only [FailsOn, idle, fails_iff_demands noValue]

/-- A single rule that always comes to an answer is checked to the end. -/
theorem finishes_of_unconditional (name : String) {token : String}
    (unconditional : (Rule.parse token).name ∈ Rule.Invocation.unconditional) :
    Finishes {} {} record (.text name, [.token token]) := by
  have wellFormed : ∀ other ∈ [token], (Rule.parse other).WellFormed := by
    intro other member
    cases List.mem_singleton.mp member
    exact .unconditional unconditional
  have clear : ¬ Obstructed {} record (name, [token]) := by
    rintro ⟨before, rule, after, split, _, blocks⟩
    have member : rule ∈ rulesOf [token] := by
      rw [split]
      exact List.mem_append_right _ List.mem_cons_self
    cases List.mem_singleton.mp member
    exact Check.not_obstacle_of_unconditional unconditional blocks.2
  exact (@finishes_iff _ _ record (keepsStandard true false) Message.Wording.isTexts_empty
    (name, [token]) wellFormed).mpr clear

/-- A record without a field that has a single rule, one that always comes to an answer, is checked
to the end, and is invalid exactly if the rule asks for a value. -/
theorem evaluate_missing {name : String} (missing : record.get? name = none) (token : String)
    (unconditional : (Rule.parse token).name ∈ Rule.Invocation.unconditional) :
    ∃ report, evaluate {} {} record [(.text name, [.token token])] = .ok report ∧
      (report.messagesOf (.text name) ≠ [] ↔
        Demands (callOn record (.text name) [token]) (Rule.parse token)) ∧
      (report.valid = false ↔ report.messagesOf (.text name) ≠ []) := by
  have finishes : ∀ row ∈ [(Name.text name, [RuleEntry.token token])],
      Finishes {} {} record row := by
    intro row member
    cases List.mem_singleton.mp member
    exact finishes_of_unconditional name unconditional
  have evaluated := evaluate_eq_ok_iff.mpr ⟨finishes, rfl⟩
  have notThere : record.under? (.text name) = none := missing
  have resolved : RuleEntry.resolve ({} : Engine).closures record [.token token] = .ok [token] :=
    RuleEntry.resolve_tokens _ record [token]
  refine ⟨_, evaluated, ?_, ?_⟩
  · rw [messagesOf_ne_nil_iff rfl evaluated]
    constructor
    · rintro ⟨row, member, _, tokens, isResolved, fails⟩
      cases List.mem_singleton.mp member
      cases resolved.symm.trans isResolved
      obtain ⟨other, isToken, demands⟩ := (failsOn_missing_iff notThere).mp fails
      cases List.mem_singleton.mp isToken
      exact demands
    · intro demands
      refine ⟨_, List.mem_singleton_self _, BEq.rfl, [token], resolved, ?_⟩
      exact (failsOn_missing_iff notThere).mpr ⟨token, List.mem_singleton_self _, demands⟩
  · rw [valid_eq_false_iff evaluated]
    constructor
    · rintro ⟨field, messages⟩
      obtain ⟨row, member, same, _⟩ := (messagesOf_ne_nil_iff rfl evaluated field).mp messages
      cases List.mem_singleton.mp member
      rw [Name.eq_text_of_beq same] at messages
      exact messages
    · intro messages
      exact ⟨_, messages⟩

end Engine
end RecordSchema
