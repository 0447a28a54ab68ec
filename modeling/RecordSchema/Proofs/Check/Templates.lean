import Mathlib
import RecordSchema.Proofs.Check.Filling
import RecordSchema.Proofs.Check.Outcomes

/-!
# Messages in the standard words

The standard templates have marks for the field and for what a rule is about, in such places that
they are filled in at once.  Where a standard check has an answer there is something to be filled in
for each of them, so the message about a standard rule that is not met is its template filled in.
-/

namespace RecordSchema.Message

/-! ## Templates -/

def builtIn (rule : String) (kind : SizeKind) : String :=
  (ofSize? rule kind).getD ((standard.get? rule).getD fallback)

/-- What the standard template of a rule has marks for, apart from the field itself. -/
def detailNames : String → List String
  | "min" => ["min"]
  | "max" => ["max"]
  | "digits" => ["digits"]
  | "between" => ["min", "max"]
  | "required_with" => ["values"]
  | "required_without" => ["values"]
  | "required_if" => ["other", "value"]
  | "prohibited_if" => ["other", "value"]
  | _ => []

private theorem regular_ofList {characters : List Char} {rule : String}
    (heads : ∀ piece ∈ characters.splitOnP isGap, ':' ∉ piece.tail)
    (marks : (characters.splitOnP isGap).filterMap markName? = "attribute" :: detailNames rule) :
    Regular (String.ofList characters) ("attribute" :: detailNames rule) := by
  have inOrder : ("attribute" :: detailNames rule).Nodup ∧
      ("attribute" :: detailNames rule).Pairwise fun earlier later =>
        later.length ≤ earlier.length := by
    unfold detailNames
    split <;> decide
  refine ⟨?_, ?_, inOrder.1, inOrder.2⟩
  · rw [pieces, String.toList_ofList]
    exact heads
  · rw [marksIn, pieces, String.toList_ofList]
    exact marks

private theorem regular_standard : ∀ entry ∈ standard,
    Regular entry.2 ("attribute" :: detailNames entry.1) := by
  simp only [standard, List.forall_mem_cons]
  and_intros
  all_goals first
    | exact regular_ofList (by decide +kernel) (by decide +kernel)
    | exact List.forall_mem_nil _

private theorem regular_ofSize {rule : String} {kind : SizeKind} {template : String}
    (found : ofSize? rule kind = some template) :
    Regular template ("attribute" :: detailNames rule) := by
  unfold ofSize? at found
  split at found
  all_goals cases found
  all_goals exact regular_ofList (by decide +kernel) (by decide +kernel)

/-- Every standard template is regular, with marks for the field and for the details of the rule. -/
theorem regular_builtIn (rule : String) (kind : SizeKind) :
    Regular (builtIn rule kind) ("attribute" :: detailNames rule) := by
  unfold builtIn
  cases sized : ofSize? rule kind with
  | some template =>
      exact regular_ofSize sized
  | none =>
      cases found : standard.get? rule with
      | some template =>
          obtain ⟨key, same, member⟩ := Fields.mem_of_get?_eq_some found
          cases eq_of_beq same
          exact regular_standard _ member
      | none =>
          have noDetails : detailNames rule = [] := by
            unfold detailNames
            split
            all_goals first
              | rfl
              | cases found; done
              | cases kind <;> cases sized
          have regular : Regular fallback ("attribute" :: detailNames "") :=
            regular_ofList (by decide +kernel) (by decide +kernel)
          rw [noDetails]
          exact regular

/-- How many parameters the marks of a rule's template ask for. -/
def asksFor : String → Nat
  | "min" => 1
  | "max" => 1
  | "digits" => 1
  | "between" => 2
  | "required_if" => 2
  | "prohibited_if" => 2
  | _ => 0

/-- What asks for parameters goes on only if there are as many. -/
theorem length_of_needed {call : Call} {name : String} {count : Nat} {α : Type}
    {next : List String → Except Error α} {result : α}
    (isOk : (call.needed name count >>= next) = .ok result) :
    count ≤ call.parameters.length := by
  obtain ⟨_, enough, _⟩ := Outcome.bind_eq_ok_iff.mp isOk
  unfold Call.needed at enough
  split at enough
  · cases enough
  · next noFewer => exact Nat.le_of_not_lt noFewer

private theorem asksFor_le {call : Call} {rule : String} {check : Check}
    (known : Check.standard.get? rule = some check) {met : Bool} (answers : check call = .ok met) :
    asksFor rule ≤ call.parameters.length := by
  unfold asksFor
  split
  · cases known
    exact length_of_needed answers
  · cases known
    exact length_of_needed answers
  · cases known
    exact length_of_needed answers
  · cases known
    exact length_of_needed answers
  · cases known
    obtain ⟨_, matched, _⟩ := Outcome.bind_eq_ok_iff.mp answers
    exact length_of_needed matched
  · cases known
    obtain ⟨_, matched, _⟩ := Outcome.bind_eq_ok_iff.mp answers
    exact length_of_needed matched
  · exact Nat.zero_le _

namespace Wording

/-- With the parameters that are asked for, there is something to be filled in for each mark. -/
theorem details_names {wording : Wording} {call : Call} {rule : String}
    (enough : asksFor rule ≤ call.parameters.length) {found : Fields Value}
    (areDetails : wording.details call rule = .ok found) : found.names = detailNames rule := by
  have joined {others : List String} (areJoined : details.joined wording others = .ok found) :
      found.names = ["values"] := by
    obtain ⟨values, _, afterValues⟩ := Outcome.bind_eq_ok_iff.mp areJoined
    obtain ⟨labels, _, isJoined⟩ := Outcome.bind_eq_ok_iff.mp afterValues
    cases isJoined
    rfl
  have dependent {other : String} {values : List String}
      (areDependent : details.dependent wording other values = .ok found) :
      found.names = ["other", "value"] := by
    obtain ⟨label, _, isDependent⟩ := Outcome.bind_eq_ok_iff.mp areDependent
    cases isDependent
    rfl
  unfold Wording.details at areDetails
  split at areDetails
  · cases areDetails
    rfl
  · cases areDetails
    rfl
  · cases areDetails
    rfl
  · cases areDetails
    rfl
  · exact joined areDetails
  · exact joined areDetails
  · exact dependent areDetails
  · exact dependent areDetails
  · next noWith noWithout noMin noMax noDigits noBetween noIf noProhibited =>
      have one (least : 1 ≤ call.parameters.length) :
          ∃ first rest, call.parameters = first :: rest :=
        List.exists_cons_of_length_pos least
      have two (least : 2 ≤ call.parameters.length) :
          ∃ first second rest, call.parameters = first :: second :: rest := by
        match given : call.parameters with
        | first :: second :: rest => exact ⟨first, second, rest, rfl⟩
        | [_] => simp [given] at least
        | [] => simp [given] at least
      cases areDetails
      unfold detailNames
      split
      · obtain ⟨bound, rest, given⟩ := one enough
        exact (noMin bound rest rfl given).elim
      · obtain ⟨bound, rest, given⟩ := one enough
        exact (noMax bound rest rfl given).elim
      · obtain ⟨count, rest, given⟩ := one enough
        exact (noDigits count rest rfl given).elim
      · obtain ⟨lower, upper, rest, given⟩ := two enough
        exact (noBetween lower upper rest rfl given).elim
      · exact (noWith rfl).elim
      · exact (noWithout rfl).elim
      · obtain ⟨other, value, rest, given⟩ := two enough
        exact (noIf other value rest rfl given).elim
      · obtain ⟨other, value, rest, given⟩ := two enough
        exact (noProhibited other value rest rfl given).elim
      · rfl

end Wording

/-! ## Messages -/

/-- A message that is put by the standard template of a rule whose standard check has an answer is
this template filled in. -/
theorem Wording.message_filledIn {wording : Wording} {known : Fields Value} {call : Call}
    {rule : String} {check : Check} (isStandard : Check.standard.get? rule = some check)
    {met : Bool} (answers : check call = .ok met)
    (isBuiltIn : wording.template known call rule = .ok (.text (builtIn rule call.sizeKind)))
    {text : String} (isMessage : wording.message known call rule = .ok text) :
    ∃ label details texts, wording.label call.field = .ok label ∧
      wording.details call rule = .ok details ∧
      ("attribute", label) :: details = asValues texts ∧
      FilledIn texts (builtIn rule call.sizeKind) text := by
  rw [Wording.message, isBuiltIn, Outcome.ok_bind] at isMessage
  obtain ⟨label, isLabel, afterLabel⟩ := Outcome.bind_eq_ok_iff.mp isMessage
  obtain ⟨details, areDetails, afterDetails⟩ := Outcome.bind_eq_ok_iff.mp afterLabel
  obtain ⟨filled, isFilled, isText⟩ := Outcome.bind_eq_ok_iff.mp afterDetails
  have names : Fields.names (("attribute", label) :: details) =
      "attribute" :: detailNames rule := by
    rw [Fields.names_cons, details_names (asksFor_le isStandard answers) areDetails]
  have regular := regular_builtIn rule call.sizeKind
  rw [← names] at regular
  obtain ⟨texts, _, areTexts, rfl, filledIn⟩ := regular.of_fill isFilled
  cases isText
  exact ⟨label, details, texts, isLabel, areDetails, areTexts, filledIn⟩

end RecordSchema.Message

namespace RecordSchema.Engine

open Message

/-! ## Reports -/

variable {engine : Engine} {wording : Wording} {record : Fields Value}

/-- A rule has its standard check, and what there is to say about it is put in its standard
template. -/
structure PutsAsStandard (engine : Engine) (wording : Wording) (call : Call) (rule : String) :
    Prop where
  check : engine.checks.get? rule = Check.standard.get? rule
  template : wording.template engine.templates call rule =
    .ok (.text (builtIn rule call.sizeKind))

/-- The message about a standard rule in the standard words is its template with all marks filled in
at once, by labels and parameters that have the later marks filled into them.  It is the template
filled in at once by the labels and parameters themselves if and only if these do not change when
later marks are filled into them. -/
theorem fails_filledIn {call : Call} {runs : Bool} {rule : Rule.Invocation}
    (standard : engine.PutsAsStandard wording { call with parameters := rule.parameters } rule.name)
    {text : String} (fails : engine.verdict wording call runs rule = .fails text) :
    engine.Fails call runs rule ∧ ∃ label details texts,
      wording.label call.field = .ok label ∧
      wording.details { call with parameters := rule.parameters } rule.name = .ok details ∧
      ("attribute", label) :: details = asValues texts ∧
      FilledIn texts (builtIn rule.name call.sizeKind) text := by
  obtain ⟨check, known, asks, failed, isMessage⟩ := fails_cases fails
  have isStandard := standard.check ▸ known
  exact ⟨⟨asks, check, isStandard, failed⟩,
    Wording.message_filledIn isStandard failed standard.template isMessage⟩

/-- Messages are templates filled in.  Each message of a report is what a rule that is not met comes
to.  A rule with its standard check and its standard template that is not met has a message in the
report, unless the field stops early, and whenever it has one, that is its template filled in. -/
theorem evaluate_fillsIn {table : RuleTable} {report : Report}
    (evaluated : engine.evaluate wording record table = .ok report) :
    (∀ field, ∀ message ∈ report.messagesOf field, ∃ row ∈ table, (field == row.1) = true ∧
      ∃ tokens, RuleEntry.resolve engine.closures record row.2 = .ok tokens ∧
        ∃ token ∈ tokens, ∃ text, message = .text text ∧
          engine.verdictOn wording record row.1 tokens token = .fails text) ∧
    ∀ row ∈ table, ∀ tokens, RuleEntry.resolve engine.closures record row.2 = .ok tokens →
      ∀ token ∈ tokens,
      let shared := callOn record row.1 tokens
      let rule := Rule.parse token
      let call := { shared with parameters := rule.parameters }
      engine.PutsAsStandard wording call rule.name →
      (engine.Fails shared (runsOn record row.1 shared.ruleNames) rule → ¬ engine.Stops shared →
        ∃ text, engine.verdictOn wording record row.1 tokens token = .fails text ∧
          .text text ∈ report.messagesOf row.1) ∧
      ∀ text, engine.verdictOn wording record row.1 tokens token = .fails text →
        engine.Fails shared (runsOn record row.1 shared.ruleNames) rule ∧
        ∃ label details texts, wording.label row.1 = .ok label ∧
          wording.details call rule.name = .ok details ∧
          ("attribute", label) :: details = asValues texts ∧
          FilledIn texts (builtIn rule.name call.sizeKind) text := by
  refine ⟨fun field message reported => fails_of_mem_messagesOf evaluated reported, ?_⟩
  intro row member tokens resolved token isToken shared rule call standard
  refine ⟨fun failed goesOn => ?_, fun text fails => fails_filledIn standard fails⟩
  exact (settles_or_reported evaluated member resolved goesOn isToken).resolve_left
    (not_settles_of_fails standard.check failed)

/-- A name that is required with a city, under a label that holds no mark. -/
theorem evaluate_fillsIn_name :
    let wording : Wording := { labels := .map [("name", .text "name: first")] }
    let record : Fields Value := [("city", .text "Rome")]
    let table : RuleTable := [(.text "name", [.token "required_with:city"])]
    let call : Call := ⟨.text "name", .null, ["city"], record, ["required_with"]⟩
    ∃ report, evaluate {} wording record table = .ok report ∧
      report.messagesOf (.text "name") =
        [.text "The name: first field is required when city is present."] ∧
      ∃ label details texts, wording.label (.text "name") = .ok label ∧
        wording.details call "required_with" = .ok details ∧
        ("attribute", label) :: details = asValues texts ∧
        FilledIn texts (builtIn "required_with" call.sizeKind)
          "The name: first field is required when city is present." := by
  intro wording record table call
  have evaluated : evaluate {} wording record table = .ok {
      valid := false
      errors := [(.text "name", [.text "The name: first field is required when city is present."])]
      data := record } := by
    cbv
  obtain ⟨told, filled⟩ := evaluate_fillsIn evaluated
  obtain ⟨row, member, _, tokens, resolved, token, isToken, text, isText, fails⟩ :=
    told (.text "name") _ List.mem_cons_self
  cases List.mem_singleton.mp member
  have resolvesTo : RuleEntry.resolve ({} : Engine).closures record [.token "required_with:city"] =
      .ok ["required_with:city"] := rfl
  cases resolvesTo.symm.trans resolved
  cases List.mem_singleton.mp isToken
  cases isText
  refine ⟨_, evaluated, rfl, ?_⟩
  exact ((filled _ member _ resolved _ isToken ⟨rfl, rfl⟩).2 _ fails).2

/-- A label that holds a mark is not found in the message as it is: the mark in it is filled in as
well. -/
theorem evaluate_refillsLabel :
    let wording : Wording := { labels := .map [("name", .text "name (:values)")] }
    let record : Fields Value := [("city", .text "Rome")]
    let table : RuleTable := [(.text "name", [.token "required_with:city"])]
    let call : Call := ⟨.text "name", .null, ["city"], record, ["required_with"]⟩
    ∃ report, evaluate {} wording record table = .ok report ∧
      report.messagesOf (.text "name") =
        [.text "The name (city) field is required when city is present."] ∧
      wording.label (.text "name") = .ok (.text "name (:values)") ∧
      wording.details call "required_with" = .ok [("values", .text "city")] ∧
      fillAtOnce [("attribute", "name (:values)"), ("values", "city")]
          (builtIn "required_with" call.sizeKind) =
        "The name (:values) field is required when city is present." := by
  intro wording record table call
  have evaluated : evaluate {} wording record table = .ok {
      valid := false
      errors := [(.text "name", [.text "The name (city) field is required when city is present."])]
      data := record } := by
    cbv
  refine ⟨_, evaluated, rfl, rfl, by with_unfolding_all rfl, ?_⟩
  cbv

end RecordSchema.Engine
