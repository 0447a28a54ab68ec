import RecordSchema.Check.Engine
import RecordSchema.Proofs.Fields
import RecordSchema.Proofs.Outcome

/-!
# What keeps checks from an answer

A rule with the parameters that it asks for comes to an answer on every value, apart from a few
obstacles: a number too large for a double, the text of a number that cannot be read, an integer
with too many digits to be written, and a search for a pattern that breaks off.
-/

namespace RecordSchema

section

variable {α : Type} {goesOn isEnd : α → Prop}

/-- A walk along a list comes to an end at an element.  It goes on behind all the earlier ones. -/
def ComesTo (goesOn isEnd : α → Prop) (items : List α) : Prop :=
  ∃ before item after, items = before ++ item :: after ∧
    (∀ earlier ∈ before, goesOn earlier) ∧ isEnd item

theorem not_comesTo_nil : ¬ ComesTo goesOn isEnd [] := by
  rintro ⟨before, item, after, split, _⟩
  cases before <;> cases split

/-- A walk ends at the first element, or goes on behind it and ends at a later one. -/
theorem comesTo_cons {item : α} {items : List α} :
    ComesTo goesOn isEnd (item :: items) ↔
      isEnd item ∨ goesOn item ∧ ComesTo goesOn isEnd items := by
  constructor
  · rintro ⟨before, final, after, split, passed, ends⟩
    cases before with
    | nil =>
        cases split
        exact Or.inl ends
    | cons first before =>
        cases split
        obtain ⟨passedFirst, passedBefore⟩ := List.forall_mem_cons.mp passed
        exact Or.inr ⟨passedFirst, before, final, after, rfl, passedBefore, ends⟩
  · rintro (ends | ⟨passed, before, final, after, rfl, passedBefore, ends⟩)
    · exact ⟨[], item, items, rfl, List.forall_mem_nil _, ends⟩
    · exact ⟨item :: before, final, after, rfl,
        List.forall_mem_cons.mpr ⟨passed, passedBefore⟩, ends⟩

/-- A walk that goes on wherever it does not end comes to an end if there is one. -/
theorem comesTo_of_mem {item : α} {items : List α} (member : item ∈ items) (ends : isEnd item)
    (goes : ∀ earlier ∈ items, isEnd earlier ∨ goesOn earlier) : ComesTo goesOn isEnd items := by
  induction items with
  | nil =>
      cases member
  | cons first rest inductionHypothesis =>
      obtain ⟨goesHere, goesLater⟩ := List.forall_mem_cons.mp goes
      rw [comesTo_cons]
      rcases List.mem_cons.mp member with rfl | later
      · exact Or.inl ends
      · exact goesHere.imp_right fun passed => ⟨passed, inductionHypothesis later goesLater⟩

end

namespace Rule.Invocation

/-- A text that can be read as a double. -/
def IsBound (text : String) : Prop :=
  ∃ bound, Number.readDouble? text = some bound

/-- The rules that need no parameters and always come to an answer. -/
def unconditional : List String :=
  ["required", "required_with", "required_without", "prohibited", "string", "numeric", "integer",
   "boolean", "array", "email", "date", "alpha", "url", "uuid"]

/-- A known rule has the parameters that it asks for. -/
inductive WellFormed : Invocation → Prop
  | marker {name : String} {parameters : List String} :
      name ∈ Engine.markers → WellFormed ⟨name, parameters⟩
  | unconditional {name : String} {parameters : List String} :
      name ∈ unconditional → WellFormed ⟨name, parameters⟩
  | bound {name bound : String} {rest : List String} :
      name ∈ ["min", "max"] → IsBound bound → WellFormed ⟨name, bound :: rest⟩
  | between {lower upper : String} {rest : List String} :
      IsBound lower → IsBound upper → WellFormed ⟨"between", lower :: upper :: rest⟩
  | digits {count : String} {rest : List String} {number : Int} :
      Number.readInt? count = some number → WellFormed ⟨"digits", count :: rest⟩
  | alphaNum {parameters : List String} : WellFormed ⟨"alpha_num", parameters⟩
  | choice {name : String} {parameters : List String} :
      name ∈ ["in", "not_in"] → WellFormed ⟨name, parameters⟩
  | dependent {name field candidate : String} {rest : List String} :
      name ∈ ["required_if", "prohibited_if"] → WellFormed ⟨name, field :: candidate :: rest⟩
  | regex {source : String} {rest : List String} {pattern : Pattern} :
      Pattern.ofValue (.text source) = .ok pattern → WellFormed ⟨"regex", source :: rest⟩

end Rule.Invocation

namespace Call

/-- What keeps a value from having a size: an integer is beyond the range of doubles, or a text
counts as a number and cannot be read as one. -/
inductive SizeObstacle (call : Call) : Prop
  | tooLarge {value : Int} :
      call.value = .int value → Double.ofInt? value = none → SizeObstacle call
  | unreadable {text name : String} :
      call.value = .text text → name ∈ call.ruleNames → name ∈ numericRules →
      Number.isNumericText text = true → Number.readDouble? text = none → SizeObstacle call

/-- The text of a value that patterns are searched for in. -/
inductive Searched : Value → String → Prop
  | text (text : String) : Searched (.text text) text
  | int {value : Int} {text : String} :
      (Value.int value).writtenText = .ok text → Searched (.int value) text
  | double (value : Double) : Searched (.double value) (Value.double value).toText

/-- The values whose texts are looked for among the parameters of a choice. -/
def choices (rule : String) : Value → List Value
  | .list items => items
  | .tuple items => items
  | .map entries => if rule = "in" then [] else [.map entries]
  | .keyed entries => if rule = "in" then [] else [.keyed entries]
  | .set items => if rule = "in" then [] else [.set items]
  | value => [value]

/-- The value is an integer with too many digits to be written. -/
def LongNumber (call : Call) : Prop :=
  ∃ value, call.value = .int value ∧ (Value.int value).isWritable = false

/-- The search for the pattern in the text of the value breaks off. -/
def BrokenSearch (call : Call) : Prop :=
  ∃ source rest pattern text, call.parameters = source :: rest ∧
    Pattern.ofValue (.text source) = .ok pattern ∧ Searched call.value text ∧
    pattern.isFoundIn text = .error .crossedCapture

/-- Among values there is one with too many digits, behind ones whose texts are all among the
parameters, or are all not. -/
def LongAmong (call : Call) (listed : Bool) : List Value → Prop :=
  ComesTo (fun earlier => call.parameters.contains earlier.ruleText = listed)
    (fun item => item.isWritable = false)

/-- The walk through the values of a choice comes to one with too many digits.  It goes on as long
as the texts are among the parameters, or as long as they are not. -/
def LongChoice (call : Call) (rule : String) : Prop :=
  LongAmong call (rule == "in") (choices rule call.value)

/-- The value of the other field has too many digits to be compared to candidates. -/
def LongOther (call : Call) : Prop :=
  ∃ field rest, call.parameters = field :: rest ∧ (call.other field).isWritable = false

/-- What keeps a rule from an answer. -/
def Obstacle (call : Call) (rule : String) : Prop :=
  (rule ∈ ["min", "max", "between"] ∧ SizeObstacle call) ∨
  (rule ∈ ["digits", "alpha_num", "regex"] ∧ LongNumber call) ∨
  (rule = "regex" ∧ BrokenSearch call) ∨
  (rule ∈ ["in", "not_in"] ∧ LongChoice call rule) ∨
  (rule ∈ ["required_if", "prohibited_if"] ∧ LongOther call)

def Answers (check : Check) (call : Call) : Prop :=
  ∃ answer, check call = .ok answer

variable {call : Call}

/-! ## Sizes -/

/-- The text of a number has the size of the number under some rules, and its length otherwise. -/
theorem sizeKind_text {text : String} (isText : call.value = .text text) :
    call.sizeKind = if (∃ name ∈ call.ruleNames, name ∈ numericRules) ∧
      Number.isNumericText text = true then .worth else .length := by
  have named : call.ruleNames.any numericRules.contains = true ↔
      ∃ name ∈ call.ruleNames, name ∈ numericRules := by
    simp
  unfold sizeKind
  rw [isText]
  by_cases numbered : ∃ name ∈ call.ruleNames, name ∈ numericRules
  · by_cases counts : Number.isNumericText text = true
    · simp [named.mpr numbered, counts, numbered, Value.isNumeric]
    · simp [counts, Value.isNumeric, Value.isNumber, Value.isCollection, Value.count?]
  · have unnamed : call.ruleNames.any numericRules.contains = false := by
      rw [← Bool.not_eq_true, named]
      exact numbered
    simp [unnamed, numbered, Value.isNumber, Value.isCollection, Value.count?]

theorem sizeObstacle_int {value : Int} (isInt : call.value = .int value) :
    SizeObstacle call ↔ Double.ofInt? value = none := by
  constructor
  · rintro (⟨same, outside⟩ | ⟨isText, _, _, _, _⟩)
    · rw [isInt] at same
      cases same
      exact outside
    · rw [isInt] at isText
      cases isText
  · exact .tooLarge isInt

theorem sizeObstacle_text {text : String} (isText : call.value = .text text) :
    SizeObstacle call ↔ ((∃ name ∈ call.ruleNames, name ∈ numericRules) ∧
      Number.isNumericText text = true) ∧ Number.readDouble? text = none := by
  constructor
  · rintro (⟨isInt, _⟩ | ⟨same, named, isNumeric, counts, unread⟩)
    · rw [isText] at isInt
      cases isInt
    · rw [isText] at same
      cases same
      exact ⟨⟨⟨_, named, isNumeric⟩, counts⟩, unread⟩
  · rintro ⟨⟨⟨name, named, isNumeric⟩, counts⟩, unread⟩
    exact .unreadable isText named isNumeric counts unread

/-- A value has a size unless there is an obstacle to it. -/
theorem size_isOk_iff : (∃ size, call.size = .ok size) ↔ ¬ SizeObstacle call := by
  cases isValue : call.value with
  | int value =>
      have kind : call.sizeKind = .worth := by
        simp [sizeKind, isValue, Value.isNumber]
      rw [sizeObstacle_int isValue, size, kind, isValue, worth]
      cases Double.ofInt? value <;> simp
  | text text =>
      rw [sizeObstacle_text isValue]
      by_cases numeric : (∃ name ∈ call.ruleNames, name ∈ numericRules) ∧
          Number.isNumericText text = true
      · have kind : call.sizeKind = .worth := by
          rw [sizeKind_text isValue, if_pos numeric]
        rw [size, kind, isValue, worth]
        cases Number.readDouble? text <;> simp [numeric]
      · have kind : call.sizeKind = .length := by
          rw [sizeKind_text isValue, if_neg numeric]
        simp [size, kind, numeric]
  | double value =>
      have kind : call.sizeKind = .worth := by
        simp [sizeKind, isValue, Value.isNumber]
      have none : ¬ SizeObstacle call := by
        rintro (⟨isInt, _⟩ | ⟨isText, _, _, _, _⟩) <;> simp_all
      simp [size, kind, isValue, worth, none]
  | _ =>
      have none : ¬ SizeObstacle call := by
        rintro (⟨isInt, _⟩ | ⟨isText, _, _, _, _⟩) <;> simp_all
      have notWorth : call.sizeKind ≠ .worth := by
        simp [sizeKind, isValue, Value.isNumeric, Value.isNumber, Value.isCollection,
          Value.count?]
      cases kind : call.sizeKind with
      | worth =>
          exact absurd kind notWorth
      | _ =>
          simp [size, kind, none]

end Call

namespace Check

open Call

variable {call : Call}

/-! ## Rules that always have an answer -/

/-- A rule that is unconditional has an answer, whatever the value is. -/
theorem answers_of_unconditional {rule : String} {check : Check}
    (unconditional : rule ∈ Rule.Invocation.unconditional)
    (known : standard.get? rule = some check) : Answers check call := by
  simp only [Rule.Invocation.unconditional, List.mem_cons, List.not_mem_nil, or_false]
    at unconditional
  rcases unconditional with rfl | rfl | rfl | rfl | rfl | rfl | rfl | rfl | rfl | rfl | rfl | rfl |
    rfl | rfl
  all_goals
    cases known
    cases isValue : call.value <;>
      simp [Answers, required, requiredWith, requiredWithout, prohibited, string, numeric, integer,
        boolean, array, email, date, alpha, url, uuid, isValue]

theorem not_obstacle_of_unconditional {rule : String}
    (unconditional : rule ∈ Rule.Invocation.unconditional) : ¬ Obstacle call rule := by
  have apart : ∀ name ∈ Rule.Invocation.unconditional,
      name ∉ ["min", "max", "between"] ∧ name ∉ ["digits", "alpha_num", "regex"] ∧
        name ≠ "regex" ∧ name ∉ ["in", "not_in"] ∧ name ∉ ["required_if", "prohibited_if"] := by
    decide
  obtain ⟨noSize, noNumber, noSearch, noChoice, noOther⟩ := apart rule unconditional
  rintro (⟨named, _⟩ | ⟨named, _⟩ | ⟨named, _⟩ | ⟨named, _⟩ | ⟨named, _⟩)
  · exact noSize named
  · exact noNumber named
  · exact noSearch named
  · exact noChoice named
  · exact noOther named

/-! ## Rules about sizes and digits -/

theorem needed_eq_ok {rule : String} {count : Nat} (enough : count ≤ call.parameters.length) :
    call.needed rule count = .ok call.parameters := by
  simp [needed, enough]

private theorem parameterWorth_eq_ok {text : String} (isBound : Rule.Invocation.IsBound text) :
    ∃ bound, parameterWorth text = .ok bound := by
  obtain ⟨bound, read⟩ := isBound
  exact ⟨.double bound, by simp [parameterWorth, worth, read]⟩

variable {bound lower upper : String} {rest : List String}

private theorem sizeCompared_isOk_iff (rule : String) (given : call.parameters = bound :: rest)
    (isBound : Rule.Invocation.IsBound bound) (compared : Numeral → Numeral → Bool) :
    (∃ answer, (do
        let parameters ← call.needed rule 1
        let size ← call.size
        let bound ← parameterWorth (parameters.headD "")
        return compared size bound) = .ok answer) ↔ ¬ SizeObstacle call := by
  obtain ⟨number, read⟩ := parameterWorth_eq_ok isBound
  have enough : 1 ≤ call.parameters.length := by
    simp [given]
  rw [needed_eq_ok enough, Outcome.ok_bind, ← size_isOk_iff, given]
  apply Outcome.isOk_bind_iff
  intro size
  simp [read]

private theorem answers_min (given : call.parameters = bound :: rest)
    (isBound : Rule.Invocation.IsBound bound) : Answers min call ↔ ¬ SizeObstacle call :=
  sizeCompared_isOk_iff "min" given isBound _

private theorem answers_max (given : call.parameters = bound :: rest)
    (isBound : Rule.Invocation.IsBound bound) : Answers max call ↔ ¬ SizeObstacle call :=
  sizeCompared_isOk_iff "max" given isBound _

private theorem answers_between (given : call.parameters = lower :: upper :: rest)
    (isLower : Rule.Invocation.IsBound lower) (isUpper : Rule.Invocation.IsBound upper) :
    Answers between call ↔ ¬ SizeObstacle call := by
  obtain ⟨least, readLower⟩ := parameterWorth_eq_ok isLower
  obtain ⟨most, readUpper⟩ := parameterWorth_eq_ok isUpper
  have enough : 2 ≤ call.parameters.length := by
    simp [given]
  rw [Answers, between, needed_eq_ok enough, Outcome.ok_bind, ← size_isOk_iff, given]
  apply Outcome.isOk_bind_iff
  intro size
  simp only [List.headD_cons, readLower, Outcome.ok_bind]
  split
  · simp [readUpper]
  · simp

private theorem writtenText_isOk_iff {value : Value} :
    (∃ text, value.writtenText = .ok text) ↔ value.isWritable = true := by
  unfold Value.writtenText
  split <;> simp_all

private theorem hasDigits_isOk {text count : String} {number : Int}
    (read : Number.readInt? count = some number) : ∃ answer, hasDigits text count = .ok answer := by
  unfold hasDigits
  split
  · exact ⟨_, rfl⟩
  · simp [read]

private theorem answers_digits {count : String} {number : Int}
    (given : call.parameters = count :: rest)
    (read : Number.readInt? count = some number) :
    Answers digits call ↔ ¬ LongNumber call := by
  have enough : 1 ≤ call.parameters.length := by
    simp [given]
  rw [Answers, digits, needed_eq_ok enough, Outcome.ok_bind, given, LongNumber]
  cases isValue : call.value with
  | int value =>
      simp only [List.headD_cons]
      rw [Outcome.isOk_bind_iff fun text => hasDigits_isOk read, writtenText_isOk_iff]
      simp
  | text text =>
      simpa using hasDigits_isOk read
  | _ =>
      simp

private theorem answers_alphaNum : Answers alphaNum call ↔ ¬ LongNumber call := by
  rw [Answers, alphaNum, LongNumber]
  cases isValue : call.value with
  | int value =>
      have short :
          (¬ ∃ other, Value.int value = .int other ∧ (Value.int other).isWritable = false) ↔
            ∃ text, (Value.int value).writtenText = .ok text := by
        rw [writtenText_isOk_iff]
        simp
      rw [short]
      exact Outcome.isOk_bind_iff fun _ => ⟨_, rfl⟩
  | _ =>
      simp

/-! ## Searches for patterns -/

private theorem found_isOk_iff {source text : String} {pattern : Pattern}
    (compiles : Pattern.ofValue (.text source) = .ok pattern) :
    (∃ answer, Pattern.found (.text source) text = .ok answer) ↔
      pattern.isFoundIn text ≠ .error .crossedCapture := by
  rw [Pattern.found, compiles, Outcome.ok_bind]
  split <;> simp_all

/-- No search breaks off if the one in the text that can be searched has an answer. -/
theorem not_brokenSearch_iff {source text : String} {pattern : Pattern}
    (given : call.parameters = source :: rest)
    (compiles : Pattern.ofValue (.text source) = .ok pattern)
    (searched : ∀ other, Searched call.value other ↔ other = text) :
    ¬ BrokenSearch call ↔ ∃ answer, Pattern.found (.text source) text = .ok answer := by
  rw [found_isOk_iff compiles]
  apply not_congr
  constructor
  · rintro ⟨_, _, other, found, same, otherCompiles, isSearched, broken⟩
    rw [given] at same
    cases same
    rw [compiles] at otherCompiles
    cases otherCompiles
    rw [(searched found).mp isSearched] at broken
    exact broken
  · intro broken
    exact ⟨source, rest, pattern, text, given, compiles, (searched text).mpr rfl, broken⟩

private theorem answers_regex {source : String} {pattern : Pattern}
    (given : call.parameters = source :: rest)
    (compiles : Pattern.ofValue (.text source) = .ok pattern) :
    Answers regex call ↔ ¬ LongNumber call ∧ ¬ BrokenSearch call := by
  have enough : 1 ≤ call.parameters.length := by
    simp [given]
  rw [Answers, regex, needed_eq_ok enough, Outcome.ok_bind, given]
  have short (notInt : ∀ value, call.value ≠ .int value) : ¬ LongNumber call :=
    fun ⟨value, isInt, _⟩ => notInt value isInt
  cases isValue : call.value with
  | text text =>
      have searched : ∀ other, Searched call.value other ↔ other = text := by
        intro other
        rw [isValue]
        exact ⟨fun isSearched => by cases isSearched; rfl, fun same => same ▸ .text text⟩
      rw [not_brokenSearch_iff given compiles searched]
      exact (and_iff_right (short (by simp [isValue]))).symm
  | double value =>
      have searched : ∀ other, Searched call.value other ↔
          other = (Value.double value).toText := by
        intro other
        rw [isValue]
        exact ⟨fun isSearched => by cases isSearched; rfl, fun same => same ▸ .double value⟩
      rw [not_brokenSearch_iff given compiles searched]
      exact (and_iff_right (short (by simp [isValue]))).symm
  | int value =>
      cases written : (Value.int value).writtenText with
      | ok text =>
          have searched : ∀ other, Searched call.value other ↔ other = text := by
            intro other
            rw [isValue]
            constructor
            · intro isSearched
              cases isSearched with
              | int isWritten =>
                  exact Except.ok.inj (isWritten.symm.trans written)
            · rintro rfl
              exact .int written
          have writable := writtenText_isOk_iff.mp ⟨text, written⟩
          rw [not_brokenSearch_iff given compiles searched]
          simp [LongNumber, isValue, writable, written]
      | error error =>
          have long : LongNumber call := by
            refine ⟨value, isValue, ?_⟩
            rw [← Bool.not_eq_true, ← writtenText_isOk_iff]
            simp [written]
          simp [long, written]
  | _ =>
      have noSearch : ¬ BrokenSearch call := by
        rintro ⟨_, _, _, _, _, _, isSearched, _⟩
        rw [isValue] at isSearched
        cases isSearched
      simp [noSearch, short, isValue]

/-! ## Choices -/

private theorem longAmong_nil (listed : Bool) : ¬ LongAmong call listed [] :=
  not_comesTo_nil

private theorem longAmong_cons {listed : Bool} {item : Value} {items : List Value} :
    LongAmong call listed (item :: items) ↔ item.isWritable = false ∨
      call.parameters.contains item.ruleText = listed ∧ LongAmong call listed items :=
  comesTo_cons

private theorem isListed_eq {item : Value} (writable : item.isWritable = true) :
    isListed call item = .ok (call.parameters.contains item.ruleText) := by
  simp [isListed, Value.writtenText, writable]

private theorem isListed_eq_error {item : Value} (tooLong : item.isWritable = false) :
    isListed call item = .error .badValue := by
  simp [isListed, Value.writtenText, tooLong]

/-- One value is looked up unless it has too many digits. -/
theorem isListed_isOk_iff (listed : Bool) {item : Value} :
    (∃ answer, isListed call item = .ok answer) ↔ ¬ LongAmong call listed [item] := by
  rw [longAmong_cons]
  cases writable : item.isWritable with
  | true =>
      simp [isListed_eq writable, longAmong_nil]
  | false =>
      simp [isListed_eq_error writable]

private theorem allListed_isOk_iff {listed : Bool} {items : List Value} :
    (∃ answer, allListed call listed items = .ok answer) ↔ ¬ LongAmong call listed items := by
  induction items with
  | nil =>
      simp [allListed, longAmong_nil]
  | cons item items inductionHypothesis =>
      rw [longAmong_cons, allListed]
      cases writable : item.isWritable with
      | true =>
          rw [isListed_eq writable, Outcome.ok_bind]
          by_cases decided : call.parameters.contains item.ruleText = listed
          · rw [if_pos (beq_iff_eq.mpr decided), inductionHypothesis, and_iff_right decided]
            simp
          · rw [if_neg (mt eq_of_beq decided)]
            exact iff_of_true ⟨_, rfl⟩ (by simp [-List.contains_eq_mem, decided])
      | false =>
          simp [isListed_eq_error writable]

private theorem answers_oneOf : Answers oneOf call ↔ ¬ LongChoice call "in" := by
  rw [Answers, oneOf, LongChoice]
  cases isValue : call.value with
  | list items =>
      exact allListed_isOk_iff
  | tuple items =>
      exact allListed_isOk_iff
  | map entries =>
      simp [choices, longAmong_nil]
  | keyed entries =>
      simp [choices, longAmong_nil]
  | set items =>
      simp [choices, longAmong_nil]
  | _ =>
      exact isListed_isOk_iff true

private theorem answers_notOneOf : Answers notOneOf call ↔ ¬ LongChoice call "not_in" := by
  rw [Answers, notOneOf, LongChoice]
  cases isValue : call.value with
  | list items =>
      exact allListed_isOk_iff
  | tuple items =>
      exact allListed_isOk_iff
  | _ =>
      rw [Outcome.isOk_map_iff]
      exact isListed_isOk_iff false

/-! ## Rules that depend on another field -/

private theorem isCandidate_isOk_iff {value : Value} (candidate : String) :
    (∃ answer, isCandidate value candidate = .ok answer) ↔ value.isWritable = true := by
  unfold isCandidate
  split
  · simp [Value.isWritable]
  · simp [Value.isWritable]
  · simp [Value.isWritable]
  · rw [← writtenText_isOk_iff]
    exact Outcome.isOk_bind_iff fun _ => ⟨_, rfl⟩

/-- A value is compared to candidates, at least one, unless it has too many digits. -/
theorem matchesAny_isOk_iff {value : Value} (candidate : String) (candidates : List String) :
    (∃ answer, matchesAny value (candidate :: candidates) = .ok answer) ↔
      value.isWritable = true := by
  rw [← isCandidate_isOk_iff candidate]
  -- Whether a candidate can be compared does not depend on the candidate, so the first one decides.
  induction candidates generalizing candidate with
  | nil =>
      rw [matchesAny]
      apply Outcome.isOk_bind_iff
      intro same
      cases same <;> simp [matchesAny]
  | cons next others inductionHypothesis =>
      rw [matchesAny]
      cases compared : isCandidate value candidate with
      | error error =>
          simp
      | ok same =>
          have writable := (isCandidate_isOk_iff candidate).mp ⟨same, compared⟩
          have nextCompared := (isCandidate_isOk_iff next).mpr writable
          have continues := (inductionHypothesis next).mpr nextCompared
          cases same with
          | true =>
              simp
          | false =>
              simpa using continues

/-- The other field is looked at unless its value has too many digits. -/
theorem otherMatches_isOk_iff {rule field candidate : String} {candidates : List String}
    (given : call.parameters = field :: candidate :: candidates) :
    (∃ answer, otherMatches call rule = .ok answer) ↔ ¬ LongOther call := by
  have enough : 2 ≤ call.parameters.length := by
    simp [given]
  rw [otherMatches, needed_eq_ok enough, Outcome.ok_bind, LongOther, given]
  simp only
  rw [matchesAny_isOk_iff]
  simp

private theorem answers_requiredIf {field candidate : String} {candidates : List String}
    (given : call.parameters = field :: candidate :: candidates) :
    Answers requiredIf call ↔ ¬ LongOther call := by
  rw [← otherMatches_isOk_iff given, Answers, requiredIf]
  exact Outcome.isOk_bind_iff fun answer => ⟨_, rfl⟩

private theorem answers_prohibitedIf {field candidate : String} {candidates : List String}
    (given : call.parameters = field :: candidate :: candidates) :
    Answers prohibitedIf call ↔ ¬ LongOther call := by
  rw [← otherMatches_isOk_iff given, Answers, prohibitedIf]
  exact Outcome.isOk_bind_iff fun answer => ⟨_, rfl⟩

/-! ## All rules -/

private theorem get?_marker {name : String} (isMarker : name ∈ Engine.markers) :
    standard.get? name = none := by
  simp only [Engine.markers, List.mem_cons, List.not_mem_nil, or_false] at isMarker
  rcases isMarker with rfl | rfl | rfl <;> rfl

/-- A rule with the parameters that it asks for has an answer unless there is an obstacle. -/
theorem answers_iff {rule : Rule.Invocation} {check : Check} (wellFormed : rule.WellFormed)
    (known : standard.get? rule.name = some check) (given : call.parameters = rule.parameters) :
    Answers check call ↔ ¬ Obstacle call rule.name := by
  cases wellFormed with
  | marker isMarker =>
      have unknown := get?_marker isMarker
      rw [known] at unknown
      cases unknown
  | unconditional isUnconditional =>
      exact iff_of_true (answers_of_unconditional isUnconditional known)
        (not_obstacle_of_unconditional isUnconditional)
  | bound isName isBound =>
      simp only [List.mem_cons, List.not_mem_nil, or_false] at isName
      rcases isName with rfl | rfl
      · cases known
        rw [answers_min given isBound]
        simp [Obstacle]
      · cases known
        rw [answers_max given isBound]
        simp [Obstacle]
  | between isLower isUpper =>
      cases known
      rw [answers_between given isLower isUpper]
      simp [Obstacle]
  | digits read =>
      cases known
      rw [answers_digits given read]
      simp [Obstacle]
  | alphaNum =>
      cases known
      rw [answers_alphaNum]
      simp [Obstacle]
  | choice isName =>
      simp only [List.mem_cons, List.not_mem_nil, or_false] at isName
      rcases isName with rfl | rfl
      · cases known
        rw [answers_oneOf]
        simp [Obstacle]
      · cases known
        rw [answers_notOneOf]
        simp [Obstacle]
  | dependent isName =>
      simp only [List.mem_cons, List.not_mem_nil, or_false] at isName
      rcases isName with rfl | rfl
      · cases known
        rw [answers_requiredIf given]
        simp [Obstacle]
      · cases known
        rw [answers_prohibitedIf given]
        simp [Obstacle]
  | regex compiles =>
      cases known
      rw [answers_regex given compiles]
      simp [Obstacle]

end Check
end RecordSchema
