import RecordSchema.Proofs.Outcome
import RecordSchema.Property.Acceptance

/-!
# Which values are accepted

A property asks one question of a value after the other and answers at the first that decides.  It
accepts a value exactly if no rule about siblings asks for a value that is missing, and the value is
absent or empty where it may be, or fits what the property says about values that are present.
Bounds are among the last questions, and are asked only where the primary type has numbers.
-/

namespace RecordSchema.Facets

variable {facets : Facets} {value context : Value}

/-! ## Rules about siblings -/

/-- A rule about siblings asks for a value. -/
def IsAskedFor (facets : Facets) (context : Value) : Prop :=
  ∃ rule ∈ facets.conditionals, rule.requiresValue? (context.orElse (.map [])) = some (.ok true)

private theorem lacksForSiblings_cons (rule : ConditionalRule) (rest : List ConditionalRule) :
    lacksForSiblings context value (rule :: rest) =
      match rule.requiresValue? context with
      | none => lacksForSiblings context value rest
      | some required => required >>= fun asks =>
        if asks && value.isBlank then .ok true else lacksForSiblings context value rest := rfl

/-- A walk through rules that comes to an end finds a value missing exactly if there is none and
some rule asks for one. -/
theorem lacksForSiblings_iff {rules : List ConditionalRule} {lacks : Bool}
    (returns : lacksForSiblings context value rules = .ok lacks) :
    lacks = true ↔
      value.isBlank = true ∧ ∃ rule ∈ rules, rule.requiresValue? context = some (.ok true) := by
  induction rules with
  | nil =>
      cases returns
      simp
  | cons rule rest inductionHypothesis =>
      rw [lacksForSiblings_cons] at returns
      simp only [List.mem_cons, exists_eq_or_imp]
      cases requires : rule.requiresValue? context with
      | none =>
          rw [requires] at returns
          simpa using inductionHypothesis returns
      | some required =>
          rw [requires] at returns
          obtain ⟨asks, rfl, later⟩ := Outcome.bind_eq_ok_iff.mp returns
          by_cases decides : (asks && value.isBlank) = true
          · rw [if_pos decides] at later
            cases later
            simp_all
          · rw [if_neg decides] at later
            rw [inductionHypothesis later]
            cases asks with
            | false => simp
            | true => simp_all

/-- Rules behind others are only asked when those have found nothing missing. -/
theorem lacksForSiblings_append (first second : List ConditionalRule) :
    lacksForSiblings context value (first ++ second) =
      lacksForSiblings context value first >>= fun lacks =>
        if lacks then .ok true else lacksForSiblings context value second := by
  induction first with
  | nil =>
      rfl
  | cons rule rest inductionHypothesis =>
      rw [List.cons_append, lacksForSiblings_cons, lacksForSiblings_cons]
      cases rule.requiresValue? context with
      | none =>
          exact inductionHypothesis
      | some required =>
          cases required with
          | error error =>
              rfl
          | ok asks =>
              simp only [Outcome.ok_bind]
              split
              · rfl
              · exact inductionHypothesis

/-! ## Values that are present -/

/-- Whether a value is within the bounds, if it is a number and the declared type has bounds. -/
def isInBounds (facets : Facets) (value : Value) : Except Error Bool :=
  if facets.hasBounds && value.isNumber then facets.withinBounds value else .ok true

/-- Whether a text is a mail address, if the property asks for one. -/
def isAddressed (facets : Facets) (value : Value) : Bool :=
  match value with
  | .text text => !facets.rules.contains "email" || Format.isEmail text
  | _ => true

theorem acceptsPresent_eq (facets : Facets) (value : Value) :
    facets.acceptsPresent value =
      if !facets.declared.accepts value then .ok false
      else facets.matchesPattern value >>= fun matched =>
        if !matched then .ok false
        else facets.isInBounds value >>= fun within =>
          if !within then .ok false else .ok (facets.isAddressed value) := by
  unfold acceptsPresent isInBounds
  by_cases numeric : (facets.hasBounds && value.isNumber) = true
  · rw [if_pos numeric, if_pos numeric]
    cases value <;> rfl
  · rw [if_neg numeric, if_neg numeric]
    cases value <;> rfl

theorem acceptsPresent_congr {other : Facets}
    (type : other.declared.accepts value = facets.declared.accepts value)
    (pattern : other.matchesPattern value = facets.matchesPattern value)
    (bounds : other.isInBounds value = facets.isInBounds value)
    (mail : other.isAddressed value = facets.isAddressed value) :
    other.acceptsPresent value = facets.acceptsPresent value := by
  rw [acceptsPresent_eq, acceptsPresent_eq, type, pattern, bounds, mail]

/-- A question that turns a value down unless it is answered with yes. -/
theorem guard_iff {question next : Except Error Bool} :
    (question >>= fun passes => if !passes then .ok false else next) = .ok true ↔
      question = .ok true ∧ next = .ok true := by
  cases question with
  | error error => simp
  | ok passes => cases passes <;> simp

theorem withinBounds_iff :
    facets.withinBounds value = .ok true ↔
      withinBound .less value facets.minimum = .ok true ∧
        withinBound .greater value facets.maximum = .ok true := by
  unfold withinBounds
  cases withinBound .less value facets.minimum with
  | error error => simp
  | ok above => cases above <;> simp

/-- What a property says about values that are present. -/
structure Fits (facets : Facets) (value : Value) : Prop where
  type : facets.declared.accepts value = true
  pattern : facets.matchesPattern value = .ok true
  bounds : facets.isInBounds value = .ok true
  mail : facets.isAddressed value = true

private theorem acceptsPresent_iff :
    facets.acceptsPresent value = .ok true ↔ facets.Fits value := by
  rw [acceptsPresent_eq]
  cases type : facets.declared.accepts value with
  | false =>
      constructor
      · intro accepted
        cases accepted
      · intro fits
        cases type.symm.trans fits.type
  | true =>
      simp only [Bool.not_true, Bool.false_eq_true, if_false, guard_iff, Except.ok.injEq]
      constructor
      · rintro ⟨pattern, bounds, mail⟩
        exact ⟨type, pattern, bounds, mail⟩
      · intro fits
        exact ⟨fits.pattern, fits.bounds, fits.mail⟩

/-! ## All values -/

/-- What a property makes of a value that no rule about siblings asks for. -/
def verdict (facets : Facets) (value : Value) : Except Error Bool :=
  match value with
  | .null => .ok (facets.isNullable || !facets.isRequired)
  | .text "" => .ok !facets.isRequired
  | present => facets.acceptsPresent present

theorem accepts_eq (facets : Facets) (value context : Value) :
    facets.accepts value context =
      lacksForSiblings (context.orElse (.map [])) value facets.conditionals >>= fun lacks =>
        if lacks then .ok false else facets.verdict value := rfl

theorem verdict_of_present (present : value.isBlank = false) :
    facets.verdict value = facets.acceptsPresent value := by
  unfold verdict
  split
  · cases present
  · cases present
  · rfl

theorem verdict_congr {other : Facets}
    (absent : value = .null → other.isNullable = facets.isNullable)
    (required : other.isRequired = facets.isRequired)
    (present : value.isBlank = false → other.acceptsPresent value = facets.acceptsPresent value) :
    other.verdict value = facets.verdict value := by
  cases blank : value.isBlank with
  | false =>
      rw [verdict_of_present blank, verdict_of_present blank, present blank]
  | true =>
      cases value with
      | null =>
          rw [verdict, verdict, absent rfl, required]
      | text text =>
          cases beq_iff_eq.mp blank
          rw [verdict, verdict, required]
      | _ =>
          cases blank

/-- A value may be what it is, apart from rules about siblings. -/
inductive Admits (facets : Facets) : Value → Prop
  | absent : facets.isNullable = true ∨ facets.isRequired = false → Admits facets .null
  | empty : facets.isRequired = false → Admits facets (.text "")
  | present {value : Value} : value.isBlank = false → facets.Fits value → Admits facets value

private theorem verdict_iff : facets.verdict value = .ok true ↔ facets.Admits value := by
  constructor
  · intro accepted
    cases blank : value.isBlank with
    | false =>
        rw [verdict_of_present blank] at accepted
        exact .present blank (acceptsPresent_iff.mp accepted)
    | true =>
        cases value with
        | null =>
            exact .absent (by simpa [verdict] using accepted)
        | text text =>
            cases beq_iff_eq.mp blank
            exact .empty (by simpa [verdict] using accepted)
        | _ =>
            cases blank
  · intro admits
    cases admits with
    | absent optional => simpa [verdict] using optional
    | empty optional => simpa [verdict] using optional
    | present present fits =>
        rw [verdict_of_present present]
        exact acceptsPresent_iff.mpr fits

/-- A value is accepted exactly if no rule about siblings finds it missing and the property admits
it. -/
theorem accepts_iff :
    facets.accepts value context = .ok true ↔
      lacksForSiblings (context.orElse (.map [])) value facets.conditionals = .ok false ∧
        facets.Admits value := by
  rw [accepts_eq, Outcome.bind_eq_ok_iff, ← verdict_iff]
  constructor
  · rintro ⟨lacks, walked, decided⟩
    cases lacks with
    | true => cases decided
    | false => exact ⟨walked, decided⟩
  · rintro ⟨walked, decided⟩
    exact ⟨false, walked, decided⟩

end RecordSchema.Facets
