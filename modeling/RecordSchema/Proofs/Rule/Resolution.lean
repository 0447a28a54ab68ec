import Mathlib.Data.Set.List
import RecordSchema.Proofs.Check.Failures

/-!
# What applies to a field

The entries of a field come to tokens for a record: to those that each of the entries adds, and to
none of them twice.  They do so exactly if each entry adds tokens and nothing else.
-/

namespace RecordSchema

namespace Text

variable {α : Type} [BEq α]

private theorem pairwise_distinct (items : List α) :
    (distinct items).Pairwise fun earlier later => (later == earlier) = false := by
  induction items with
  | nil =>
      exact .nil
  | cons item rest inductionHypothesis =>
      refine List.pairwise_cons.mpr ⟨fun other member => ?_, inductionHypothesis.filter _⟩
      simpa using (List.mem_filter.mp member).2

/-- What holds of the elements that are left holds of those that are left out, if it holds of all
that are the same. -/
theorem forall_mem_of_distinct {feature : α → Prop}
    (alike : ∀ left right, (left == right) = true → feature right → feature left) {items : List α}
    (holds : ∀ item ∈ distinct items, feature item) : ∀ item ∈ items, feature item := by
  induction items with
  | nil =>
      exact List.forall_mem_nil _
  | cons first rest inductionHypothesis =>
      obtain ⟨holdsFirst, holdsRest⟩ := List.forall_mem_cons.mp holds
      refine List.forall_mem_cons.mpr ⟨holdsFirst, inductionHypothesis fun item member => ?_⟩
      by_cases same : (item == first) = true
      · exact alike item first same holdsFirst
      · exact holdsRest item (List.mem_filter.mpr ⟨member, by simpa using same⟩)

end Text

theorem Value.eq_text_of_agrees_text {value : Value} {token : String}
    (same : value.agrees (.text token) = true) : value = .text token := by
  cases value with
  | text other =>
      have equal : other = token := by
        simpa using same
      rw [equal]
  | _ =>
      simp [agrees, isSameNan, equals, numeral?] at same

namespace RuleEntry

variable {entries : List RuleEntry} {closures : Rule.Closures} {record : Fields Value}

def Adds (closures : Rule.Closures) (record : Fields Value) (entry : RuleEntry)
    (token : String) : Prop :=
  ∃ values, entry.contribution closures record = .ok values ∧ .text token ∈ values

def AddsTokens (closures : Rule.Closures) (record : Fields Value) (entry : RuleEntry) : Prop :=
  ∃ tokens : List String, entry.contribution closures record = .ok (tokens.map .text)

private theorem mem_contributions_iff {values : List Value}
    (collected : contributions closures record entries = .ok values) {value : Value} :
    value ∈ values ↔
      ∃ entry ∈ entries, ∃ added,
        entry.contribution closures record = .ok added ∧ value ∈ added := by
  induction entries generalizing values with
  | nil =>
      cases collected
      simp
  | cons entry rest inductionHypothesis =>
      obtain ⟨here, isHere, afterHere⟩ := Outcome.bind_eq_ok_iff.mp collected
      obtain ⟨others, areOthers, isWhole⟩ := Outcome.bind_eq_ok_iff.mp afterHere
      cases isWhole
      simp [inductionHypothesis areOthers, isHere]

theorem contribution_of_contributions {values : List Value}
    (collected : contributions closures record entries = .ok values) :
    ∀ entry ∈ entries, ∃ added, entry.contribution closures record = .ok added := by
  induction entries generalizing values with
  | nil =>
      exact List.forall_mem_nil _
  | cons entry rest inductionHypothesis =>
      obtain ⟨here, isHere, afterHere⟩ := Outcome.bind_eq_ok_iff.mp collected
      obtain ⟨others, areOthers, _⟩ := Outcome.bind_eq_ok_iff.mp afterHere
      exact List.forall_mem_cons.mpr ⟨⟨here, isHere⟩, inductionHypothesis areOthers⟩

private theorem contributions_of_addsTokens
    (adds : ∀ entry ∈ entries, entry.AddsTokens closures record) :
    ∃ tokens : List String, contributions closures record entries = .ok (tokens.map .text) := by
  induction entries with
  | nil =>
      exact ⟨[], rfl⟩
  | cons entry rest inductionHypothesis =>
      obtain ⟨⟨here, isHere⟩, addsRest⟩ := List.forall_mem_cons.mp adds
      obtain ⟨others, areOthers⟩ := inductionHypothesis addsRest
      exact ⟨here ++ others, by simp [contributions, isHere, areOthers]⟩

/-- The tokens that apply to a field are those that its entries add. -/
theorem mem_resolve_iff {tokens : List String}
    (resolved : resolve closures record entries = .ok tokens) {token : String} :
    token ∈ tokens ↔ ∃ entry ∈ entries, entry.Adds closures record token := by
  obtain ⟨values, collected, areDistinct⟩ := resolve_eq_ok resolved
  have isValue : token ∈ tokens ↔ Value.text token ∈ values := by
    have isDistinct : token ∈ tokens ↔
        Value.text token ∈ @Text.distinct Value ⟨Value.agrees⟩ values := by
      simp [areDistinct]
    rw [isDistinct]
    exact ⟨@Text.mem_of_mem_distinct Value ⟨Value.agrees⟩ _ _,
      @Text.mem_distinct Value ⟨Value.agrees⟩ _ (fun _ same => Value.eq_text_of_agrees same) _⟩
  rw [isValue, mem_contributions_iff collected]
  rfl

theorem nodup_of_resolve {tokens : List String}
    (resolved : resolve closures record entries = .ok tokens) :
    tokens.Nodup := by
  obtain ⟨values, _, areDistinct⟩ := resolve_eq_ok resolved
  have apart := @Text.pairwise_distinct Value ⟨Value.agrees⟩ values
  rw [areDistinct, List.pairwise_map] at apart
  refine apart.imp fun differ same => ?_
  simp [BEq.beq, same] at differ

/-- Entries come to tokens exactly if each of them adds tokens and nothing else. -/
theorem resolve_isOk_iff :
    (∃ tokens, resolve closures record entries = .ok tokens) ↔
      ∀ entry ∈ entries, entry.AddsTokens closures record := by
  constructor
  · rintro ⟨tokens, resolved⟩ entry member
    obtain ⟨values, collected, areDistinct⟩ := resolve_eq_ok resolved
    have areTexts : ∀ value ∈ values, ∃ token, Value.text token = value := by
      refine @Text.forall_mem_of_distinct Value ⟨Value.agrees⟩ _ ?_ values ?_
      · rintro left _ same ⟨token, rfl⟩
        exact ⟨token, (Value.eq_text_of_agrees_text same).symm⟩
      · rw [areDistinct]
        intro value isText
        obtain ⟨token, _, rfl⟩ := List.mem_map.mp isText
        exact ⟨token, rfl⟩
    obtain ⟨added, isAdded⟩ := contribution_of_contributions collected entry member
    obtain ⟨own, rfl⟩ : added ∈ Set.range (List.map Value.text) := by
      rw [Set.range_list_map]
      intro value isValue
      exact areTexts value
        ((mem_contributions_iff collected).mpr ⟨entry, member, added, isAdded, isValue⟩)
    exact ⟨own, isAdded⟩
  · intro adds
    obtain ⟨tokens, collected⟩ := contributions_of_addsTokens adds
    exact ⟨Text.distinct tokens, resolve_of_contributions tokens collected⟩

end RuleEntry
end RecordSchema
