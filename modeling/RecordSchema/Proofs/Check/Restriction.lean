import RecordSchema.Proofs.Check.Failures

/-!
# Tables without some of their tokens

Tokens may be taken out of a table, out of its rule sets as well.  What applies to a field is then
what applied before, less these tokens, and where nothing could be found out before, the same error
is in the way.
-/

namespace RecordSchema

private theorem Text.distinct_filter {α : Type} [BEq α] {kept : α → Bool}
    (alike : ∀ left right, (left == right) = true → kept left = kept right) (items : List α) :
    distinct (items.filter kept) = (distinct items).filter kept := by
  induction items with
  | nil =>
      rfl
  | cons first rest inductionHypothesis =>
      by_cases isKept : kept first = true
      · simp only [List.filter_cons_of_pos isKept, distinct, inductionHypothesis,
          List.filter_filter, Bool.and_comm]
      · rw [List.filter_cons_of_neg isKept, inductionHypothesis, distinct,
          List.filter_cons_of_neg isKept, List.filter_filter]
        refine List.filter_congr fun other _ => ?_
        cases same : other == first with
        | true =>
            simp [alike other first same, isKept]
        | false =>
            simp

namespace RuleEntry

/-- Anything but a token that is to be taken out. -/
def keepsValue (kept : String → Bool) : Value → Bool
  | .text name => kept name
  | _ => true

/-- An entry less the tokens that are not kept, or nothing if it was one of these. -/
def restrict? (kept : String → Bool) : RuleEntry → Option RuleEntry
  | .token text => if kept text then some (.token text) else none
  | .stray value => if keepsValue kept value then some (.stray value) else none
  | .ruleSet set => some (.ruleSet { set with rules := set.rules.filter kept })

variable {kept : String → Bool} {closures : Rule.Closures} {record : Fields Value}

private theorem keepsValue_of_agrees (left right : Value) (same : left.agrees right = true) :
    keepsValue kept left = keepsValue kept right := by
  cases left with
  | text name =>
      rw [Value.eq_text_of_agrees same]
  | _ =>
      cases right with
      | text name =>
          simp [Value.agrees, Value.isSameNan, Value.equals, Value.numeral?] at same
      | _ =>
          rfl

private theorem filter_keepsValue_texts (tokens : List String) :
    (tokens.map Value.text).filter (keepsValue kept) = (tokens.filter kept).map .text := by
  rw [List.filter_map]
  rfl

private theorem contribution_ruleSet_restrict (set : RuleSet) :
    (RuleEntry.ruleSet { set with rules := set.rules.filter kept }).contribution closures record =
      ((RuleEntry.ruleSet set).contribution closures record).map
        (List.filter (keepsValue kept)) := by
  simp only [contribution, RuleSet.resolve]
  cases set.condition.holds closures record with
  | error error =>
      rfl
  | ok holds =>
      cases holds with
      | true =>
          simp [filter_keepsValue_texts]
      | false =>
          simp

private theorem contributions_restrict (entries : List RuleEntry) :
    contributions closures record (entries.filterMap (restrict? kept)) =
      (contributions closures record entries).map (List.filter (keepsValue kept)) := by
  induction entries with
  | nil =>
      rfl
  | cons entry rest inductionHypothesis =>
      have single (value : Value) (isValue : entry.contribution closures record = .ok [value])
          (restricted : restrict? kept entry = if keepsValue kept value then some entry else none) :
          contributions closures record ((entry :: rest).filterMap (restrict? kept)) =
            (contributions closures record (entry :: rest)).map
              (List.filter (keepsValue kept)) := by
        rw [List.filterMap_cons, restricted]
        cases isKept : keepsValue kept value with
        | true =>
            simp only [if_true, contributions, isValue, inductionHypothesis, Outcome.ok_bind]
            cases contributions closures record rest <;> simp [isKept]
        | false =>
            simp only [Bool.false_eq_true, if_false, contributions, isValue, inductionHypothesis,
              Outcome.ok_bind]
            cases contributions closures record rest <;> simp [isKept]
      cases entry with
      | token text =>
          exact single (.text text) rfl rfl
      | stray value =>
          exact single value rfl rfl
      | ruleSet set =>
          simp only [restrict?, List.filterMap_cons, contributions, inductionHypothesis,
            contribution_ruleSet_restrict]
          cases (RuleEntry.ruleSet set).contribution closures record with
          | error error =>
              rfl
          | ok values =>
              cases contributions closures record rest <;> simp

/-- Texts can be told apart by any set, so taking some out changes nothing there. -/
theorem allHashable_filter (values : List Value) :
    Value.allHashable (values.filter (keepsValue kept)) = Value.allHashable values := by
  induction values with
  | nil =>
      rfl
  | cons value rest inductionHypothesis =>
      cases isKept : keepsValue kept value with
      | true =>
          simp [isKept, Value.allHashable, inductionHypothesis]
      | false =>
          cases value with
          | text name =>
              simp [isKept, Value.allHashable, Value.isHashable, inductionHypothesis]
          | _ =>
              cases isKept

private theorem tokensOf_filter (values : List Value) :
    tokensOf (values.filter (keepsValue kept)) = (tokensOf values).map (List.filter kept) := by
  induction values with
  | nil =>
      rfl
  | cons value rest inductionHypothesis =>
      cases value with
      | text name =>
          cases isKept : kept name with
          | true =>
              have keepsFirst : keepsValue kept (.text name) = true := isKept
              rw [List.filter_cons_of_pos keepsFirst, tokensOf, tokensOf, inductionHypothesis]
              cases tokensOf rest <;> simp [isKept]
          | false =>
              have takenOut : ¬ keepsValue kept (.text name) = true := by
                simp [keepsValue, isKept]
              rw [List.filter_cons_of_neg takenOut, tokensOf, inductionHypothesis]
              cases tokensOf rest <;> simp [isKept]
      | _ =>
          rfl

/-- What applies to a field whose entries have lost some tokens is what applied before, less these
tokens. -/
theorem resolve_restrict (entries : List RuleEntry) :
    resolve closures record (entries.filterMap (restrict? kept)) =
      (resolve closures record entries).map (List.filter kept) := by
  simp only [resolve, resolveValues, contributions_restrict]
  cases contributions closures record entries with
  | error error =>
      rfl
  | ok values =>
      simp only [Outcome.map_ok, Outcome.ok_bind, distinctValues, allHashable_filter]
      split
      · rw [@Text.distinct_filter Value ⟨Value.agrees⟩ _ keepsValue_of_agrees]
        exact tokensOf_filter _
      · rfl

end RuleEntry

def RuleTable.restrict (kept : String → Bool) (table : RuleTable) : RuleTable :=
  table.map fun row => (row.1, row.2.filterMap (RuleEntry.restrict? kept))

namespace Engine

variable {engine other : Engine} {wording : Message.Wording} {record : Fields Value}

/-! ## Tables with other rows -/

theorem foldl_note_row (report : Report) (field : Name) (found : List Finding) :
    (found.map (field, ·)).foldl note report =
      report.addErrors field (found.filterMap Finding.message?) := by
  induction found generalizing report with
  | nil =>
      rfl
  | cons finding rest inductionHypothesis =>
      cases finding with
      | skipped rule =>
          exact inductionHypothesis report
      | failed message =>
          exact inductionHypothesis (report.addError field (.text message))

private theorem covered_mapRows (entries : Name × List RuleEntry → List RuleEntry)
    (table : RuleTable) :
    covered record (table.map fun row => (row.1, entries row)) = covered record table := by
  rw [covered, List.filterMap_map]
  rfl

/-- Two tables about the same fields lead to the same report or to the same error, if each field
has the same messages in both or runs into the same error. -/
theorem evaluate_mapRows (entries : Name × List RuleEntry → List RuleEntry) {table : RuleTable}
    (same : ∀ row ∈ table,
      (other.findingsOn wording record (row.1, entries row)).map
          (List.filterMap Finding.message?) =
        (engine.findingsOn wording record row).map (List.filterMap Finding.message?)) :
    other.evaluate wording record (table.map fun row => (row.1, entries row)) =
      engine.evaluate wording record table := by
  have walked :
      (other.checkTable wording record (table.map fun row => (row.1, entries row))).failure =
          (engine.checkTable wording record table).failure ∧
        ((engine.checkTable wording record table).failure = none → ∀ report,
          (other.checkTable wording record
              (table.map fun row => (row.1, entries row))).state.foldl note report =
            (engine.checkTable wording record table).state.foldl note report) := by
    induction table with
    | nil =>
        exact ⟨rfl, fun _ _ => rfl⟩
    | cons row rest inductionHypothesis =>
        obtain ⟨sameRow, sameRest⟩ := List.forall_mem_cons.mp same
        obtain ⟨sameFailure, sameReport⟩ := inductionHypothesis sameRest
        rw [List.map_cons]
        rcases @checkTable_cons engine wording record row rest
          with ⟨found, isFound, walked⟩ | ⟨error, failed, walked⟩
        · rcases @checkTable_cons other wording record (row.1, entries row)
              (rest.map fun row => (row.1, entries row))
            with ⟨others, areOthers, walkedOther⟩ | ⟨error, failed, _⟩
          · rw [isFound, areOthers] at sameRow
            have sameMessages := Except.ok.inj sameRow
            rw [walked, walkedOther]
            refine ⟨sameFailure, fun finished report => ?_⟩
            simp only [Change.lift, List.foldl_append, foldl_note_row, sameMessages]
            exact sameReport finished _
          · rw [isFound, failed] at sameRow
            cases sameRow
        · rcases @checkTable_cons other wording record (row.1, entries row)
              (rest.map fun row => (row.1, entries row))
            with ⟨others, areOthers, _⟩ | ⟨otherError, otherFailed, walkedOther⟩
          · rw [failed, areOthers] at sameRow
            cases sameRow
          · rw [failed, otherFailed] at sameRow
            cases sameRow
            rw [walked, walkedOther]
            exact ⟨rfl, fun finished => by cases finished⟩
  obtain ⟨sameFailure, sameReport⟩ := walked
  rw [evaluate, evaluate, conclude, conclude, sameFailure]
  cases failure : (engine.checkTable wording record table).failure with
  | some error =>
      rfl
  | none =>
      simp only [reportOf, covered_mapRows, sameReport failure]

end Engine
end RecordSchema
