import RecordSchema.Proofs.Value.Equality

/-!
# Coherence of the order

An order relation between two values is the reversed relation between them in turn, and less than
excludes equality and greater than.  Lists come down to their first unequal members, and so do the
members in turn; where such a pair has no order, neither have the values that it was met in.
-/

namespace RecordSchema

namespace Relation

/-- The relation as it is seen from the other side. -/
def swap : Relation → Relation
  | .equal => .equal
  | .notEqual => .notEqual
  | .less => .greater
  | .lessOrEqual => .greaterOrEqual
  | .greater => .less
  | .greaterOrEqual => .lessOrEqual

def orders : List Relation :=
  [.less, .lessOrEqual, .greater, .greaterOrEqual]

private theorem swap_allows (relation : Relation) (order : Ordering) :
    relation.swap.allows order.swap = relation.allows order := by
  cases relation <;> cases order <;> rfl

end Relation

private theorem Date.swap_order (left right : Date) :
    (left.order right).swap = right.order left := by
  simp [Date.order, Ordering.swap_then, Nat.compare_swap]

private theorem Date.order_self (date : Date) : date.order date = .eq := by
  simp [Date.order]

/-- Numbers without doubles compare like integers. -/
theorem Numeral.swap_compare?_int (left right : Int) :
    ((Numeral.int left).compare? (.int right)).map Ordering.swap =
      (Numeral.int right).compare? (.int left) := by
  simp [Numeral.compare?, Int.compare_swap]

namespace Value

private theorem compareTexts_self (text : String) : compareTexts text text = .eq :=
  if_pos rfl

private theorem swap_compareTexts (left right : String) :
    (compareTexts left right).swap = compareTexts right left := by
  unfold compareTexts
  by_cases same : left = right
  · rw [if_pos same, if_pos same.symm]
    rfl
  rw [if_neg same, if_neg (Ne.symm same)]
  by_cases less : left < right
  · rw [if_pos less, if_neg (String.lt_asymm less)]
    rfl
  · have greater : right < left := by
      refine Decidable.byContradiction fun notGreater => same ?_
      exact String.le_antisymm (String.not_lt.mp notGreater) (String.not_lt.mp less)
    rw [if_neg less, if_pos greater]
    rfl

/-! ## Kinds with an order -/

/-- Two values of one of the kinds that have an order. -/
inductive SharesOrder : Value → Value → Prop
  | numbers {left right : Value} {number other : Numeral} (isNumber : left.numeral? = some number)
      (isOther : right.numeral? = some other) : SharesOrder left right
  | texts (left right : String) : SharesOrder (.text left) (.text right)
  | dates (left right : Date) : SharesOrder (.date left) (.date right)
  | lists (left right : List Value) : SharesOrder (.list left) (.list right)
  | tuples (left right : List Value) : SharesOrder (.tuple left) (.tuple right)
  | sets (left right : List Value) : SharesOrder (.set left) (.set right)

variable {left right : Value} {relation : Relation}

theorem SharesOrder.symm (shares : SharesOrder left right) : SharesOrder right left := by
  cases shares with
  | numbers isNumber isOther =>
      exact .numbers isOther isNumber
  | texts left right =>
      exact .texts right left
  | dates left right =>
      exact .dates right left
  | lists left right =>
      exact .lists right left
  | tuples left right =>
      exact .tuples right left
  | sets left right =>
      exact .sets right left

private theorem ordered?_of_not_sharesOrder (apart : ¬SharesOrder left right) :
    ordered? relation left right = none := by
  unfold ordered?
  split
  · next left right =>
      exact absurd (.texts left right) apart
  · next left right =>
      exact absurd (.lists left right) apart
  · next left right =>
      exact absurd (.tuples left right) apart
  · next left right =>
      exact absurd (.sets left right) apart
  · next left right =>
      exact absurd (.dates left right) apart
  · split
    · next isNumber isOther =>
        exact absurd (.numbers isNumber isOther) apart
    · rfl

private theorem ordered?_of_numbers {number other : Numeral}
    (isNumber : left.numeral? = some number)
    (isOther : right.numeral? = some other) : ordered? relation left right =
      some (((number.compare? other).map relation.allows).getD false) := by
  unfold ordered?
  split <;> simp_all [numeral?]

/-- Whatever holds of all pairs without an order, of numbers, texts, dates and sets, and of lists
if it holds of their members, holds of all values. -/
@[elab_as_elim]
theorem order_induction {motive : Value → Value → Prop}
    (apart : ∀ left right, ¬SharesOrder left right → motive left right)
    (numbers : ∀ left right number other, left.numeral? = some number →
      right.numeral? = some other → motive left right)
    (texts : ∀ left right, motive (.text left) (.text right))
    (dates : ∀ left right, motive (.date left) (.date right))
    (sets : ∀ left right, motive (.set left) (.set right))
    (lists : ∀ left right, (∀ item ∈ left, ∀ other ∈ right, motive item other) →
      motive (.list left) (.list right))
    (tuples : ∀ left right, (∀ item ∈ left, ∀ other ∈ right, motive item other) →
      motive (.tuple left) (.tuple right))
    (left right : Value) : motive left right := by
  by_cases shares : SharesOrder left right
  · cases shares with
    | numbers isNumber isOther =>
        exact numbers _ _ _ _ isNumber isOther
    | texts left right =>
        exact texts left right
    | dates left right =>
        exact dates left right
    | sets left right =>
        exact sets left right
    | lists left right =>
        refine lists left right fun item isItem other _ => ?_
        exact order_induction apart numbers texts dates sets lists tuples item other
    | tuples left right =>
        refine tuples left right fun item isItem other _ => ?_
        exact order_induction apart numbers texts dates sets lists tuples item other
  · exact apart left right shares
termination_by left

/-! ## Reversal -/

private theorem orderedLists?_nil_cons (other : Value) (rest : List Value) :
    orderedLists? relation [] (other :: rest) = some (relation.allows .lt) := rfl

private theorem orderedLists?_swap {left right : List Value} (free : ∀ item ∈ left, item.DoubleFree)
    (rightFree : ∀ other ∈ right, other.DoubleFree)
    (members : ∀ item ∈ left, ∀ other ∈ right, item.DoubleFree → other.DoubleFree →
      ordered? relation item other = ordered? relation.swap other item) :
    orderedLists? relation left right = orderedLists? relation.swap right left := by
  induction left generalizing right with
  | nil =>
      cases right with
      | nil =>
          exact congrArg some (relation.swap_allows .eq).symm
      | cons other otherRest =>
          exact congrArg some (relation.swap_allows .lt).symm
  | cons item rest inductionHypothesis =>
      cases right with
      | nil =>
          exact congrArg some (relation.swap_allows .gt).symm
      | cons other otherRest =>
          obtain ⟨itemFree, restFree⟩ := List.forall_mem_cons.mp free
          obtain ⟨otherFree, otherRestFree⟩ := List.forall_mem_cons.mp rightFree
          rw [orderedLists?, orderedLists?, itemFree.agrees_comm otherFree,
            members item List.mem_cons_self other List.mem_cons_self itemFree otherFree]
          split
          · refine inductionHypothesis restFree otherRestFree fun later isLater last isLast => ?_
            exact members later (List.mem_cons_of_mem _ isLater) last
              (List.mem_cons_of_mem _ isLast)
          · rfl

theorem DoubleFree.ordered?_swap (free : left.DoubleFree) (rightFree : right.DoubleFree) :
    ordered? relation left right = ordered? relation.swap right left := by
  induction left, right using order_induction with
  | apart left right apart =>
      rw [ordered?_of_not_sharesOrder apart,
        ordered?_of_not_sharesOrder (mt SharesOrder.symm apart)]
  | numbers left right number other isNumber isOther =>
      obtain ⟨value, rfl⟩ := free.eq_int_of_numeral? isNumber
      obtain ⟨otherValue, rfl⟩ := rightFree.eq_int_of_numeral? isOther
      have turned : relation.swap.allows ∘ Ordering.swap = relation.allows :=
        funext relation.swap_allows
      rw [ordered?_of_numbers isNumber isOther, ordered?_of_numbers isOther isNumber,
        ← Numeral.swap_compare?_int value otherValue, Option.map_map, turned]
  | texts left right =>
      rw [ordered?, ordered?, ← swap_compareTexts left right, relation.swap_allows]
  | dates left right =>
      rw [ordered?, ordered?, ← Date.swap_order left right, relation.swap_allows]
  | sets left right =>
      rw [ordered?, ordered?]
      have comm := free.equals_comm rightFree
      rw [equals, equals] at comm
      cases relation <;> simp [relateSets, Relation.swap, comm]
  | lists left right inductionHypothesis =>
      rw [ordered?, ordered?]
      exact orderedLists?_swap (doubleFree_list.mp free) (doubleFree_list.mp rightFree)
        inductionHypothesis
  | tuples left right inductionHypothesis =>
      rw [ordered?, ordered?]
      exact orderedLists?_swap (doubleFree_tuple.mp free) (doubleFree_tuple.mp rightFree)
        inductionHypothesis

/-! ## Strictness -/

/-- Where the first value is less, the two are in no other relation than that and its weakening. -/
structure StrictlyLess (left right : Value) : Prop where
  lessOrEqual : ordered? .lessOrEqual left right = some true
  notEqual : equals left right = false
  notGreater : ordered? .greater left right ≠ some true

/-- Only one outcome of a comparison is less. -/
theorem strictlyLess_of_order {order : Ordering}
    (decided : ∀ relation, ordered? relation left right = some (relation.allows order))
    (isEqual : equals left right = true → order = .eq)
    (less : ordered? .less left right = some true) : StrictlyLess left right := by
  have isLess : order = .lt := by
    simpa [decided, Relation.allows] using less
  subst isLess
  refine ⟨decided .lessOrEqual, ?_, ?_⟩
  · rw [Bool.eq_false_iff]
    intro same
    cases isEqual same
  · rw [decided]
    simp [Relation.allows]

private theorem strictlyLess_of_lists {left right : List Value}
    (members : ∀ item ∈ left, ∀ other ∈ right,
      ordered? .less item other = some true → StrictlyLess item other)
    (less : orderedLists? .less left right = some true) :
    orderedLists? .lessOrEqual left right = some true ∧ equalLists left right = false ∧
      orderedLists? .greater left right ≠ some true := by
  induction left generalizing right with
  | nil =>
      cases right with
      | nil =>
          simp [orderedLists?, Relation.allows] at less
      | cons other otherRest =>
          refine ⟨rfl, by simp [equalLists], ?_⟩
          simp [orderedLists?_nil_cons, Relation.allows]
  | cons item rest inductionHypothesis =>
      cases right with
      | nil =>
          simp [orderedLists?, Relation.allows] at less
      | cons other otherRest =>
          rw [orderedLists?] at less
          rw [orderedLists?, orderedLists?, equalLists_cons]
          split
          · next same =>
              rw [if_pos same] at less
              rw [same, Bool.true_and]
              refine inductionHypothesis (fun later isLater last isLast => ?_) less
              exact members later (List.mem_cons_of_mem _ isLater) last
                (List.mem_cons_of_mem _ isLast)
          · next differ =>
              rw [if_neg differ] at less
              have strict := members item List.mem_cons_self other List.mem_cons_self less
              exact ⟨strict.lessOrEqual, by rw [Bool.eq_false_iff.mpr differ, Bool.false_and],
                strict.notGreater⟩

/-- Less than implies less or equal, and excludes equality and greater than. -/
theorem strictlyLess_of_less (less : ordered? .less left right = some true) :
    StrictlyLess left right := by
  induction left, right using order_induction with
  | apart left right apart =>
      rw [ordered?_of_not_sharesOrder apart] at less
      cases less
  | numbers left right number other isNumber isOther =>
      cases outcome : number.compare? other with
      | none =>
          rw [ordered?_of_numbers isNumber isOther, outcome] at less
          cases less
      | some order =>
          have decided : ∀ relation,
              ordered? relation left right = some (relation.allows order) := by
            intro relation
            rw [ordered?_of_numbers isNumber isOther, outcome]
            rfl
          refine strictlyLess_of_order decided (fun same => ?_) less
          rw [equals_number_iff isNumber] at same
          simpa [isOther, Numeral.equals, outcome] using same
  | texts left right =>
      refine strictlyLess_of_order (fun relation => by rw [ordered?]) (fun same => ?_) less
      rw [equals_text_iff, Value.text.injEq] at same
      rw [same, compareTexts_self]
  | dates left right =>
      refine strictlyLess_of_order (fun relation => by rw [ordered?]) (fun same => ?_) less
      rw [equals_date_iff, Value.date.injEq] at same
      rw [same, Date.order_self]
  | sets left right =>
      simp only [ordered?, relateSets, Option.some.injEq, Bool.and_eq_true,
        decide_eq_true_eq] at less
      obtain ⟨shorter, included⟩ := less
      have lengthsDiffer : (left.length == right.length) = false := by
        simpa using Nat.ne_of_lt shorter
      refine ⟨?_, ?_, ?_⟩
      · rw [ordered?, relateSets, included]
      · rw [equals, lengthsDiffer, Bool.false_and]
      · simp [ordered?, relateSets, Nat.not_lt.mpr (Nat.le_of_lt shorter)]
  | lists left right inductionHypothesis =>
      rw [ordered?] at less
      obtain ⟨weaker, differ, notGreater⟩ := strictlyLess_of_lists inductionHypothesis less
      exact ⟨by rwa [ordered?], by rwa [equals], by rwa [ordered?]⟩
  | tuples left right inductionHypothesis =>
      rw [ordered?] at less
      obtain ⟨weaker, differ, notGreater⟩ := strictlyLess_of_lists inductionHypothesis less
      exact ⟨by rwa [ordered?], by rwa [equals], by rwa [ordered?]⟩

/-! ## Values without order -/

/-- The pairs that a comparison of two values comes down to: the values themselves, and what the
first unequal members of lists or of tuples come down to. -/
inductive Meets : Value → Value → Value → Value → Prop
  | here (left right : Value) : Meets left right left right
  | inLists {before otherBefore rest otherRest : List Value} {item other left right : Value}
      (same : equalLists before otherBefore = true) (differ : agrees item other = false)
      (meets : Meets item other left right) :
      Meets (.list (before ++ item :: rest)) (.list (otherBefore ++ other :: otherRest)) left right
  | inTuples {before otherBefore rest otherRest : List Value} {item other left right : Value}
      (same : equalLists before otherBefore = true) (differ : agrees item other = false)
      (meets : Meets item other left right) :
      Meets (.tuple (before ++ item :: rest)) (.tuple (otherBefore ++ other :: otherRest))
        left right

/-- Two values of different kinds or of a kind without order, or two sets neither of which is
included in the other. -/
inductive Incomparable : Value → Value → Prop
  | kinds {left right : Value} (apart : ¬SharesOrder left right) : Incomparable left right
  | sets {left right : List Value} (notWithin : includedIn left right = false)
      (notAround : includedIn right left = false) : Incomparable (.set left) (.set right)

private theorem orderedLists?_append {before otherBefore : List Value}
    (same : equalLists before otherBefore = true) {item other : Value}
    (differ : agrees item other = false) (rest otherRest : List Value) :
    orderedLists? relation (before ++ item :: rest) (otherBefore ++ other :: otherRest) =
      ordered? relation item other := by
  induction before generalizing otherBefore with
  | nil =>
      cases otherBefore with
      | nil =>
          simp [orderedLists?, differ]
      | cons first others =>
          simp [equalLists] at same
  | cons head before inductionHypothesis =>
      cases otherBefore with
      | nil =>
          simp [equalLists] at same
      | cons first others =>
          rw [equalLists_cons, Bool.and_eq_true] at same
          rw [List.cons_append, List.cons_append, orderedLists?, if_pos same.1]
          exact inductionHypothesis same.2

/-- The order of two values is the order of each pair that their comparison comes down to. -/
theorem Meets.ordered?_eq {first second : Value} (meets : Meets left right first second) :
    ordered? relation left right = ordered? relation first second := by
  induction meets with
  | here left right =>
      rfl
  | inLists same differ _ inductionHypothesis =>
      rw [ordered?, orderedLists?_append same differ, inductionHypothesis]
  | inTuples same differ _ inductionHypothesis =>
      rw [ordered?, orderedLists?_append same differ, inductionHypothesis]

theorem Incomparable.not_ordered (incomparable : Incomparable left right)
    (isOrder : relation ∈ Relation.orders) : ordered? relation left right ≠ some true := by
  cases incomparable with
  | kinds apart =>
      simp [ordered?_of_not_sharesOrder apart]
  | sets notWithin notAround =>
      simp only [Relation.orders, List.mem_cons, List.not_mem_nil, or_false] at isOrder
      rcases isOrder with rfl | rfl | rfl | rfl <;>
        simp [ordered?, relateSets, notWithin, notAround]

end Value
end RecordSchema
