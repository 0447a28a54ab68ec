import RecordSchema.Proofs.Fields
import RecordSchema.Value.Equality

/-!
# Equality as an equivalence

Sets and maps are equal when they are equally large and every part of the first has a partner in
the second.  That this does not depend on which one is the first comes from counting: no two parts
share a partner.  So equality of values without doubles is an equivalence at every depth.  Among
them no two agree without being equal.
-/

namespace RecordSchema.Value

/-! ## Partners -/

section Partners

variable {α β γ : Type} {related : α → β → Prop}

/-- Every member of the first list has a related one in the second. -/
def Partnered (related : α → β → Prop) (left : List α) (right : List β) : Prop :=
  ∀ item ∈ left, ∃ other ∈ right, related item other

/-- In lists of one length, if no two members share a partner, then everything is a partner. -/
theorem Partnered.exists_of_mem {left : List α} {right : List β}
    (partnered : Partnered related left right) (lengths : left.length = right.length)
    (apart : left.Pairwise fun earlier later =>
      ∀ shared ∈ right, related earlier shared → ¬related later shared)
    {other : β} (member : other ∈ right) : ∃ item ∈ left, related item other := by
  induction left generalizing right with
  | nil =>
      rw [List.eq_nil_of_length_eq_zero lengths.symm] at member
      cases member
  | cons item rest inductionHypothesis =>
      obtain ⟨alone, restApart⟩ := List.pairwise_cons.mp apart
      obtain ⟨partner, isThere, isPartner⟩ := partnered item List.mem_cons_self
      obtain ⟨before, after, rfl⟩ := List.append_of_mem isThere
      -- Without the partner of the first member, the others still have theirs.
      have remains : before ++ after ⊆ before ++ partner :: after :=
        ((List.sublist_cons_self partner after).append_left before).subset
      have restPartnered : Partnered related rest (before ++ after) := by
        intro later isLater
        obtain ⟨found, isFound, isRelated⟩ := partnered later (List.mem_cons_of_mem _ isLater)
        have differs : found ≠ partner := by
          rintro rfl
          exact alone later isLater found isThere isPartner isRelated
        refine ⟨found, ?_, isRelated⟩
        simpa [differs] using isFound
      have restLengths : rest.length = (before ++ after).length := by
        simp only [List.length_cons, List.length_append] at lengths ⊢
        omega
      have stillApart := restApart.imp fun separate shared isShared =>
        separate shared (remains isShared)
      by_cases isPartnered : other = partner
      · exact ⟨item, List.mem_cons_self, isPartnered ▸ isPartner⟩
      · have isOther : other ∈ before ++ after := by
          simpa [isPartnered] using member
        obtain ⟨found, isFound, isRelated⟩ :=
          inductionHypothesis restPartnered restLengths stillApart isOther
        exact ⟨found, List.mem_cons_of_mem _ isFound, isRelated⟩

theorem Partnered.symm {converse : β → α → Prop} {left : List α} {right : List β}
    (partnered : Partnered related left right) (lengths : left.length = right.length)
    (apart : left.Pairwise fun earlier later =>
      ∀ shared ∈ right, related earlier shared → ¬related later shared)
    (turns : ∀ item ∈ left, ∀ other ∈ right, related item other → converse other item) :
    Partnered converse right left := by
  intro other isOther
  obtain ⟨item, isItem, isRelated⟩ := partnered.exists_of_mem lengths apart isOther
  exact ⟨item, isItem, turns item isItem other isOther isRelated⟩

theorem Partnered.trans {next : β → γ → Prop} {far : α → γ → Prop} {left : List α}
    {right : List β} {third : List γ} (partnered : Partnered related left right)
    (nextPartnered : Partnered next right third)
    (joins : ∀ item ∈ left, ∀ other ∈ right, ∀ last ∈ third,
      related item other → next other last → far item last) : Partnered far left third := by
  intro item isItem
  obtain ⟨other, isOther, isRelated⟩ := partnered item isItem
  obtain ⟨last, isLast, isNext⟩ := nextPartnered other isOther
  exact ⟨last, isLast, joins item isItem other isOther last isLast isRelated isNext⟩

end Partners

/-! ## Equality by kind -/

variable {left right third : Value}

theorem equalLists_cons (left right : Value) (leftRest rightRest : List Value) :
    equalLists (left :: leftRest) (right :: rightRest) =
      (agrees left right && equalLists leftRest rightRest) :=
  rfl

private theorem equalLists_iff {left right : List Value} :
    equalLists left right = true ↔ left.length = right.length ∧
      ∀ position (inLeft : position < left.length) (inRight : position < right.length),
        agrees left[position] right[position] = true := by
  induction left generalizing right with
  | nil =>
      cases right with
      | nil =>
          simp [equalLists]
      | cons other otherRest =>
          simp [equalLists]
  | cons item rest inductionHypothesis =>
      cases right with
      | nil =>
          simp [equalLists]
      | cons other otherRest =>
          rw [equalLists_cons, Bool.and_eq_true, inductionHypothesis]
          constructor
          · rintro ⟨same, lengths, restSame⟩
            refine ⟨congrArg (· + 1) lengths, fun position inLeft inRight => ?_⟩
            cases position with
            | zero =>
                exact same
            | succ position =>
                exact restSame position (Nat.lt_of_succ_lt_succ inLeft)
                  (Nat.lt_of_succ_lt_succ inRight)
          · rintro ⟨lengths, same⟩
            refine ⟨same 0 (Nat.succ_pos _) (Nat.succ_pos _), Nat.succ.inj lengths, ?_⟩
            intro position inLeft inRight
            exact same (position + 1) (Nat.succ_lt_succ inLeft) (Nat.succ_lt_succ inRight)

private theorem includedIn_iff {left right : List Value} :
    includedIn left right = true ↔
      Partnered (fun item other => agrees item other = true) left right := by
  induction left with
  | nil =>
      simp [includedIn, Partnered]
  | cons item rest inductionHypothesis =>
      rw [includedIn, Bool.and_eq_true, inductionHypothesis]
      simp [Partnered, agrees]

/-- Two fields have one name and values that agree. -/
def SameField (field other : String × Value) : Prop :=
  field.1 = other.1 ∧ agrees field.2 other.2 = true

private theorem agreesWith_iff {left right : Fields Value} (distinct : right.Distinct) :
    agreesWith left right = true ↔ Partnered SameField left right := by
  induction left with
  | nil =>
      simp [agreesWith, Partnered]
  | cons field rest inductionHypothesis =>
      obtain ⟨name, value⟩ := field
      rw [agreesWith, Bool.and_eq_true, inductionHypothesis, Partnered, Partnered,
        List.forall_mem_cons]
      refine and_congr_left fun _ => ?_
      constructor
      · intro agrees
        split at agrees
        · next other found =>
            obtain ⟨key, same, member⟩ := Fields.mem_of_get?_eq_some found
            exact ⟨(key, other), member, eq_of_beq same, agrees⟩
        · cases agrees
      · rintro ⟨⟨key, other⟩, member, rfl, same⟩
        have found : right.lookup name = some other := Fields.get?_of_mem distinct member
        rw [found]
        exact same

@[simp]
theorem equals_null_iff : equals .null right = true ↔ right = .null := by
  cases right <;> simp [equals, numeral?]

@[simp]
theorem equals_text_iff {text : String} :
    equals (.text text) right = true ↔ right = .text text := by
  cases right with
  | text other =>
      simpa [equals] using eq_comm
  | _ =>
      simp [equals, numeral?]

@[simp]
theorem equals_date_iff {date : Date} :
    equals (.date date) right = true ↔ right = .date date := by
  cases right with
  | date other =>
      simpa [equals] using eq_comm
  | _ =>
      simp [equals, numeral?]

private theorem equals_list_iff {items : List Value} :
    equals (.list items) right = true ↔
      ∃ others, right = .list others ∧ equalLists items others = true := by
  cases right <;> simp [equals, numeral?]

private theorem equals_tuple_iff {items : List Value} :
    equals (.tuple items) right = true ↔
      ∃ others, right = .tuple others ∧ equalLists items others = true := by
  cases right <;> simp [equals, numeral?]

private theorem equals_set_iff {items : List Value} :
    equals (.set items) right = true ↔
      ∃ others, right = .set others ∧ items.length = others.length ∧
        Partnered (fun item other => agrees item other = true) items others := by
  cases right <;> simp [equals, numeral?, includedIn_iff]

private theorem equals_map_iff {entries : Fields Value} :
    equals (.map entries) right = true ↔
      ∃ others : Fields Value, right = .map others ∧ entries.length = others.length ∧
        agreesWith entries others = true := by
  cases right <;> simp [equals, numeral?]

/-- A number equals the numbers that are worth the same, whatever their kinds are. -/
theorem equals_number_iff {number : Numeral} (isNumber : left.numeral? = some number) :
    equals left right = true ↔
      ∃ other, right.numeral? = some other ∧ number.equals other = true := by
  unfold equals
  split <;> simp_all [numeral?]
  split <;> simp_all

/-! ## Values without doubles -/

/-- The values without doubles: no two members of a set are equal, and no two fields of a map have
one name. -/
inductive DoubleFree : Value → Prop
  | null : DoubleFree .null
  | bool (value : Bool) : DoubleFree (.bool value)
  | int (value : Int) : DoubleFree (.int value)
  | text (value : String) : DoubleFree (.text value)
  | date (value : Date) : DoubleFree (.date value)
  | list {items : List Value} (free : ∀ item ∈ items, DoubleFree item) :
      DoubleFree (.list items)
  | tuple {items : List Value} (free : ∀ item ∈ items, DoubleFree item) :
      DoubleFree (.tuple items)
  | set {items : List Value} (free : ∀ item ∈ items, DoubleFree item)
      (apart : items.Pairwise fun item other => equals item other = false) : DoubleFree (.set items)
  | map {entries : Fields Value} (free : ∀ entry ∈ entries, DoubleFree entry.2)
      (distinct : entries.Distinct) : DoubleFree (.map entries)

/-- A number that is no double is an integer or counts as one. -/
theorem DoubleFree.eq_int_of_numeral? (free : left.DoubleFree) {number : Numeral}
    (isNumber : left.numeral? = some number) : ∃ value, number = .int value := by
  cases free with
  | bool value =>
      exact ⟨_, (Option.some.inj isNumber).symm⟩
  | int value =>
      exact ⟨_, (Option.some.inj isNumber).symm⟩
  | _ =>
      cases isNumber

/-- Equality with one number picks out the values that count as that number. -/
theorem DoubleFree.equals_int_iff (free : right.DoubleFree) {value : Int}
    (isInt : left.numeral? = some (.int value)) :
    equals left right = true ↔ right.numeral? = some (.int value) := by
  rw [equals_number_iff isInt]
  constructor
  · rintro ⟨number, isNumber, same⟩
    obtain ⟨other, rfl⟩ := free.eq_int_of_numeral? isNumber
    have worthSame : value = other := by
      simpa [Numeral.equals, Numeral.compare?] using same
    rw [isNumber, worthSame]
  · intro isNumber
    exact ⟨_, isNumber, by simp [Numeral.equals, Numeral.compare?]⟩

theorem doubleFree_list {items : List Value} :
    (Value.list items).DoubleFree ↔ ∀ item ∈ items, item.DoubleFree :=
  ⟨fun | .list free => free, .list⟩

theorem doubleFree_tuple {items : List Value} :
    (Value.tuple items).DoubleFree ↔ ∀ item ∈ items, item.DoubleFree :=
  ⟨fun | .tuple free => free, .tuple⟩

theorem doubleFree_set {items : List Value} : (Value.set items).DoubleFree ↔
    (∀ item ∈ items, item.DoubleFree) ∧
      items.Pairwise fun item other => equals item other = false :=
  ⟨fun | .set free apart => ⟨free, apart⟩, fun both => .set both.1 both.2⟩

theorem doubleFree_map {entries : Fields Value} : (Value.map entries).DoubleFree ↔
    (∀ entry ∈ entries, entry.2.DoubleFree) ∧ entries.Distinct :=
  ⟨fun | .map free distinct => ⟨free, distinct⟩, fun both => .map both.1 both.2⟩

private theorem agrees_of_equals (same : equals left right = true) : agrees left right = true := by
  simp [agrees, same]

private theorem DoubleFree.agrees_iff (free : right.DoubleFree) :
    agrees left right = true ↔ equals left right = true := by
  have isNumber : isSameNan left right = false := by
    cases free <;> cases left <;> simp [isSameNan]
  rw [agrees, isNumber, Bool.false_or]

private theorem partnered_agrees_iff {left right : List Value}
    (free : ∀ other ∈ right, other.DoubleFree) :
    Partnered (fun item other => agrees item other = true) left right ↔
      Partnered (fun item other => equals item other = true) left right := by
  refine forall₂_congr fun item _ => exists_congr fun other => ?_
  exact and_congr_right fun isOther => (free other isOther).agrees_iff

/-! ## Symmetry and transitivity -/

/-- What one value contributes to symmetry and transitivity, as the one that comes first. -/
structure Balanced (left : Value) : Prop where
  symm : ∀ {right : Value}, right.DoubleFree →
    equals left right = true → equals right left = true
  trans : ∀ {right third : Value}, right.DoubleFree → third.DoubleFree →
    equals left right = true → equals right third = true → equals left third = true

section Members

variable {left right third : List Value}

private theorem equalLists_symm (balanced : ∀ item ∈ left, Balanced item)
    (free : ∀ item ∈ right, item.DoubleFree) (same : equalLists left right = true) :
    equalLists right left = true := by
  obtain ⟨lengths, same⟩ := equalLists_iff.mp same
  refine equalLists_iff.mpr ⟨lengths.symm, fun position inRight inLeft => ?_⟩
  have rightFree := free _ (List.getElem_mem inRight)
  exact agrees_of_equals ((balanced _ (List.getElem_mem inLeft)).symm rightFree
    (rightFree.agrees_iff.mp (same position inLeft inRight)))

private theorem equalLists_trans (balanced : ∀ item ∈ left, Balanced item)
    (free : ∀ item ∈ right, item.DoubleFree) (thirdFree : ∀ item ∈ third, item.DoubleFree)
    (same : equalLists left right = true) (next : equalLists right third = true) :
    equalLists left third = true := by
  obtain ⟨lengths, same⟩ := equalLists_iff.mp same
  obtain ⟨nextLengths, next⟩ := equalLists_iff.mp next
  refine equalLists_iff.mpr ⟨lengths.trans nextLengths, fun position inLeft inThird => ?_⟩
  have inRight : position < right.length := lengths ▸ inLeft
  have middle := free _ (List.getElem_mem inRight)
  have last := thirdFree _ (List.getElem_mem inThird)
  exact agrees_of_equals ((balanced _ (List.getElem_mem inLeft)).trans middle last
    (middle.agrees_iff.mp (same position inLeft inRight))
    (last.agrees_iff.mp (next position inRight inThird)))

end Members

/-- Two members of a set that equal one value are equal. -/
theorem apart_of_balanced {items others : List Value} (balanced : ∀ item ∈ items, Balanced item)
    (itemsFree : ∀ item ∈ items, item.DoubleFree)
    (othersFree : ∀ other ∈ others, other.DoubleFree)
    (apart : items.Pairwise fun item other => equals item other = false) :
    items.Pairwise fun earlier later => ∀ shared ∈ others,
      equals earlier shared = true → ¬equals later shared = true := by
  refine apart.imp_of_mem fun isEarlier isLater differ shared isShared same laterSame => ?_
  have back := (balanced _ isLater).symm (othersFree shared isShared) laterSame
  have equal := (balanced _ isEarlier).trans (othersFree shared isShared) (itemsFree _ isLater)
    same back
  rw [differ] at equal
  cases equal

/-- Two fields of a map that are like one field have one name. -/
theorem apart_of_distinct {entries others : Fields Value} (distinct : entries.Distinct) :
    entries.Pairwise fun earlier later => ∀ shared ∈ others,
      SameField earlier shared → ¬SameField later shared := by
  refine (List.pairwise_map.mp distinct).imp fun differ shared _ same laterSame => ?_
  rw [same.1, laterSame.1, beq_self_eq_true] at differ
  cases differ

/-- A value that is equal to nothing but itself. -/
theorem balanced_of_iff (self : ∀ right, equals left right = true ↔ right = left) :
    Balanced left where
  symm _ same := by
    rw [(self _).mp same]
    exact (self _).mpr rfl
  trans _ _ same next := by
    rwa [(self _).mp same] at next

private theorem balanced_of_int (free : left.DoubleFree) {value : Int}
    (isInt : left.numeral? = some (.int value)) : Balanced left where
  symm rightFree same :=
    (free.equals_int_iff ((rightFree.equals_int_iff isInt).mp same)).mpr isInt
  trans rightFree thirdFree same next := by
    have rightInt := (rightFree.equals_int_iff isInt).mp same
    exact (thirdFree.equals_int_iff isInt).mpr ((thirdFree.equals_int_iff rightInt).mp next)

private theorem balanced_of_members {make : List Value → Value}
    (equals_iff : ∀ {items : List Value} {right : Value}, equals (make items) right = true ↔
      ∃ others, right = make others ∧ equalLists items others = true)
    (free : ∀ {items : List Value}, (make items).DoubleFree → ∀ item ∈ items, item.DoubleFree)
    {items : List Value} (balanced : ∀ item ∈ items, Balanced item) : Balanced (make items) where
  symm rightFree same := by
    obtain ⟨others, rfl, members⟩ := equals_iff.mp same
    exact equals_iff.mpr ⟨_, rfl, equalLists_symm balanced (free rightFree) members⟩
  trans rightFree thirdFree same next := by
    obtain ⟨others, rfl, members⟩ := equals_iff.mp same
    obtain ⟨lasts, rfl, nextMembers⟩ := equals_iff.mp next
    exact equals_iff.mpr ⟨_, rfl, equalLists_trans balanced (free rightFree) (free thirdFree)
      members nextMembers⟩

private theorem balanced_set {items : List Value} (free : (Value.set items).DoubleFree)
    (balanced : ∀ item ∈ items, Balanced item) : Balanced (.set items) where
  symm rightFree same := by
    obtain ⟨others, rfl, lengths, members⟩ := equals_set_iff.mp same
    obtain ⟨itemsFree, apart⟩ := doubleFree_set.mp free
    obtain ⟨othersFree, _⟩ := doubleFree_set.mp rightFree
    refine equals_set_iff.mpr ⟨_, rfl, lengths.symm,
      ((partnered_agrees_iff othersFree).mp members).symm lengths
        (apart_of_balanced balanced itemsFree othersFree apart) ?_⟩
    intro item isItem other isOther same
    exact agrees_of_equals ((balanced item isItem).symm (othersFree other isOther) same)
  trans rightFree thirdFree same next := by
    obtain ⟨others, rfl, lengths, members⟩ := equals_set_iff.mp same
    obtain ⟨lasts, rfl, nextLengths, nextMembers⟩ := equals_set_iff.mp next
    obtain ⟨othersFree, _⟩ := doubleFree_set.mp rightFree
    obtain ⟨lastsFree, _⟩ := doubleFree_set.mp thirdFree
    refine equals_set_iff.mpr ⟨_, rfl, lengths.trans nextLengths,
      ((partnered_agrees_iff othersFree).mp members).trans
        ((partnered_agrees_iff lastsFree).mp nextMembers) ?_⟩
    intro item isItem other isOther last isLast same next
    exact agrees_of_equals ((balanced item isItem).trans (othersFree other isOther)
      (lastsFree last isLast) same next)

private theorem balanced_map {entries : Fields Value} (distinct : entries.Distinct)
    (balanced : ∀ entry ∈ entries, Balanced entry.2) : Balanced (.map entries) where
  symm rightFree same := by
    obtain ⟨others, rfl, lengths, agrees⟩ := equals_map_iff.mp same
    obtain ⟨othersFree, othersDistinct⟩ := doubleFree_map.mp rightFree
    have partnered := (agreesWith_iff othersDistinct).mp agrees
    refine equals_map_iff.mpr ⟨_, rfl, lengths.symm, (agreesWith_iff distinct).mpr
      (partnered.symm lengths (apart_of_distinct distinct) ?_)⟩
    intro entry isEntry other isOther alike
    have otherFree := othersFree other isOther
    exact ⟨alike.1.symm, agrees_of_equals
      ((balanced entry isEntry).symm otherFree (otherFree.agrees_iff.mp alike.2))⟩
  trans rightFree thirdFree same next := by
    obtain ⟨others, rfl, lengths, agrees⟩ := equals_map_iff.mp same
    obtain ⟨lasts, rfl, nextLengths, nextAgrees⟩ := equals_map_iff.mp next
    obtain ⟨othersFree, othersDistinct⟩ := doubleFree_map.mp rightFree
    obtain ⟨lastsFree, lastsDistinct⟩ := doubleFree_map.mp thirdFree
    have partnered := (agreesWith_iff othersDistinct).mp agrees
    have nextPartnered := (agreesWith_iff lastsDistinct).mp nextAgrees
    refine equals_map_iff.mpr ⟨_, rfl, lengths.trans nextLengths,
      (agreesWith_iff lastsDistinct).mpr (partnered.trans nextPartnered ?_)⟩
    intro entry isEntry other isOther last isLast alike nextAlike
    have otherFree := othersFree other isOther
    have lastFree := lastsFree last isLast
    exact ⟨alike.1.trans nextAlike.1, agrees_of_equals
      ((balanced entry isEntry).trans otherFree lastFree (otherFree.agrees_iff.mp alike.2)
        (lastFree.agrees_iff.mp nextAlike.2))⟩

private theorem DoubleFree.balanced (free : left.DoubleFree) : Balanced left := by
  induction free with
  | null =>
      exact balanced_of_iff fun _ => equals_null_iff
  | bool value =>
      exact balanced_of_int (.bool value) rfl
  | int value =>
      exact balanced_of_int (.int value) rfl
  | text value =>
      exact balanced_of_iff fun _ => equals_text_iff
  | date value =>
      exact balanced_of_iff fun _ => equals_date_iff
  | list _ inductionHypothesis =>
      exact balanced_of_members equals_list_iff doubleFree_list.mp inductionHypothesis
  | tuple _ inductionHypothesis =>
      exact balanced_of_members equals_tuple_iff doubleFree_tuple.mp inductionHypothesis
  | set free apart inductionHypothesis =>
      exact balanced_set (.set free apart) inductionHypothesis
  | map _ distinct inductionHypothesis =>
      exact balanced_map distinct inductionHypothesis

/-- Equality of values without doubles does not depend on which one comes first. -/
theorem DoubleFree.equals_comm (free : left.DoubleFree) (rightFree : right.DoubleFree) :
    equals left right = equals right left :=
  Bool.eq_iff_iff.mpr ⟨free.balanced.symm rightFree, rightFree.balanced.symm free⟩

theorem DoubleFree.agrees_comm (free : left.DoubleFree) (rightFree : right.DoubleFree) :
    agrees left right = agrees right left := by
  rw [Bool.eq_iff_iff, rightFree.agrees_iff, free.agrees_iff, free.equals_comm rightFree]

private theorem equals_self_of_int {value : Int} (free : left.DoubleFree)
    (isInt : left.numeral? = some (.int value)) : equals left left = true :=
  (free.equals_int_iff isInt).mpr isInt

private theorem equalLists_self {items : List Value}
    (self : ∀ item ∈ items, equals item item = true) :
    equalLists items items = true :=
  equalLists_iff.mpr ⟨rfl, fun _ isItem _ => agrees_of_equals (self _ (List.getElem_mem isItem))⟩

private theorem DoubleFree.equals_self (free : left.DoubleFree) : equals left left = true := by
  induction free with
  | null =>
      exact equals_null_iff.mpr rfl
  | bool value =>
      exact equals_self_of_int (.bool value) rfl
  | int value =>
      exact equals_self_of_int (.int value) rfl
  | text value =>
      exact equals_text_iff.mpr rfl
  | date value =>
      exact equals_date_iff.mpr rfl
  | list _ inductionHypothesis =>
      exact equals_list_iff.mpr ⟨_, rfl, equalLists_self inductionHypothesis⟩
  | tuple _ inductionHypothesis =>
      exact equals_tuple_iff.mpr ⟨_, rfl, equalLists_self inductionHypothesis⟩
  | set _ _ inductionHypothesis =>
      refine equals_set_iff.mpr ⟨_, rfl, rfl, fun item isItem => ?_⟩
      exact ⟨item, isItem, agrees_of_equals (inductionHypothesis item isItem)⟩
  | map _ distinct inductionHypothesis =>
      refine equals_map_iff.mpr ⟨_, rfl, rfl, (agreesWith_iff distinct).mpr ?_⟩
      exact fun entry isEntry =>
        ⟨entry, isEntry, rfl, agrees_of_equals (inductionHypothesis entry isEntry)⟩

theorem doubleFree_equivalence :
    Equivalence fun left right : { value : Value // value.DoubleFree } =>
      equals left right = true where
  refl value := value.2.equals_self
  symm {left right} same := left.2.balanced.symm right.2 same
  trans {left right third} same next := left.2.balanced.trans right.2 third.2 same next

end RecordSchema.Value
