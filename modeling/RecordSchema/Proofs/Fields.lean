import RecordSchema.Fields

/-!
# Order and content of fields

What is found under a name after fields have been joined or put on top of each other.  Where no
name occurs twice, putting fields is the same as appending them, and looking up is the same as
being a member.
-/

namespace RecordSchema.Fields

variable {α β κ : Type}

@[simp]
theorem names_nil : names ([] : Fields α κ) = [] := rfl

@[simp]
theorem names_cons (field : κ × α) (rest : Fields α κ) :
    names (field :: rest) = field.1 :: names rest := rfl

@[simp]
theorem names_append (first second : Fields α κ) :
    names (first ++ second) = names first ++ names second :=
  List.map_append

/-- Changing the values leaves the names alone. -/
@[simp]
theorem names_map_values (fields : Fields α κ) (change : κ × α → β) :
    names (fields.map fun field => (field.1, change field)) = names fields := by
  simp [names]

theorem append_new_assoc {first second third : κ → Bool}
    (joined : ∀ name, third name = (first name || second name)) (names later last : List κ) :
    (names ++ later.filter fun name => !first name) ++ last.filter (fun name => !third name) =
      names ++ (later ++ last.filter fun name => !second name).filter fun name => !first name := by
  rw [List.filter_append, List.filter_filter, List.append_assoc]
  simp only [joined, Bool.not_or]

variable [BEq κ]

/-- No name occurs twice. -/
def Distinct (fields : Fields α κ) : Prop :=
  fields.names.Pairwise fun earlier later => (earlier == later) = false

theorem distinct_nil : Distinct ([] : Fields α κ) :=
  List.Pairwise.nil

theorem distinct_cons {field : κ × α} {rest : Fields α κ} :
    Distinct (field :: rest) ↔
      (∀ name ∈ rest.names, (field.1 == name) = false) ∧ Distinct rest := by
  simp [Distinct]

theorem distinct_append {first second : Fields α κ} :
    Distinct (first ++ second) ↔
      Distinct first ∧ Distinct second ∧
        ∀ earlier ∈ first.names, ∀ later ∈ second.names, (earlier == later) = false := by
  simp [Distinct, List.pairwise_append]

theorem distinct_iff_nodup [LawfulBEq κ] {fields : Fields α κ} :
    Distinct fields ↔ fields.names.Nodup := by
  simp [Distinct, List.Nodup]

theorem Distinct.perm [EquivBEq κ] {fields shuffled : Fields α κ} (distinct : Distinct fields)
    (shuffle : shuffled.Perm fields) : Distinct shuffled := by
  refine List.Pairwise.perm distinct (shuffle.map _).symm ?_
  intro earlier later differ
  rw [BEq.comm]
  exact differ

@[simp]
theorem get?_append (first second : Fields α κ) (name : κ) :
    get? (first ++ second) name = (get? first name).or (get? second name) :=
  List.lookup_append

theorem get?_map_values (fields : Fields α κ) (change : α → β) (name : κ) :
    get? (fields.map fun field => (field.1, change field.2)) name =
      (fields.get? name).map change := by
  induction fields with
  | nil =>
      rfl
  | cons field rest inductionHypothesis =>
      rw [List.map_cons, get?_cons, get?_cons, inductionHypothesis]
      split
      · rfl
      · rfl

theorem get?_of_equivalent [EquivBEq κ] (fields : Fields α κ) {name other : κ}
    (same : (name == other) = true) : fields.get? name = fields.get? other := by
  induction fields with
  | nil =>
      rfl
  | cons field rest inductionHypothesis =>
      rw [get?_cons, get?_cons, BEq.congr_left same, inductionHypothesis]

theorem get?_eq_none_iff [EquivBEq κ] {fields : Fields α κ} {name : κ} :
    fields.get? name = none ↔ ∀ other ∈ fields.names, (other == name) = false := by
  induction fields with
  | nil =>
      simp
  | cons field rest inductionHypothesis =>
      rw [get?_cons]
      by_cases same : name == field.1
      · simp [same, BEq.symm same]
      · have differs : (field.1 == name) = false := by
          rw [BEq.comm]
          simpa using same
        simp [same, differs, inductionHypothesis]

theorem get?_eq_none_iff_not_mem [LawfulBEq κ] {fields : Fields α κ} {name : κ} :
    fields.get? name = none ↔ name ∉ fields.names := by
  rw [get?_eq_none_iff]
  constructor
  · intro others member
    simpa using others name member
  · intro absent other member
    rw [beq_eq_false_iff_ne]
    rintro rfl
    exact absent member

/-- What is found under a name has been put under an equivalent one. -/
theorem mem_of_get?_eq_some {fields : Fields α κ} {name : κ} {value : α}
    (found : fields.get? name = some value) :
    ∃ key, (name == key) = true ∧ (key, value) ∈ fields := by
  induction fields with
  | nil =>
      simp at found
  | cons field rest inductionHypothesis =>
      obtain ⟨key, held⟩ := field
      rw [get?_cons] at found
      split at found
      · next same =>
          cases found
          exact ⟨key, same, List.mem_cons_self⟩
      · obtain ⟨later, same, member⟩ := inductionHypothesis found
        exact ⟨later, same, List.mem_cons_of_mem _ member⟩

/-- Where no name occurs twice, a member is what is found under its name. -/
theorem get?_of_mem [EquivBEq κ] {fields : Fields α κ} (distinct : Distinct fields)
    {name : κ} {value : α} (member : (name, value) ∈ fields) :
    fields.get? name = some value := by
  induction fields with
  | nil =>
      cases member
  | cons field rest inductionHypothesis =>
      obtain ⟨fresh, restDistinct⟩ := distinct_cons.mp distinct
      rw [get?_cons]
      rcases List.mem_cons.mp member with same | later
      · cases same
        simp
      · have other : (field.1 == name) = false :=
          fresh name (List.mem_map.mpr ⟨_, later, rfl⟩)
        rw [BEq.comm] at other
        simp [other, inductionHypothesis restDistinct later]

/-- Putting passes over fields with other names. -/
theorem put_append [EquivBEq κ] {fields : Fields α κ} {name : κ}
    (fresh : fields.get? name = none) (value : α) (others : Fields α κ) :
    put name value (fields ++ others) = fields ++ put name value others := by
  induction fields with
  | nil =>
      rfl
  | cons field rest inductionHypothesis =>
      have differ := get?_eq_none_iff.mp fresh
      have differs : (field.1 == name) = false := differ field.1 (by simp)
      have restFresh : get? rest name = none :=
        get?_eq_none_iff.mpr fun other member => differ other (by simp [member])
      simp [put, differs, inductionHypothesis restFresh]

/-- Putting under a new name is appending. -/
theorem put_of_get?_eq_none [EquivBEq κ] {fields : Fields α κ} {name : κ} (value : α)
    (fresh : fields.get? name = none) : fields.put name value = fields ++ [(name, value)] := by
  simpa [put] using put_append fresh value []

/-- Putting changes nothing exactly if the value is there already. -/
theorem put_eq_self_iff [EquivBEq κ] {fields : Fields α κ} {name : κ} {value : α} :
    fields.put name value = fields ↔ fields.get? name = some value := by
  induction fields with
  | nil =>
      simp [put]
  | cons field rest inductionHypothesis =>
      obtain ⟨key, old⟩ := field
      rw [put, get?_cons, BEq.comm]
      split
      · simp [eq_comm]
      · rw [List.cons.injEq, and_iff_right rfl, inductionHypothesis]

/-- What is there after putting has been put or was there before. -/
theorem mem_put [ReflBEq κ] {fields : Fields α κ} {name key : κ} {value held : α}
    (member : (key, held) ∈ fields.put name value) :
    (key == name) = true ∧ held = value ∨ (key, held) ∈ fields := by
  induction fields with
  | nil =>
      cases List.mem_singleton.mp member
      exact Or.inl ⟨BEq.rfl, rfl⟩
  | cons field rest inductionHypothesis =>
      simp only [put] at member
      split at member
      · next same =>
          rcases List.mem_cons.mp member with here | later
          · cases here
            exact Or.inl ⟨same, rfl⟩
          · exact Or.inr (List.mem_cons_of_mem _ later)
      · rcases List.mem_cons.mp member with here | later
        · rw [here]
          exact Or.inr List.mem_cons_self
        · rcases inductionHypothesis later with new | old
          · exact Or.inl new
          · exact Or.inr (List.mem_cons_of_mem _ old)

/-- Values may be changed before they are put or after that. -/
theorem map_put (fields : Fields α κ) (name : κ) (value : α) (change : α → β) :
    (fields.put name value).map (fun field => (field.1, change field.2)) =
      put name (change value) (fields.map fun field => (field.1, change field.2)) := by
  induction fields with
  | nil =>
      rfl
  | cons field rest inductionHypothesis =>
      simp only [put, List.map_cons]
      split
      · rfl
      · rw [List.map_cons, inductionHypothesis]

theorem Distinct.put [EquivBEq κ] {fields : Fields α κ} (distinct : Distinct fields)
    (name : κ) (value : α) : Distinct (fields.put name value) := by
  unfold Distinct
  rw [names_put]
  split
  · exact distinct
  · next absent =>
      have fresh : fields.get? name = none := by
        simpa [has] using absent
      rw [List.pairwise_append]
      refine ⟨distinct, List.pairwise_singleton _ _, ?_⟩
      intro earlier member later isName
      rw [List.mem_singleton.mp isName]
      exact get?_eq_none_iff.mp fresh earlier member

@[simp]
theorem putAll_nil (fields : Fields α κ) : fields.putAll [] = fields := rfl

@[simp]
theorem putAll_cons (fields later : Fields α κ) (field : κ × α) :
    fields.putAll (field :: later) = (fields.put field.1 field.2).putAll later := rfl

theorem mem_putAll [ReflBEq κ] {fields later : Fields α κ} {key : κ} {held : α}
    (member : (key, held) ∈ fields.putAll later) :
    (∃ name, (name, held) ∈ later) ∨ (key, held) ∈ fields := by
  induction later generalizing fields with
  | nil =>
      exact Or.inr member
  | cons field rest inductionHypothesis =>
      rcases inductionHypothesis member with ⟨name, new⟩ | earlier
      · exact Or.inl ⟨name, List.mem_cons_of_mem _ new⟩
      · rcases mem_put earlier with ⟨_, here⟩ | old
        · exact Or.inl ⟨field.1, by simp [here]⟩
        · exact Or.inr old

/-- Putting fields brings in no names but theirs. -/
theorem mem_names_putAll [EquivBEq κ] {fields later : Fields α κ} {name : κ}
    (member : name ∈ (fields.putAll later).names) : name ∈ fields.names ∨ name ∈ later.names := by
  induction later generalizing fields with
  | nil =>
      exact Or.inl member
  | cons field rest inductionHypothesis =>
      rcases inductionHypothesis member with earlier | later
      · rw [names_put] at earlier
        split at earlier
        · exact Or.inl earlier
        · rcases List.mem_append.mp earlier with old | here
          · exact Or.inl old
          · cases List.mem_singleton.mp here
            exact Or.inr List.mem_cons_self
      · exact Or.inr (List.mem_cons_of_mem _ later)

theorem Distinct.putAll [EquivBEq κ] {fields : Fields α κ} (distinct : Distinct fields)
    (later : Fields α κ) : Distinct (fields.putAll later) := by
  induction later generalizing fields with
  | nil =>
      exact distinct
  | cons field rest inductionHypothesis =>
      exact inductionHypothesis (distinct.put field.1 field.2)

/-- Putting fields of new names is appending them. -/
theorem putAll_of_distinct [EquivBEq κ] {fields later : Fields α κ}
    (distinct : Distinct (fields ++ later)) : fields.putAll later = fields ++ later := by
  induction later generalizing fields with
  | nil =>
      simp
  | cons field rest inductionHypothesis =>
      have fresh : fields.get? field.1 = none := by
        apply get?_eq_none_iff.mpr
        intro other member
        exact (distinct_append.mp distinct).2.2 other member field.1 (by simp)
      have appended : Distinct ((fields ++ [field]) ++ rest) := by
        simpa using distinct
      rw [putAll_cons, put_of_get?_eq_none field.2 fresh, inductionHypothesis appended]
      simp

/-- Pairs whose names differ are fields as they are. -/
theorem ofPairs_of_distinct [EquivBEq κ] {pairs : List (κ × α)}
    (distinct : Distinct pairs) : ofPairs pairs = pairs :=
  putAll_of_distinct distinct

/-- Fields that are put on top win, if no name occurs twice among them. -/
theorem get?_putAll [EquivBEq κ] {fields later : Fields α κ} (distinct : Distinct later)
    (name : κ) : (fields.putAll later).get? name = (later.get? name).or (fields.get? name) := by
  induction later generalizing fields with
  | nil =>
      simp
  | cons field rest inductionHypothesis =>
      obtain ⟨fresh, restDistinct⟩ := distinct_cons.mp distinct
      rw [putAll_cons, inductionHypothesis restDistinct, get?_cons]
      by_cases same : name == field.1
      · have absent : get? rest name = none := by
          apply get?_eq_none_iff.mpr
          intro other member
          rw [BEq.comm, BEq.congr_left same]
          exact fresh other member
        have found : (fields.put field.1 field.2).get? name = some field.2 := by
          rw [get?_of_equivalent _ same]
          exact get?_put_self fields field.1 field.2
        simp [same, absent, found]
      · have differs : (name == field.1) = false := by
          simpa using same
        simp [differs, get?_put_of_ne fields field.2 differs]

/-! ## Names in order -/

private theorem has_eq_any [EquivBEq κ] (fields : Fields α κ) (name : κ) :
    fields.has name = fields.names.any (· == name) := by
  rw [Bool.eq_iff_iff, has, Option.isSome_iff_ne_none, ne_eq, get?_eq_none_iff]
  simp

theorem has_of_names [EquivBEq κ] {fields : Fields α κ} {others : Fields β κ}
    (same : fields.names = others.names) (name : κ) : fields.has name = others.has name := by
  rw [has_eq_any, has_eq_any, same]

/-- Steps each of which brings in one name, unless it is there, bring in all that are new, in
order. -/
theorem names_foldl [EquivBEq κ] {σ : Type} (view : σ → Fields β κ) {step : σ → κ × α → σ}
    {later : Fields α κ}
    (grows : ∀ state, ∀ field ∈ later, (view (step state field)).names =
      if (view state).has field.1 then (view state).names else (view state).names ++ [field.1])
    (distinct : later.Distinct) (state : σ) :
    (view (later.foldl step state)).names =
      (view state).names ++ later.names.filter fun name => !(view state).has name := by
  induction later generalizing state with
  | nil =>
      simp
  | cons field rest inductionHypothesis =>
      obtain ⟨fresh, restDistinct⟩ := distinct_cons.mp distinct
      obtain ⟨growsHere, growsLater⟩ : _ ∧ _ := by
        simpa only [List.forall_mem_cons, forall_and] using grows
      rw [List.foldl_cons, inductionHypothesis growsLater restDistinct, names_cons,
        List.filter_cons, growsHere state]
      have sameNew : (names rest).filter (fun name => !(view (step state field)).has name) =
          (names rest).filter fun name => !(view state).has name := by
        refine List.filter_congr fun name isLater => ?_
        have differs := fresh name isLater
        rw [has_eq_any, has_eq_any, growsHere state]
        split
        · rfl
        · simp [differs]
      rw [sameNew]
      by_cases known : (view state).has field.1
      · simp [known]
      · simp [known]

/-- Putting fields leaves the names that are there in their places, and appends the others. -/
theorem names_putAll [EquivBEq κ] (fields : Fields α κ) {later : Fields α κ}
    (distinct : later.Distinct) : (fields.putAll later).names =
      fields.names ++ later.names.filter fun name => !fields.has name :=
  names_foldl id (fun state field _ => names_put state field.1 field.2) distinct fields

/-- Fields with the same names in the same order are the same if they hold the same. -/
theorem eq_of_get?_eq [EquivBEq κ] {fields others : Fields α κ} (distinct : fields.Distinct)
    (sameNames : fields.names = others.names)
    (same : ∀ name, fields.get? name = others.get? name) : fields = others := by
  induction fields generalizing others with
  | nil =>
      cases others with
      | nil =>
          rfl
      | cons field rest =>
          cases sameNames
  | cons field rest inductionHypothesis =>
      cases others with
      | nil =>
          cases sameNames
      | cons other otherRest =>
          obtain ⟨name, value⟩ := field
          obtain ⟨otherName, otherValue⟩ := other
          obtain ⟨rfl, restNames⟩ := List.cons.inj sameNames
          obtain ⟨fresh, restDistinct⟩ := distinct_cons.mp distinct
          have sameValue : value = otherValue := by
            simpa [get?_cons] using same name
          have sameRest : ∀ later, get? rest later = get? otherRest later := by
            intro later
            by_cases here : later == name
            · -- Neither rest has the name that stands in front of it.
              have absent : ∀ {held : Fields α κ}, held.names = names rest →
                  get? held later = none := by
                intro held heldNames
                refine get?_eq_none_iff.mpr fun key isKey => ?_
                rw [heldNames] at isKey
                rw [BEq.comm, BEq.congr_left here]
                exact fresh key isKey
              rw [absent rfl, absent restNames.symm]
            · simpa [get?_cons, here] using same later
          rw [sameValue, inductionHypothesis restDistinct restNames sameRest]

/-- Fields may be put on top of each other from either end. -/
theorem putAll_assoc [EquivBEq κ] {fields later last : Fields α κ} (distinct : fields.Distinct)
    (laterDistinct : later.Distinct) (lastDistinct : last.Distinct) :
    (fields.putAll later).putAll last = fields.putAll (later.putAll last) := by
  have bothDistinct := laterDistinct.putAll last
  refine eq_of_get?_eq ((distinct.putAll later).putAll last) ?_ ?_
  · rw [names_putAll _ lastDistinct, names_putAll _ laterDistinct, names_putAll _ bothDistinct,
      names_putAll _ lastDistinct]
    refine append_new_assoc (fun name => ?_) _ _ _
    rw [has, has, has, get?_putAll laterDistinct, Option.isSome_or, Bool.or_comm]
  · intro name
    rw [get?_putAll lastDistinct, get?_putAll laterDistinct, get?_putAll bothDistinct,
      get?_putAll lastDistinct, Option.or_assoc]

end RecordSchema.Fields
