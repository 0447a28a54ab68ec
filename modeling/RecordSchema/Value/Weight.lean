import RecordSchema.Value.Conversion

/-!
# The weight of a value

How much a value holds, as a measure for recursion on documents: whatever can be looked up in a
document weighs less than the document.
-/

namespace RecordSchema.Value

mutual

def weight : Value → Nat
  | .list items => 1 + weights items
  | .tuple items => 1 + weights items
  | .set items => 1 + weights items
  | .map entries => 1 + entryWeights entries
  | .keyed entries => 1 + keyedWeights entries
  | _ => 1

def weights : List Value → Nat
  | [] => 0
  | item :: rest => 1 + weight item + weights rest

/-- The weights of the values in a map, with one for each place. -/
def entryWeights : List (String × Value) → Nat
  | [] => 0
  | (_, value) :: rest => 1 + weight value + entryWeights rest

def keyedWeights : List (Value × Value) → Nat
  | [] => 0
  | (key, value) :: rest => 1 + weight key + weight value + keyedWeights rest

end

theorem weight_lt_weights {item : Value} {items : List Value} (member : item ∈ items) :
    weight item < weights items := by
  induction items with
  | nil => cases member
  | cons first rest inductionHypothesis =>
      simp only [weights]
      rcases List.mem_cons.mp member with rfl | later
      · omega
      · have := inductionHypothesis later
        omega

theorem weight_lt_entryWeights {name : String} {value : Value} {entries : Fields Value}
    (member : (name, value) ∈ entries) : weight value < entryWeights entries := by
  induction entries with
  | nil => cases member
  | cons first rest inductionHypothesis =>
      obtain ⟨key, held⟩ := first
      simp only [entryWeights]
      rcases List.mem_cons.mp member with same | later
      · cases same
        omega
      · have := inductionHypothesis later
        omega

theorem mem_of_get? {name : String} {value : Value} {fields : Fields Value}
    (found : fields.get? name = some value) : (name, value) ∈ fields := by
  induction fields with
  | nil => simp at found
  | cons first rest inductionHypothesis =>
      obtain ⟨key, held⟩ := first
      rw [Fields.get?_cons] at found
      split at found
      · next same =>
          cases found
          cases eq_of_beq same
          exact List.mem_cons_self
      · exact List.mem_cons_of_mem _ (inductionHypothesis found)

theorem weight_lt_keyedWeights {key value : Value} {entries : List (Value × Value)}
    (member : (key, value) ∈ entries) :
    key.weight < 1 + keyedWeights entries ∧ value.weight < 1 + keyedWeights entries := by
  induction entries with
  | nil => cases member
  | cons first rest inductionHypothesis =>
      obtain ⟨other, held⟩ := first
      simp only [keyedWeights]
      rcases List.mem_cons.mp member with same | later
      · cases same
        omega
      · have := inductionHypothesis later
        omega

theorem mem_put {name key : Name} {value held : Value} {fields : Fields Value Name}
    (member : (key, held) ∈ fields.put name value) : held = value ∨ (key, held) ∈ fields := by
  induction fields with
  | nil =>
      simp only [Fields.put, List.mem_singleton, Prod.mk.injEq] at member
      exact .inl member.2
  | cons first rest inductionHypothesis =>
      obtain ⟨other, old⟩ := first
      simp only [Fields.put] at member
      split at member
      · rcases List.mem_cons.mp member with same | later
        · cases same
          exact .inl rfl
        · exact .inr (List.mem_cons_of_mem _ later)
      · rcases List.mem_cons.mp member with same | later
        · cases same
          exact .inr List.mem_cons_self
        · rcases inductionHypothesis later with equal | old
          · exact .inl equal
          · exact .inr (List.mem_cons_of_mem _ old)

theorem mem_of_mem_ofKeyed {key : Name} {value : Value} {entries : List (Value × Value)}
    (member : (key, value) ∈ Fields.ofKeyed entries) : (key.value, value) ∈ entries := by
  obtain ⟨entry, isEntry, made⟩ := List.mem_filterMap.mp member
  split at made
  · cases made
    exact isEntry
  · cases made

/-- A part that is no character and no name weighs less than the whole. -/
theorem weight_le_of_mem_parts {value part : Value} {parts : List Value}
    (found : value.parts? = some parts) (member : part ∈ parts) :
    part.weight ≤ value.weight := by
  cases value with
  | list items =>
      cases found
      have := weight_lt_weights member
      simp only [weight]
      omega
  | tuple items =>
      cases found
      have := weight_lt_weights member
      simp only [weight]
      omega
  | set items =>
      cases found
      have := weight_lt_weights member
      simp only [weight]
      omega
  | map entries =>
      cases found
      obtain ⟨entry, _, rfl⟩ := List.mem_map.mp member
      simp only [weight]
      omega
  | keyed entries =>
      cases found
      obtain ⟨⟨key, held⟩, isEntry, rfl⟩ := List.mem_map.mp member
      have := (weight_lt_keyedWeights isEntry).1
      simp only [weight]
      omega
  | text characters =>
      cases found
      obtain ⟨c, _, rfl⟩ := List.mem_map.mp member
      simp only [weight]
      omega
  | _ => cases found

theorem weight_le_of_pair {item value : Value} {name : Name}
    (found : item.pair = .ok (name, value)) : value.weight ≤ item.weight := by
  unfold pair parts at found
  cases held : item.parts? with
  | none => simp [held, bind, Except.bind] at found
  | some parts =>
      simp only [held, bind, Except.bind] at found
      split at found
      · next first second =>
          split at found
          · cases found
          · cases found
            exact weight_le_of_mem_parts held (by simp)
      · cases found

theorem pair_singleton (c : Char) : (Value.text (String.singleton c)).pair = .error .badValue := by
  simp [pair, parts, parts?, bind, Except.bind, throw, throwThe, MonadExceptOf.throw]

theorem mem_putPairs {key : Name} {held : Value} {items : List Value}
    {fields result : Fields Value Name} (put : putPairs fields items = (result, none))
    (member : (key, held) ∈ result) :
    (key, held) ∈ fields ∨ ∃ item ∈ items, ∃ name, item.pair = .ok (name, held) := by
  induction items generalizing fields with
  | nil =>
      cases put
      exact .inl member
  | cons item rest inductionHypothesis =>
      simp only [putPairs] at put
      split at put
      · next name value pairFound =>
          rcases inductionHypothesis put with earlier | ⟨later, laterMember, found⟩
          · rcases mem_put earlier with equal | old
            · exact .inr ⟨item, List.mem_cons_self, name, equal ▸ pairFound⟩
            · exact .inl old
          · exact .inr ⟨later, List.mem_cons_of_mem _ laterMember, found⟩
      · cases put

theorem putPairs_of_toMapping {document : Value} {items : List Value}
    {fields : Fields Value Name} (noMap : document.mapping? = none)
    (split : document.parts? = some items) (converted : document.toMapping = .ok fields) :
    putPairs [] items = (fields, none) := by
  unfold toMapping at converted
  simp only [noMap, split] at converted
  split at converted
  · next put =>
      cases converted
      exact put
  · cases converted

theorem weight_lt_of_items {document value : Value} {name : Name} {items : List Value}
    {fields : Fields Value Name} (noMap : document.mapping? = none)
    (split : document.parts? = some items) (converted : document.toMapping = .ok fields)
    (member : (name, value) ∈ fields)
    (lighter : ∀ item ∈ items, item.weight < document.weight) :
    value.weight < document.weight := by
  rcases mem_putPairs (putPairs_of_toMapping noMap split converted) member with
    none | ⟨item, itemMember, key, pairFound⟩
  · cases none
  · have := weight_le_of_pair pairFound
    have := lighter item itemMember
    omega

/-- Whatever a document holds under a name of any kind weighs less than the document. -/
theorem weight_lt_of_toMapping {document value : Value} {name : Name}
    {fields : Fields Value Name} (converted : document.toMapping = .ok fields)
    (member : (name, value) ∈ fields) : value.weight < document.weight := by
  cases document with
  | map entries =>
      cases converted
      obtain ⟨⟨key, held⟩, isEntry, same⟩ := List.mem_map.mp member
      cases same
      have := weight_lt_entryWeights isEntry
      simp only [weight]
      omega
  | keyed entries =>
      cases converted
      have := (weight_lt_keyedWeights (mem_of_mem_ofKeyed member)).2
      simp only [weight]
      omega
  | list items =>
      refine weight_lt_of_items rfl rfl converted member fun item itemMember => ?_
      have := weight_lt_weights itemMember
      simp only [weight]
      omega
  | tuple items =>
      refine weight_lt_of_items rfl rfl converted member fun item itemMember => ?_
      have := weight_lt_weights itemMember
      simp only [weight]
      omega
  | set items =>
      refine weight_lt_of_items rfl rfl converted member fun item itemMember => ?_
      have := weight_lt_weights itemMember
      simp only [weight]
      omega
  | text characters =>
      have put := putPairs_of_toMapping rfl rfl converted
      cases letters : characters.toList with
      | nil =>
          simp only [letters, List.map_nil, putPairs, Prod.mk.injEq] at put
          rw [← put.1] at member
          cases member
      | cons c rest =>
          simp [letters, putPairs, pair_singleton] at put
  | _ => simp [toMapping, mapping?, parts?] at converted

/-- Whatever can be looked up in a document weighs less than the document. -/
theorem weight_lt_of_toFields {document value : Value} {name : String} {fields : Fields Value}
    (converted : document.toFields = .ok fields) (found : fields.get? name = some value) :
    value.weight < document.weight := by
  have member := mem_of_get? found
  unfold toFields at converted
  split at converted
  · cases converted
    have := weight_lt_entryWeights member
    simp only [weight]
    omega
  · cases mapping : document.toMapping with
    | error _ => simp [mapping, Except.map] at converted
    | ok entries =>
        simp only [mapping, Except.map, Except.ok.injEq] at converted
        subst converted
        obtain ⟨⟨key, held⟩, isEntry, same⟩ := List.mem_map.mp member
        cases same
        exact weight_lt_of_toMapping mapping isEntry

end RecordSchema.Value
