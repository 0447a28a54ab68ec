import RecordSchema.Json.Printer
import RecordSchema.Json.Reader
import RecordSchema.Proofs.Name
import RecordSchema.Proofs.Outcome
import RecordSchema.Value.Weight

/-!
# Values of JSON

A plain value is of a kind that JSON has, and so is everything in it.  What is read from a text is
plain, and what is plain can be written.
-/

namespace RecordSchema

/-- A value of a kind that JSON has, in all its parts. -/
inductive Value.Plain : Value → Prop
  | null : Plain .null
  | bool (flag : Bool) : Plain (.bool flag)
  | int (number : Int) : Plain (.int number)
  | double (number : Double) : Plain (.double number)
  | text (text : String) : Plain (.text text)
  | list {items : List Value} : (∀ item ∈ items, Plain item) → Plain (.list items)
  | map {entries : Fields Value} :
      (∀ name value, (name, value) ∈ entries → Plain value) → Plain (.map entries)
  /-- Names that are no texts are written as texts. -/
  | keyed {entries : List (Value × Value)} :
      (∀ key value, (key, value) ∈ entries → key.isHashable = true) →
      (∀ key value, (key, value) ∈ entries → Plain key) →
      (∀ key value, (key, value) ∈ entries → Plain value) → Plain (.keyed entries)

def Fields.ArePlain (fields : Fields Value) : Prop :=
  ∀ name value, (name, value) ∈ fields → value.Plain

def Fields.ArePlainlyNamed (fields : Fields Value Name) : Prop :=
  ∀ name value, (name, value) ∈ fields → name.value.Plain ∧ value.Plain

namespace Fields

variable {fields : Fields Value}

theorem arePlain_nil : ArePlain [] :=
  fun _ _ member => nomatch member

theorem arePlain_cons {name : String} {value : Value} :
    ArePlain ((name, value) :: fields) ↔ value.Plain ∧ fields.ArePlain := by
  constructor
  · intro plain
    exact ⟨plain name value List.mem_cons_self,
      fun key held member => plain key held (List.mem_cons_of_mem _ member)⟩
  · rintro ⟨first, others⟩ key held member
    rcases List.mem_cons.mp member with here | later
    · cases here
      exact first
    · exact others key held later

theorem ArePlain.append {others : Fields Value} (plain : fields.ArePlain)
    (othersPlain : others.ArePlain) : ArePlain (fields ++ others) := by
  intro name value member
  rcases List.mem_append.mp member with earlier | later
  · exact plain name value earlier
  · exact othersPlain name value later

theorem ArePlain.put (plain : fields.ArePlain) (name : String) {value : Value}
    (isPlain : value.Plain) : (fields.put name value).ArePlain := by
  intro key held member
  rcases mem_put member with ⟨_, rfl⟩ | old
  · exact isPlain
  · exact plain key held old

theorem ArePlain.putAll {later : Fields Value} (plain : fields.ArePlain)
    (laterPlain : later.ArePlain) : (fields.putAll later).ArePlain := by
  induction later generalizing fields with
  | nil =>
      exact plain
  | cons entry rest inductionHypothesis =>
      obtain ⟨first, others⟩ := arePlain_cons.mp laterPlain
      exact inductionHypothesis (plain.put entry.1 first) others

theorem ArePlain.get? (plain : fields.ArePlain) {name : String} {value : Value}
    (found : fields.get? name = some value) : value.Plain := by
  obtain ⟨key, _, member⟩ := mem_of_get?_eq_some found
  exact plain key value member

theorem ArePlain.getD (plain : fields.ArePlain) (name : String) {default : Value}
    (defaultPlain : default.Plain) : ((fields.get? name).getD default).Plain := by
  cases found : fields.get? name with
  | none =>
      exact defaultPlain
  | some value =>
      exact plain.get? found

theorem ArePlainlyNamed.put {fields : Fields Value Name} (plain : fields.ArePlainlyNamed)
    {name : Name} {value : Value} (namePlain : name.value.Plain) (isPlain : value.Plain) :
    (fields.put name value).ArePlainlyNamed := by
  intro key held member
  constructor
  · have isName : key ∈ (fields.put name value).names := List.mem_map_of_mem member
    have ofOld (old : key ∈ fields.names) : key.value.Plain := by
      obtain ⟨field, isField, rfl⟩ := List.mem_map.mp old
      exact (plain _ _ isField).1
    rw [names_put] at isName
    split at isName
    · exact ofOld isName
    · rcases List.mem_append.mp isName with old | here
      · exact ofOld old
      · exact List.mem_singleton.mp here ▸ namePlain
  · rcases mem_put member with ⟨_, rfl⟩ | old
    · exact isPlain
    · exact (plain key held old).2

theorem ArePlainlyNamed.get? {fields : Fields Value Name} (plain : fields.ArePlainlyNamed)
    {name : Name} {value : Value} (found : fields.get? name = some value) : value.Plain := by
  obtain ⟨key, _, member⟩ := mem_of_get?_eq_some found
  exact (plain key value member).2

end Fields

namespace Value

variable {value : Value}

theorem Plain.entries {entries : Fields Value} (plain : (Value.map entries).Plain) :
    entries.ArePlain := by
  cases plain with
  | map all =>
      exact all

theorem Plain.parts (plain : value.Plain) {items : List Value} (split : value.parts = .ok items) :
    ∀ item ∈ items, item.Plain := by
  cases plain with
  | list all =>
      cases split
      exact all
  | map all =>
      cases split
      intro item member
      obtain ⟨entry, _, rfl⟩ := List.mem_map.mp member
      exact .text entry.1
  | keyed _ keys _ =>
      cases split
      intro item member
      obtain ⟨entry, isEntry, rfl⟩ := List.mem_map.mp member
      exact keys entry.1 entry.2 isEntry
  | text text =>
      cases split
      intro item member
      obtain ⟨c, _, rfl⟩ := List.mem_map.mp member
      exact .text _
  | _ =>
      cases split

theorem Plain.pair (plain : value.Plain) {name : Name} {second : Value}
    (isPair : value.pair = .ok (name, second)) : name.value.Plain ∧ second.Plain := by
  obtain ⟨items, split, paired⟩ := Outcome.bind_eq_ok_iff.mp isPair
  have all := plain.parts split
  split at paired
  · next key held =>
      obtain ⟨made, isName, same⟩ := Outcome.bind_eq_ok_iff.mp paired
      cases same
      unfold Name.ofValue at isName
      split at isName
      · cases isName
        exact ⟨all key (by simp), all second (by simp)⟩
      · cases isName
  · cases paired

private theorem plain_putPairs {fields result : Fields Value Name} (plain : fields.ArePlainlyNamed)
    {items : List Value} (all : ∀ item ∈ items, item.Plain)
    (put : putPairs fields items = (result, none)) : result.ArePlainlyNamed := by
  induction items generalizing fields with
  | nil =>
      cases put
      exact plain
  | cons item rest inductionHypothesis =>
      obtain ⟨first, others⟩ := List.forall_mem_cons.mp all
      simp only [putPairs] at put
      split at put
      · next name held isPair =>
          obtain ⟨namePlain, heldPlain⟩ := first.pair isPair
          exact inductionHypothesis (plain.put namePlain heldPlain) others put
      · cases put

theorem Plain.toMapping (plain : value.Plain) {fields : Fields Value Name}
    (converted : value.toMapping = .ok fields) : fields.ArePlainlyNamed := by
  intro name held member
  have ofItems {items : List Value} (noMap : value.mapping? = none)
      (split : value.parts? = some items) : name.value.Plain ∧ held.Plain := by
    have all := plain.parts (by rw [Value.parts, split])
    exact plain_putPairs (fun _ _ member => absurd member List.not_mem_nil) all
      (putPairs_of_toMapping noMap split converted) name held member
  cases plain with
  | map all =>
      cases converted
      obtain ⟨entry, isEntry, same⟩ := List.mem_map.mp member
      cases same
      exact ⟨.text _, all entry.1 entry.2 isEntry⟩
  | keyed _ keys all =>
      cases converted
      have isEntry := mem_of_mem_ofKeyed member
      exact ⟨keys _ _ isEntry, all _ _ isEntry⟩
  | list _ =>
      exact ofItems rfl rfl
  | text _ =>
      exact ofItems rfl rfl
  | _ =>
      cases converted

theorem Plain.mapping? (plain : value.Plain) {entries : Fields Value Name}
    (isMap : value.mapping? = some entries) : entries.ArePlainlyNamed :=
  plain.toMapping (by rw [Value.toMapping, isMap])

theorem Plain.toFields (plain : value.Plain) {fields : Fields Value}
    (converted : value.toFields = .ok fields) : fields.ArePlain := by
  unfold Value.toFields at converted
  split at converted
  · cases converted
    exact plain.entries
  · obtain ⟨named, isNamed, rfl⟩ := Outcome.map_eq_ok_iff.mp converted
    intro name held member
    obtain ⟨entry, isEntry, same⟩ := List.mem_map.mp member
    cases same
    exact (plain.toMapping isNamed entry.1 entry.2 isEntry).2

theorem plain_toValue {fields : Fields Value Name} (plain : fields.ArePlainlyNamed) :
    fields.toValue.Plain := by
  unfold Fields.toValue
  split
  · next entries areTexts =>
      refine .map fun name held member => ?_
      have isField : (Name.text name, held) ∈ fields := by
        rw [← Fields.named_of_texts? areTexts]
        exact List.mem_map_of_mem member
      exact (plain _ _ isField).2
  · have entry {key held : Value}
        (member : (key, held) ∈ fields.map fun field => (field.1.value, field.2)) :
        key.isHashable = true ∧ key.Plain ∧ held.Plain := by
      obtain ⟨field, isField, same⟩ := List.mem_map.mp member
      cases same
      exact ⟨field.1.isKey, plain _ _ isField⟩
    exact .keyed (fun _ _ member => (entry member).1) (fun _ _ member => (entry member).2.1)
      fun _ _ member => (entry member).2.2

theorem Plain.orElse {other : Value} (plain : value.Plain) (otherPlain : other.Plain) :
    (value.orElse other).Plain := by
  unfold Value.orElse
  split
  · exact plain
  · exact otherPlain

end Value

/-! ## Reading and writing -/

namespace Json

private theorem plain_readNumber {negative : Bool} {text rest : List Char} {value : Value}
    (read : readNumber negative text = .ok (value, rest)) : value.Plain := by
  unfold readNumber at read
  extract_lets whole at read
  clear_value whole
  dsimp only at read
  split at read
  · cases read
  · split at read
    · split at read
      · cases read
      · cases read
        exact .int _
    · cases read
      exact .double _

private theorem plain_readScalar {text rest : List Char} {value : Value}
    (read : readScalar text = .ok (value, rest)) : value.Plain := by
  have words : ∀ entry ∈ wordValues, entry.2.Plain := by
    simp only [wordValues, List.forall_mem_cons]
    exact ⟨.null, .bool _, .bool _, .double _, .double _, .double _, List.forall_mem_nil _⟩
  unfold readScalar at read
  split at read
  · next found isWord =>
      cases read
      obtain ⟨entry, member, begins⟩ := List.exists_of_findSome?_eq_some isWord
      obtain ⟨_, _, same⟩ := Option.map_eq_some_iff.mp begins
      cases same
      exact words entry member
  · split at read
    · exact plain_readNumber read
    · exact plain_readNumber read

/-- What is read with a budget is plain, if what has been read of a list or a map before is. -/
structure ReadsPlain (budget : Nat) : Prop where
  value : ∀ depth text value rest,
    readValue budget depth text = .ok (value, rest) → value.Plain
  items : ∀ depth done text items rest, (∀ item ∈ done, item.Plain) →
    readItems budget depth done text = .ok (items, rest) → ∀ item ∈ items, item.Plain
  entries : ∀ depth done text entries rest, Fields.ArePlain done →
    readEntries budget depth done text = .ok (entries, rest) → entries.ArePlain

section

variable {budget depth : Nat} {text rest : List Char}

private theorem ReadsPlain.value_succ (plain : ReadsPlain budget) {value : Value}
    (read : readValue (budget + 1) depth text = .ok (value, rest)) : value.Plain := by
  rw [readValue.eq_def] at read
  dsimp only at read
  split at read
  · obtain ⟨⟨characters, behind⟩, _, isText⟩ := Outcome.bind_eq_ok_iff.mp read
    cases isText
    exact .text _
  · cases read
  · split at read
    · cases read
      exact .list (List.forall_mem_nil _)
    · obtain ⟨⟨items, behind⟩, itemsRead, isList⟩ := Outcome.bind_eq_ok_iff.mp read
      cases isList
      exact .list (plain.items _ _ _ _ _ (List.forall_mem_nil _) itemsRead)
  · cases read
  · split at read
    · cases read
      exact .map Fields.arePlain_nil
    · obtain ⟨⟨entries, behind⟩, entriesRead, isMap⟩ := Outcome.bind_eq_ok_iff.mp read
      cases isMap
      exact .map (plain.entries _ _ _ _ _ Fields.arePlain_nil entriesRead)
  · exact plain_readScalar read

private theorem ReadsPlain.items_succ (plain : ReadsPlain budget) {done items : List Value}
    (donePlain : ∀ item ∈ done, item.Plain)
    (read : readItems (budget + 1) depth done text = .ok (items, rest)) :
    ∀ item ∈ items, item.Plain := by
  rw [readItems] at read
  obtain ⟨⟨item, behind⟩, itemRead, afterItem⟩ := Outcome.bind_eq_ok_iff.mp read
  have nowPlain : ∀ other ∈ item :: done, other.Plain :=
    List.forall_mem_cons.mpr ⟨plain.value _ _ _ _ itemRead, donePlain⟩
  dsimp only at afterItem
  split at afterItem
  · exact plain.items _ _ _ _ _ nowPlain afterItem
  · cases afterItem
    intro other member
    exact nowPlain other (List.mem_reverse.mp member)
  · cases afterItem

private theorem ReadsPlain.entries_succ (plain : ReadsPlain budget) {done entries : Fields Value}
    (donePlain : done.ArePlain)
    (read : readEntries (budget + 1) depth done text = .ok (entries, rest)) :
    entries.ArePlain := by
  rw [readEntries.eq_def] at read
  dsimp only at read
  split at read
  · obtain ⟨⟨name, afterName⟩, _, named⟩ := Outcome.bind_eq_ok_iff.mp read
    dsimp only at named
    split at named
    · obtain ⟨⟨value, afterValue⟩, valueRead, read⟩ := Outcome.bind_eq_ok_iff.mp named
      have nowPlain := donePlain.put name (plain.value _ _ _ _ valueRead)
      dsimp only at read
      split at read
      · exact plain.entries _ _ _ _ _ nowPlain read
      · cases read
        exact nowPlain
      · cases read
    · cases named
  · cases read

end

private theorem readsPlain (budget : Nat) : ReadsPlain budget := by
  induction budget with
  | zero =>
      refine ⟨?_, ?_, ?_⟩
      · intro depth text value rest read
        cases read
      · intro depth done text items rest _ read
        cases read
      · intro depth done text entries rest _ read
        cases read
  | succ budget inductionHypothesis =>
      refine ⟨?_, ?_, ?_⟩
      · intro depth text value rest read
        exact inductionHypothesis.value_succ read
      · intro depth done text items rest donePlain read
        exact inductionHypothesis.items_succ donePlain read
      · intro depth done text entries rest donePlain read
        exact inductionHypothesis.entries_succ donePlain read

theorem plain_read {text : String} {value : Value} (isRead : read text = .ok value) :
    value.Plain := by
  obtain ⟨⟨found, behind⟩, valueRead, isWhole⟩ := Outcome.bind_eq_ok_iff.mp isRead
  dsimp only at isWhole
  split at isWhole
  · cases isWhole
    exact (readsPlain _).value _ _ _ _ valueRead
  · cases isWhole

private theorem writeItems_isOk {style : Style} {items : List Value}
    (writable : ∀ item ∈ items, ∀ level, ∃ text, write style level item = .ok text) (level : Nat) :
    ∃ texts, writeItems style level items = .ok texts := by
  induction items with
  | nil =>
      exact ⟨[], rfl⟩
  | cons item rest inductionHypothesis =>
      obtain ⟨first, others⟩ := List.forall_mem_cons.mp writable
      obtain ⟨text, written⟩ := first level
      obtain ⟨texts, restWritten⟩ := inductionHypothesis others
      refine ⟨text :: texts, ?_⟩
      simp [writeItems, written, restWritten]

private theorem writeEntries_isOk {style : Style} {entries : Fields Value}
    (writable : ∀ name value, (name, value) ∈ entries →
      ∀ level, ∃ text, write style level value = .ok text) (level : Nat) :
    ∃ texts, writeEntries style level entries = .ok texts := by
  induction entries with
  | nil =>
      exact ⟨[], rfl⟩
  | cons entry rest inductionHypothesis =>
      obtain ⟨text, written⟩ := writable entry.1 entry.2 List.mem_cons_self level
      obtain ⟨texts, restWritten⟩ := inductionHypothesis fun name value member =>
        writable name value (List.mem_cons_of_mem _ member)
      refine ⟨(writtenText style.asciiOnly entry.1 ++ ": " ++ text) :: texts, ?_⟩
      simp [writeEntries, written, restWritten]

/-- Plain values that may be names are written as names. -/
theorem writtenKey_isOk {key : Value} (hashable : key.isHashable = true) (plain : key.Plain)
    (style : Style) : ∃ text, writtenKey style key = .ok text := by
  cases plain with
  | list _ =>
      cases hashable
  | map _ =>
      cases hashable
  | keyed _ _ _ =>
      cases hashable
  | _ =>
      exact ⟨_, rfl⟩

private theorem writeKeyed_isOk {style : Style} {entries : List (Value × Value)}
    (keys : ∀ key value, (key, value) ∈ entries → ∃ text, writtenKey style key = .ok text)
    (writable : ∀ key value, (key, value) ∈ entries →
      ∀ level, ∃ text, write style level value = .ok text) (level : Nat) :
    ∃ texts, writeKeyed style level entries = .ok texts := by
  induction entries with
  | nil =>
      exact ⟨[], rfl⟩
  | cons entry rest inductionHypothesis =>
      obtain ⟨name, named⟩ := keys entry.1 entry.2 List.mem_cons_self
      obtain ⟨text, written⟩ := writable entry.1 entry.2 List.mem_cons_self level
      obtain ⟨texts, restWritten⟩ := inductionHypothesis
        (fun key value member => keys key value (List.mem_cons_of_mem _ member))
        fun key value member => writable key value (List.mem_cons_of_mem _ member)
      refine ⟨(name ++ ": " ++ text) :: texts, ?_⟩
      simp [writeKeyed, named, written, restWritten]

/-- What is plain can be written. -/
theorem write_isOk {value : Value} (plain : value.Plain) (style : Style) (level : Nat) :
    ∃ text, write style level value = .ok text := by
  induction plain generalizing level with
  | null =>
      exact ⟨_, rfl⟩
  | bool flag =>
      cases flag with
      | true =>
          exact ⟨_, rfl⟩
      | false =>
          exact ⟨_, rfl⟩
  | int number =>
      exact ⟨_, rfl⟩
  | double number =>
      exact ⟨_, rfl⟩
  | text text =>
      exact ⟨_, rfl⟩
  | list _ inductionHypothesis =>
      obtain ⟨texts, written⟩ := writeItems_isOk inductionHypothesis (level + 1)
      exact ⟨_, by rw [write, written]; rfl⟩
  | map _ inductionHypothesis =>
      obtain ⟨texts, written⟩ := writeEntries_isOk inductionHypothesis (level + 1)
      exact ⟨_, by rw [write, written]; rfl⟩
  | keyed hashable plain _ _ inductionHypothesis =>
      have keys key value member := writtenKey_isOk (hashable key value member)
        (plain key value member) style
      obtain ⟨texts, written⟩ := writeKeyed_isOk keys inductionHypothesis (level + 1)
      exact ⟨_, by rw [write, written]; rfl⟩

end Json
end RecordSchema
