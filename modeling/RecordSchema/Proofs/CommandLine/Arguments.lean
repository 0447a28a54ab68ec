import RecordSchema.Proofs.CommandLine.Loading

/-!
# Arguments of the commands

The arguments of `validate` and `compile` in their usual order, with paths that do not look like
options, are read as the commands they stand for.
-/

namespace RecordSchema.CommandLine

/-- An argument that is no option, whatever the options are: it does not begin with a hyphen, unless
that is all of it. -/
def IsWord (argument : String) : Prop :=
  ∀ second rest, argument.toList ≠ '-' :: second :: rest

variable {argument : String}

private theorem IsWord.ne_separator (isWord : IsWord argument) : argument ≠ "--" := by
  rintro rfl
  exact isWord '-' [] rfl

theorem IsWord.classify (isWord : IsWord argument) (grammar : Grammar) :
    grammar.classify argument = .ok .word := by
  unfold Grammar.classify
  split
  · next second rest same =>
      exact absurd same (isWord second rest)
  · rfl

theorem IsWord.classifyAll (isWord : IsWord argument) (grammar : Grammar)
    {rest : List String} {marks : List (String × Mark)}
    (classified : grammar.classifyAll rest = .ok marks) :
    grammar.classifyAll (argument :: rest) = .ok ((argument, .word) :: marks) := by
  simp [Grammar.classifyAll, isWord.ne_separator, isWord.classify, classified]

private theorem classifyAll_option {grammar : Grammar} {mark : Mark}
    (notSeparator : argument ≠ "--")
    (isOption : grammar.classify argument = .ok mark) {rest : List String}
    {marks : List (String × Mark)} (classified : grammar.classifyAll rest = .ok marks) :
    grammar.classifyAll (argument :: rest) = .ok ((argument, mark) :: marks) := by
  simp [Grammar.classifyAll, notSeparator, isOption, classified]

theorem IsWord.valueOf (isWord : IsWord argument) :
    Reading.valueOf [argument] = .text argument := by
  have kept : [argument].erase "--" = [argument] := by
    simp [isWord.ne_separator]
  rw [Reading.valueOf, kept]

/-! ## Taking words and options -/

namespace Reading

variable {grammar : Grammar} {reading : Reading} {rest : List (String × Mark)}

/-- A word is taken for the first that is wanted, if no separator follows it. -/
theorem takeWords_cons (isWord : IsWord argument) (apart : takeSeparators rest = ([], rest))
    (word : String) (words : List String) :
    takeWords reading (word :: words) ((argument, .word) :: rest) =
      takeWords { reading with values := reading.values.put word (.text argument) } words rest := by
  simp [takeWords, takeSeparators, apart, isWord.valueOf]

/-- As many words as are wanted are taken in one step. -/
theorem readMarks_words {words : List String} {others : List (String × Mark)} {next : Reading}
    (taken : takeWords reading words ((argument, .word) :: rest) = (next, [], others))
    (fewer : others.length ≤ rest.length) (fuel : Nat) :
    readMarks grammar (fuel + 1) reading words ((argument, .word) :: rest) =
      readMarks grammar fuel next [] others := by
  simp [readMarks, taken, Nat.lt_succ_of_le fewer]

/-- An option that takes a text takes the word behind it. -/
theorem readMarks_option {rule : OptionRule} (isText : rule.kind = .text)
    (isWord : IsWord argument) (name : String) (short : Bool) (words : List String) (fuel : Nat) :
    readMarks grammar (fuel + 1) reading words
        ((name, .option rule short none) :: (argument, .word) :: rest) =
      readMarks grammar fuel
        { reading with values := reading.values.put (rule.names.headD "") (.text argument) }
        words rest := by
  simp [readMarks, takeOption, putOption, isText, isWord.valueOf]

end Reading

/-! ## The two commands -/

/-- An option with a path, if there is one. -/
def withOption (name : String) : Option String → List String
  | none => []
  | some path => [name, path]

def optionMarks (name : String) (mark : Mark) : Option String → List (String × Mark)
  | none => []
  | some path => [(name, mark), (path, .word)]

@[simp]
theorem length_optionMarks (name : String) (mark : Mark) (path : Option String) :
    (optionMarks name mark path).length = 2 * path.toList.length := by
  cases path <;> rfl

@[simp]
theorem map_optionMarks (name : String) (mark : Mark) (path : Option String) :
    (optionMarks name mark path).map (·.1) = withOption name path := by
  cases path <;> rfl

private theorem classifyAll_withOption {grammar : Grammar} {name : String} {mark : Mark}
    (notSeparator : name ≠ "--") (isOption : grammar.classify name = .ok mark)
    {path : Option String} (isWord : ∀ given ∈ path, IsWord given) {rest : List String}
    {marks : List (String × Mark)} (classified : grammar.classifyAll rest = .ok marks) :
    grammar.classifyAll (withOption name path ++ rest) =
      .ok (optionMarks name mark path ++ marks) := by
  cases path with
  | none =>
      exact classified
  | some given =>
      exact classifyAll_option notSeparator isOption
        ((isWord given rfl).classifyAll grammar classified)

def validateArguments (schema record : String) (messages labels : Option String) : List String :=
  "validate" :: schema :: record :: (withOption "-m" messages ++ (withOption "-a" labels ++ []))

def compileArguments (schema : String) : List String :=
  ["compile", schema]

def messagesRule : OptionRule :=
  ⟨["--messages", "-m"], .text⟩

def labelsRule : OptionRule :=
  ⟨["--attributes", "-a"], .text⟩

variable {schema record : String} {messages labels : Option String}

def optionEntry (name : String) : Option String → Fields Value
  | none => []
  | some path => [(name, .text path)]

def validateReading (schema record : String) (messages labels : Option String) : Reading where
  values := ("schema", .text schema) :: ("record", .text record) ::
    (optionEntry "--messages" messages ++ optionEntry "--attributes" labels)

/-- Reading takes a step for the two words, one for each option, and one to see that nothing is left
over. -/
theorem readMarks_validate (schemaWord : IsWord schema) (recordWord : IsWord record)
    (messagesWord : ∀ path ∈ messages, IsWord path) (labelsWord : ∀ path ∈ labels, IsWord path)
    (fuel : Nat) :
    Reading.readMarks validateGrammar
        (fuel + messages.toList.length + labels.toList.length + 2) {} validateGrammar.words
        ((schema, .word) :: (record, .word) ::
          (optionMarks "-m" (.option messagesRule true none) messages ++
            (optionMarks "-a" (.option labelsRule true none) labels ++ []))) =
      .ok (validateReading schema record messages labels, []) := by
  have words {rest : List (String × Mark)} (apart : Reading.takeSeparators rest = ([], rest)) :
      Reading.takeWords {} validateGrammar.words
          ((schema, .word) :: (record, .word) :: rest) =
        ({ values := [("schema", .text schema), ("record", .text record)] }, [], rest) := by
    rw [validateGrammar, Reading.takeWords_cons schemaWord rfl,
      Reading.takeWords_cons recordWord apart]
    rfl
  cases messages with
  | none =>
      cases labels with
      | none =>
          rw [Reading.readMarks_words (words rfl) (by simp [optionMarks])]
          rfl
      | some labels =>
          rw [Reading.readMarks_words (words rfl) (by simp [optionMarks]), optionMarks, optionMarks,
            List.nil_append, List.cons_append, List.cons_append,
            Reading.readMarks_option rfl (labelsWord labels rfl)]
          rfl
  | some messages =>
      cases labels with
      | none =>
          rw [Reading.readMarks_words (words rfl) (by simp [optionMarks]), optionMarks, optionMarks,
            List.cons_append, List.cons_append,
            Reading.readMarks_option rfl (messagesWord messages rfl)]
          rfl
      | some labels =>
          simp only [Option.toList_some, List.length_singleton]
          rw [Reading.readMarks_words (words rfl) (by simp [optionMarks]), optionMarks, optionMarks,
            List.cons_append, List.cons_append,
            Reading.readMarks_option rfl (messagesWord messages rfl), List.nil_append,
            List.cons_append, List.cons_append,
            Reading.readMarks_option rfl (labelsWord labels rfl)]
          rfl

theorem readCommand_validate (schemaWord : IsWord schema) (recordWord : IsWord record)
    (messagesWord : ∀ path ∈ messages, IsWord path) (labelsWord : ∀ path ∈ labels, IsWord path) :
    readCommand (validateArguments schema record messages labels) =
      .ok (some (.validate (.text schema) (.text record) (optionValue messages)
        (optionValue labels) (.int 2))) := by
  have name : IsWord "validate" := by
    intro second rest same
    simp at same
  have front : frontGrammar.classifyAll (validateArguments schema record messages labels) =
      .ok (("validate", .word) :: (schema, .word) :: (record, .word) ::
        (optionMarks "-m" .unknownOption messages ++
          (optionMarks "-a" .unknownOption labels ++ []))) :=
    name.classifyAll _ (schemaWord.classifyAll _ (recordWord.classifyAll _
      (classifyAll_withOption (by decide) rfl messagesWord
        (classifyAll_withOption (by decide) rfl labelsWord rfl))))
  have own : validateGrammar.classifyAll
      (schema :: record :: (withOption "-m" messages ++ (withOption "-a" labels ++ []))) =
        .ok ((schema, .word) :: (record, .word) ::
          (optionMarks "-m" (.option messagesRule true none) messages ++
            (optionMarks "-a" (.option labelsRule true none) labels ++ []))) :=
    schemaWord.classifyAll _ (recordWord.classifyAll _
      (classifyAll_withOption (by decide) rfl messagesWord
        (classifyAll_withOption (by decide) rfl labelsWord rfl)))
  have read : validateGrammar.read
      (schema :: record :: (withOption "-m" messages ++ (withOption "-a" labels ++ []))) =
        .ok (validateReading schema record messages labels) := by
    rw [Grammar.read, own, Outcome.ok_bind]
    have steps : ((schema, .word) :: (record, .word) ::
          (optionMarks "-m" (.option messagesRule true none) messages ++
            (optionMarks "-a" (.option labelsRule true none) labels ++ []))).length + 1 =
        1 + messages.toList.length + labels.toList.length + messages.toList.length +
          labels.toList.length + 2 := by
      simp
      omega
    rw [steps, readMarks_validate schemaWord recordWord messagesWord labelsWord]
    rfl
  rw [readCommand, front]
  simp only [Outcome.ok_bind, readFront, commandOf, List.map_cons, List.map_append,
    map_optionMarks, List.map_nil, read]
  cases messages <;> cases labels <;> rfl

theorem readCommand_compile {schema : String} (schemaWord : IsWord schema) :
    readCommand (compileArguments schema) = .ok (some (.compile (.text schema) (.int 2))) := by
  have name : IsWord "compile" := by
    intro second rest same
    simp at same
  have front : frontGrammar.classifyAll (compileArguments schema) =
      .ok [("compile", .word), (schema, .word)] :=
    name.classifyAll _ (schemaWord.classifyAll _ rfl)
  have own : compileGrammar.classifyAll [schema] = .ok [(schema, .word)] :=
    schemaWord.classifyAll _ rfl
  rw [readCommand, front]
  simp only [Outcome.ok_bind, readFront, commandOf, List.map_cons, List.map_nil, Grammar.read, own]
  simp [Reading.readMarks, Reading.takeWords, Reading.takeSeparators, schemaWord.valueOf,
    compileGrammar, Fields.put, Reading.value, Reading.indent, Fields.get?_cons]

end RecordSchema.CommandLine
