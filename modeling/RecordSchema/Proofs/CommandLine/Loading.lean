import RecordSchema.CommandLine.Run
import RecordSchema.Proofs.Schema.Loading

/-!
# Loading the inputs of a command

The inputs of a command are objects of plain values.  Reading them from their files fails in a way
that ends a command in good order, unless a file is nested too deep; any other error that does not
is one of reading the properties in the document of the schema.
-/

namespace RecordSchema.CommandLine

/-- What is relied on in a setting. -/
structure Setting.Lawful (setting : Setting) : Prop where
  parse : setting.parse.Lawful
  /-- A file whose text cannot be had ends a command in good order. -/
  files : ∀ path error, setting.files path = .error error → isLoadingError error = true
  /-- No text in a file stands for half a character. -/
  readable : ∀ path text, setting.files path = .ok text → Json.read text ≠ .error .halfCharacter

/-! ## Files -/

section Files

variable {setting : Setting} {path what : String}

theorem plain_readObject {files : String → Except Error String} {value : Value}
    (read : readObject files (.text path) what = .ok value) :
    ∃ entries, value = .map entries ∧ Fields.ArePlain entries := by
  obtain ⟨text, _, parsed⟩ := Outcome.bind_eq_ok_iff.mp read
  split at parsed
  · next entries isRead =>
      cases parsed
      exact ⟨entries, rfl, (Json.plain_read isRead).entries⟩
  all_goals cases parsed

/-- A file that is not nested too deep is read, or ends a command in good order. -/
theorem isLoadingError_of_readObject (lawful : setting.Lawful) {error : Error}
    (failed : readObject setting.files (.text path) what = .error error) :
    isLoadingError error = true ∨ error = .endlessNesting := by
  rcases Outcome.bind_eq_error_iff.mp failed with noContent | ⟨text, content, notRead⟩
  · exact Or.inl (lawful.files _ _ noContent)
  · split at notRead
    · cases notRead
    · cases notRead
      exact Or.inl rfl
    · cases notRead
      exact Or.inl rfl
    · cases notRead
      exact Or.inl rfl
    · cases notRead
      exact Or.inr rfl
    · next half =>
        exact absurd half (lawful.readable _ _ content)

end Files

def optionValue (path : Option String) : Value :=
  (path.map Value.text).getD .null

private theorem isLoadingError_of_readWording {setting : Setting} (lawful : setting.Lawful)
    {what : String}
    {path : Option String} {error : Error}
    (failed : readWording setting what (optionValue path) = .error error) :
    isLoadingError error = true ∨ error = .endlessNesting := by
  cases path with
  | none =>
      cases failed
  | some path =>
      exact isLoadingError_of_readObject lawful failed

/-! ## Inputs -/

variable (setting : Setting) (schema record : String) (messages labels : Option String)

/-- The schema that its file stands for, with messages and labels of one's own. -/
def schemaIn : Except Error Schema := do
  let document ← readObject setting.files (.text schema) "Schema"
  let bare ← Schema.standingFor setting.parse document
  let properties ← document.field "properties"
  if propertyStepLimit < properties.childSteps then throw .endlessNesting
  let worded := (bare.addMessages (← readWording setting "Messages" (optionValue messages))).state
  return (worded.addLabels (← readWording setting "Attributes" (optionValue labels))).state

def inputs : Except Error (Schema × Value) := do
  let loaded ← schemaIn setting schema messages labels
  let fields ← readObject setting.files (.text record) "Record"
  return (loaded, fields)

variable {setting schema record messages labels}

/-- Loading a schema gives the one that its file stands for. -/
theorem loadSchema_eq (lawful : setting.Lawful) :
    (loadSchema setting (.text schema) (optionValue messages) (optionValue labels)).1 =
      schemaIn setting schema messages labels := by
  unfold loadSchema schemaIn
  cases read : readObject setting.files (.text schema) "Schema" with
  | error error =>
      rfl
  | ok document =>
      obtain ⟨entries, rfl, plain⟩ := plain_readObject read
      obtain ⟨same, _⟩ := Schema.readDocument_of_plain lawful.parse (.map plain)
      rw [Outcome.ok_bind, ← same]
      dsimp only
      generalize Schema.readDocument setting.parse (.map entries) = found
      obtain ⟨result, log⟩ := found
      cases result with
      | error error =>
          rfl
      | ok bare =>
          dsimp only [Outcome.ok_bind]
          split
          · next error failed =>
              exact failed.symm
          · next loaded isLoaded =>
              exact isLoaded.symm

theorem plain_schemaIn (lawful : setting.Lawful) {loaded : Schema}
    (isLoaded : schemaIn setting schema messages labels = .ok loaded) : loaded.Plain := by
  obtain ⟨document, read, afterDocument⟩ := Outcome.bind_eq_ok_iff.mp isLoaded
  obtain ⟨entries, rfl, documentPlain⟩ := plain_readObject read
  obtain ⟨bare, stands, afterBare⟩ := Outcome.bind_eq_ok_iff.mp afterDocument
  have plain := (Schema.readDocument_of_plain lawful.parse (.map documentPlain)).2 bare stands
  obtain ⟨properties, _, afterProperties⟩ := Outcome.bind_eq_ok_iff.mp afterBare
  split at afterProperties
  · cases afterProperties
  · obtain ⟨_, _, afterWording⟩ := Outcome.bind_eq_ok_iff.mp afterProperties
    obtain ⟨_, _, isSchema⟩ := Outcome.bind_eq_ok_iff.mp afterWording
    cases isSchema
    exact ⟨plain.names, plain.properties, plain.rules⟩

/-- Errors of loading that end a command in disorder: the values in a file or the properties of the
schema are nested too deep, or a value in the document of the schema is not of a kind that reading
its properties takes. -/
inductive EscapesLoading (setting : Setting) (schema : String) {α : Type}
    (loading : Except Error α) : Error → Prop
  | nested : loading = .error .endlessNesting →
      EscapesLoading setting schema loading .endlessNesting
  | unreadable {document : Value} {error : Error} :
      readObject setting.files (.text schema) "Schema" = .ok document →
      Schema.standingFor setting.parse document = .error error → isLoadingError error = false →
      EscapesLoading setting schema loading error

private theorem schemaIn_of_unreadable {document : Value} {error : Error}
    (read : readObject setting.files (.text schema) "Schema" = .ok document)
    (failed : Schema.standingFor setting.parse document = .error error) :
    schemaIn setting schema messages labels = .error error := by
  rw [schemaIn, read, Outcome.ok_bind, failed]
  rfl

theorem escapesLoading_schemaIn_iff (lawful : setting.Lawful) {error : Error} :
    EscapesLoading setting schema (schemaIn setting schema messages labels) error ↔
      schemaIn setting schema messages labels = .error error ∧ isLoadingError error = false := by
  constructor
  · rintro (failed | ⟨read, failed, uncaught⟩)
    · exact ⟨failed, rfl⟩
    · exact ⟨schemaIn_of_unreadable read failed, uncaught⟩
  · rintro ⟨failed, uncaught⟩
    have nested (ends : isLoadingError error = true ∨ error = .endlessNesting) :
        EscapesLoading setting schema (schemaIn setting schema messages labels) error := by
      rcases ends with caught | rfl
      · rw [uncaught] at caught
        cases caught
      · exact .nested failed
    rcases Outcome.bind_eq_error_iff.mp failed with notRead | ⟨document, read, afterDocument⟩
    · exact nested (isLoadingError_of_readObject lawful notRead)
    · obtain ⟨entries, rfl, _⟩ := plain_readObject read
      rcases Outcome.bind_eq_error_iff.mp afterDocument with notBare | ⟨bare, _, afterBare⟩
      · exact .unreadable read notBare uncaught
      · rcases Outcome.bind_eq_error_iff.mp afterBare with none | ⟨_, _, afterProperties⟩
        · cases none
        · split at afterProperties
          · cases afterProperties
            exact nested (Or.inr rfl)
          · rcases Outcome.bind_eq_error_iff.mp afterProperties with noMessages | ⟨_, _, rest⟩
            · exact nested (isLoadingError_of_readWording lawful noMessages)
            · rcases Outcome.bind_eq_error_iff.mp rest with noLabels | ⟨_, _, done⟩
              · exact nested (isLoadingError_of_readWording lawful noLabels)
              · cases done

theorem escapesLoading_inputs_iff (lawful : setting.Lawful) {error : Error} :
    EscapesLoading setting schema (inputs setting schema record messages labels) error ↔
      inputs setting schema record messages labels = .error error ∧
        isLoadingError error = false := by
  constructor
  · rintro (failed | ⟨read, failed, uncaught⟩)
    · exact ⟨failed, rfl⟩
    · rw [inputs, schemaIn_of_unreadable read failed]
      exact ⟨rfl, uncaught⟩
  · rintro ⟨failed, uncaught⟩
    rcases Outcome.bind_eq_error_iff.mp failed with noSchema | ⟨loaded, _, afterSchema⟩
    · have escapes := (escapesLoading_schemaIn_iff lawful).mpr ⟨noSchema, uncaught⟩
      rcases escapes with _ | ⟨read, notBare, _⟩
      · exact .nested failed
      · exact .unreadable read notBare uncaught
    · rcases Outcome.bind_eq_error_iff.mp afterSchema with noRecord | ⟨_, _, done⟩
      · rcases isLoadingError_of_readObject lawful noRecord with caught | rfl
        · rw [uncaught] at caught
          cases caught
        · exact .nested failed
      · cases done

end RecordSchema.CommandLine
