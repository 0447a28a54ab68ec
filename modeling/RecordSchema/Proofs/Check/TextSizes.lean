import RecordSchema.Proofs.Check.Obstacles
import RecordSchema.Proofs.Number.Notation

/-!
# The sizes of texts

A text has a size under all rules, unless it counts as a number under a rule about numbers and holds
a separator control.
-/

namespace RecordSchema.Call

variable {call : Call} {text : String}

/-- A text that has no size is one that cannot be converted. -/
theorem error_of_size_text (isText : call.value = .text text) {error : Error}
    (failed : call.size = .error error) : error = .badValue := by
  unfold size at failed
  cases kind : call.sizeKind with
  | worth =>
      rw [kind, isText, worth] at failed
      cases read : Number.readDouble? text with
      | some number =>
          rw [read] at failed
          cases failed
      | none =>
          rw [read] at failed
          cases failed
          rfl
  | count =>
      rw [kind] at failed
      cases failed
  | length =>
      rw [kind] at failed
      cases failed

private theorem sizeObstacle_text_iff (isText : call.value = .text text) :
    SizeObstacle call ↔ (∃ name ∈ call.ruleNames, name ∈ numericRules) ∧
      Number.isNumericText text = true ∧ ∃ c ∈ text.toList, c ∈ Text.separators := by
  rw [sizeObstacle_text isText, and_assoc]
  refine and_congr_right fun _ => and_congr_right fun counts => ?_
  rw [← Option.not_isSome_iff_eq_none, Number.isSome_readDouble?_iff counts]
  simp

/-- The text of an integer counts as a number, and what counts as a number can be read as one
exactly if it holds no separator.  So a text has a size exactly if, under a rule about numbers, it
does not count as a number or holds no separator. -/
theorem size_of_text_iff (text : String) :
    (Number.isIntegerText text = true → Number.isNumericText text = true) ∧
      (Number.isNumericText text = true →
        ((∃ number, Number.readDouble? text = some number) ↔
          ∀ c ∈ text.toList, c ∉ Text.separators)) ∧
      ∀ call : Call, call.value = .text text →
        ((∃ size, call.size = .ok size) ↔
          ((∃ name ∈ call.ruleNames, name ∈ numericRules) → Number.isNumericText text = true →
            ∀ c ∈ text.toList, c ∉ Text.separators)) ∧
        ∀ error, call.size = .error error → error = .badValue := by
  refine ⟨Number.isNumericText_of_isIntegerText, fun counts => ?_, fun call isText => ⟨?_, ?_⟩⟩
  · rw [← Number.isSome_readDouble?_iff counts, Option.isSome_iff_exists]
  · rw [size_isOk_iff, sizeObstacle_text_iff isText]
    simp
  · exact fun _ => error_of_size_text isText

/-- A no-break space, a twelve in Arabic digits, and a new line. -/
theorem size_of_text_iff_twelve :
    let text := "\u00a0\u0661\u0662\n"
    let call : Call := ⟨.text "age", .text text, ["1", "20"], [("age", .text text)],
      ["integer", "between"]⟩
    Number.isIntegerText text = true ∧ Number.isNumericText text = true ∧
      (∃ number, Number.readDouble? text = some number) ∧ call.value = .text text ∧
      ∃ size, call.size = .ok size := by
  intro text call
  have integer : Number.isIntegerText text = true := by
    decide +kernel
  have noSeparator : ∀ c ∈ text.toList, c ∉ Text.separators := by
    have kept : text.toList.all fun c => !Text.separators.contains c := by
      decide
    simpa using List.all_eq_true.mp kept
  obtain ⟨counts, readable, sizes⟩ := size_of_text_iff text
  exact ⟨integer, counts integer, (readable (counts integer)).mpr noSeparator, rfl,
    (sizes call rfl).1.mpr fun _ _ => noSeparator⟩

/-- The text of an integer from which no number can be read, and which has no size. -/
theorem size_refuses_separator :
    let text := "12\u001d"
    let call : Call := ⟨.text "age", .text text, ["1", "20"], [("age", .text text)],
      ["integer", "between"]⟩
    Number.isIntegerText text = true ∧ Number.isNumericText text = true ∧
      Number.readDouble? text = none ∧ call.size = .error .badValue := by
  refine ⟨?_, ?_, ?_, ?_⟩
  · decide +kernel
  · decide +kernel
  · decide +kernel
  · rfl

end RecordSchema.Call
