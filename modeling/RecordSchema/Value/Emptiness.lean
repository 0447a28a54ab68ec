import RecordSchema.Text.Blank
import RecordSchema.Value.Basic

/-!
# Missing, blank and empty values

Three notions of nothing: a blank value is absent or the empty text, an empty value is whatever
a form leaves behind when nothing is chosen, and a value is present for the rules unless it is
absent, white space, or a collection without elements.
-/

namespace RecordSchema.Value

/-- Absent or the empty text. -/
def isBlank : Value → Bool
  | .null => true
  | .text value => value == ""
  | _ => false

/-- Absent, false, zero, the empty text, the text of a zero, or an empty collection. -/
def isEmpty : Value → Bool
  | .null => true
  | .bool value => !value
  | .int value => value == 0
  | .double value => value.isZero
  | .text value => value == "" || value == "0"
  | .map entries => entries.isEmpty
  | .keyed entries => entries.isEmpty
  | .list items => items.isEmpty
  | .tuple items => items.isEmpty
  | .set items => items.isEmpty
  | _ => false

def isPresent : Value → Bool
  | .null => false
  | .text value => !(Text.trim value.toList).isEmpty
  | .map entries => !entries.isEmpty
  | .keyed entries => !entries.isEmpty
  | .list items => !items.isEmpty
  | .tuple items => !items.isEmpty
  | .set items => !items.isEmpty
  | _ => true

end RecordSchema.Value
