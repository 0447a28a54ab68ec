import RecordSchema.Proofs.Name
import RecordSchema.Value.Conversion

/-!
# Values of a known kind

What conversions and comparisons come to on texts, truth values, lists and maps.
-/

namespace RecordSchema.Value

@[simp]
theorem parts_list (items : List Value) : (Value.list items).parts = .ok items := rfl

@[simp]
theorem field_map (entries : Fields Value) (name : String) :
    (Value.map entries).field name = .ok ((entries.get? name).getD .null) := rfl

theorem field_of_mapping? {value : Value} {entries : Fields Value Name}
    (isMap : value.mapping? = some entries) (name : String) :
    value.field name = .ok ((entries.get? (.text name)).getD .null) := by
  cases value with
  | map fields =>
      cases isMap
      rw [field_map, Fields.get?_named]
  | keyed _ =>
      cases isMap
      rfl
  | _ =>
      cases isMap

/-- An empty list in the place of a list that counts as false changes nothing. -/
@[simp]
theorem orElse_list (items : List Value) :
    (Value.list items).orElse (.list []) = .list items := by
  cases items with
  | nil =>
      rfl
  | cons item rest =>
      rfl

@[simp]
theorem orElse_map (entries : Fields Value) :
    (Value.map entries).orElse (.map []) = .map entries := by
  cases entries with
  | nil =>
      rfl
  | cons entry rest =>
      rfl

@[simp]
theorem toMapping_toValue (fields : Fields Value Name) : fields.toValue.toMapping = .ok fields := by
  rw [toMapping, Fields.mapping?_toValue]

/-- An empty map in the place of fields that count as false changes nothing. -/
@[simp]
theorem orElse_toValue (fields : Fields Value Name) :
    fields.toValue.orElse (.map []) = fields.toValue := by
  cases fields with
  | nil =>
      rfl
  | cons field rest =>
      unfold Fields.toValue
      split
      · exact orElse_map _
      · rfl

@[simp]
theorem toFields_map (entries : Fields Value) : (Value.map entries).toFields = .ok entries := rfl

@[simp]
theorem allHashable_map_text (texts : List String) : allHashable (texts.map .text) = true := by
  induction texts with
  | nil =>
      rfl
  | cons text rest inductionHypothesis =>
      simp [allHashable, isHashable, inductionHypothesis]

@[simp]
theorem equals_text (left right : String) :
    (Value.text left).equals (.text right) = (left == right) := by
  simp [equals]

@[simp]
theorem agrees_text (left right : String) :
    (Value.text left).agrees (.text right) = (left == right) := by
  simp [agrees, isSameNan]

@[simp]
theorem strictlyEquals_true (flag : Bool) :
    (Value.bool flag).strictlyEquals (.bool true) = flag := by
  cases flag <;>
    simp [strictlyEquals, sameType, typeName, equals, numeral?, Numeral.equals, Numeral.compare?]

end RecordSchema.Value
