import RecordSchema.Proofs.Value.Order
import RecordSchema.Rule.Comparison

/-!
# Coherence of the comparisons

The six operators fit together on values without doubles: each has its converse, and no two of
them that exclude each other hold of one pair.
-/

namespace RecordSchema.Rule

variable {left right : Value}

private theorem compareBy_eq_true_iff {operator : String} {relation : Relation}
    (isRelation : relation? operator = some relation) (isOrder : relation ∈ Relation.orders) :
    compareBy left operator right = true ↔ Value.ordered? relation left right = some true := by
  have asksForOrder : Value.relate? relation left right = Value.ordered? relation left right := by
    simp only [Relation.orders, List.mem_cons, List.not_mem_nil, or_false] at isOrder
    rcases isOrder with rfl | rfl | rfl | rfl <;> rfl
  simp only [compareBy, isRelation, asksForOrder]
  cases Value.ordered? relation left right with
  | none =>
      simp
  | some holds =>
      simp

private theorem exists_relation_of_order {operator : String}
    (isOrder : operator ∈ ["<", "<=", ">", ">="]) :
    ∃ relation ∈ Relation.orders, relation? operator = some relation := by
  simp only [List.mem_cons, List.not_mem_nil, or_false] at isOrder
  rcases isOrder with rfl | rfl | rfl | rfl
  · exact ⟨.less, by decide, rfl⟩
  · exact ⟨.lessOrEqual, by decide, rfl⟩
  · exact ⟨.greater, by decide, rfl⟩
  · exact ⟨.greaterOrEqual, by decide, rfl⟩

/-- Comparing values without doubles is coherent: unequal is not equal; less, and less or equal, are
greater, and greater or equal, from the other side; less implies less or equal, and excludes equal
and greater; and if the comparison comes down to values without order, none of the four orders
holds. -/
theorem compare_coherent (free : left.DoubleFree) (rightFree : right.DoubleFree) :
    (∀ operator, compare left (.text operator) right = .ok (compareBy left operator right)) ∧
      compareBy left "!=" right = (!compareBy left "=" right) ∧
      compareBy left "<" right = compareBy right ">" left ∧
      compareBy left "<=" right = compareBy right ">=" left ∧
      (compareBy left "<" right = true → compareBy left "<=" right = true ∧
        compareBy left "=" right = false ∧ compareBy left ">" right = false) ∧
      ∀ first second, Value.Meets left right first second → Value.Incomparable first second →
        ∀ operator ∈ ["<", "<=", ">", ">="], compareBy left operator right = false := by
  refine ⟨fun _ => rfl, rfl, ?_, ?_, ?_, ?_⟩
  · exact congrArg (Option.getD · false) (free.ordered?_swap rightFree)
  · exact congrArg (Option.getD · false) (free.ordered?_swap rightFree)
  · intro less
    have strict := Value.strictlyLess_of_less ((compareBy_eq_true_iff rfl (by decide)).mp less)
    refine ⟨(compareBy_eq_true_iff rfl (by decide)).mpr strict.lessOrEqual, strict.notEqual, ?_⟩
    exact Bool.eq_false_iff.mpr fun greater =>
      strict.notGreater ((compareBy_eq_true_iff rfl (by decide)).mp greater)
  · intro first second meets incomparable operator isOrder
    obtain ⟨relation, inOrders, isRelation⟩ := exists_relation_of_order isOrder
    rw [Bool.eq_false_iff, ne_eq, compareBy_eq_true_iff isRelation inOrders, meets.ordered?_eq]
    exact incomparable.not_ordered inOrders

/-- Of two lists that begin with equal members, the one with the smaller next member is less; where
the next members are null and a text, neither is. -/
theorem compare_coherent_nested :
    (compareBy (.list [.tuple [.bool true, .set [.text "a"]], .int 2]) "<"
        (.list [.tuple [.int 1, .set [.text "a"]], .int 3]) = true ∧
      compareBy (.list [.tuple [.int 1, .set [.text "a"]], .int 3]) ">"
        (.list [.tuple [.bool true, .set [.text "a"]], .int 2]) = true) ∧
      compareBy (.list [.map [("k", .bool true)], .null]) "<="
        (.list [.map [("k", .int 1)], .text "x"]) = false := by
  have smallFree : (Value.list [.tuple [.bool true, .set [.text "a"]], .int 2]).DoubleFree := by
    simp [Value.doubleFree_list, Value.doubleFree_tuple, Value.doubleFree_set,
      Value.DoubleFree.bool, Value.DoubleFree.text, Value.DoubleFree.int]
  have largeFree : (Value.list [.tuple [.int 1, .set [.text "a"]], .int 3]).DoubleFree := by
    simp [Value.doubleFree_list, Value.doubleFree_tuple, Value.doubleFree_set,
      Value.DoubleFree.text, Value.DoubleFree.int]
  have nullFree : (Value.list [.map [("k", .bool true)], .null]).DoubleFree := by
    simp [Value.doubleFree_list, Value.doubleFree_map, Fields.Distinct, Value.DoubleFree.bool,
      Value.DoubleFree.null]
  have textFree : (Value.list [.map [("k", .int 1)], .text "x"]).DoubleFree := by
    simp [Value.doubleFree_list, Value.doubleFree_map, Fields.Distinct, Value.DoubleFree.int,
      Value.DoubleFree.text]
  have less : compareBy (.list [.tuple [.bool true, .set [.text "a"]], .int 2]) "<"
      (.list [.tuple [.int 1, .set [.text "a"]], .int 3]) = true := by
    decide
  have swapped := (compare_coherent smallFree largeFree).2.2.1
  refine ⟨⟨less, swapped ▸ less⟩, ?_⟩
  have apart := (compare_coherent nullFree textFree).2.2.2.2.2
  refine apart .null (.text "x") ?_ (.kinds ?_) "<=" (by decide)
  · change Value.Meets (.list ([.map [("k", .bool true)]] ++ .null :: []))
      (.list ([.map [("k", .int 1)]] ++ .text "x" :: [])) _ _
    exact .inLists (by decide) (by decide) (.here _ _)
  · intro shares
    cases shares with
    | numbers isNumber isOther =>
        cases isNumber

end RecordSchema.Rule
