import GridQuery.Filter.Numeric
import GridQuery.Proofs.Filter.Agreement

/-!
# Comparisons of columns

What the six comparisons say of two numbers, and when a column compared with a
value satisfies them.  Null is accepted by the comparison for different values
alone, which asks for it where the field can be null.
-/

namespace GridQuery

/-- Two numbers stand in the relation that a comparison is named for. -/
def Comparison.Relates {α : Type} [LT α] [LE α] (comparison : Comparison)
    (left right : α) : Prop :=
  match comparison with
  | equal => left = right
  | notEqual => left ≠ right
  | greater => right < left
  | greaterOrEqual => right ≤ left
  | less => left < right
  | lessOrEqual => left ≤ right

theorem Comparison.accepts_compare_iff
    (comparison : Comparison) (left right : Int) :
    comparison.accepts (compare left right) = true ↔
      comparison.Relates left right := by
  rcases Int.lt_trichotomy left right with less | same | greater
  · rw [Int.compare_eq_lt.mpr less]
    cases comparison <;> simp [accepts, Relates] <;> omega
  · rw [Int.compare_eq_eq.mpr same]
    cases comparison <;> simp [accepts, Relates] <;> omega
  · rw [Int.compare_eq_gt.mpr greater]
    cases comparison <;> simp [accepts, Relates] <;> omega

namespace Filter

variable {field : FieldDescriptor} {row : Sql.Row}

theorem truth_compareColumn_iff_of_value {content : Sql.Value}
    (kept : Sql.ofField? (row field.column) = some content)
    (comparison : Comparison) (value : Sql.Value) :
    (compareColumn field comparison value).truth row = some true ↔
      content.satisfies comparison value = true := by
  have isNull : (Sql.Test.isNull (.column field.column)).truth row =
      some false := by
    simp [Sql.Test.truth, kept]
  have compared :
      (Sql.Test.compare (.column field.column) comparison (.value value)).truth
        row = some (content.satisfies comparison value) :=
    Sql.Test.truth_compare (by simpa using kept) rfl comparison
  unfold compareColumn
  split
  · by_cases optional : field.isOptional = true
    · simp [optional, compared, isNull]
    · simp [optional, compared]
  · simp [compared]

theorem truth_compareColumn_iff_of_null
    (kept : row field.column = .null) (optional : field.isOptional = true)
    (comparison : Comparison) (value : Sql.Value) :
    (compareColumn field comparison value).truth row = some true ↔
      comparison.acceptsNull = true := by
  have missing : (Sql.Term.column field.column).value? row = none := by
    simp [kept, Sql.ofField?]
  have isNull : (Sql.Test.isNull (.column field.column)).truth row =
      some true := by
    simp [Sql.Test.truth, missing]
  have compared :
      (Sql.Test.compare (.column field.column) comparison (.value value)).truth
        row = none :=
    Sql.Test.truth_compare_of_null missing comparison (.value value)
  unfold compareColumn
  split
  · rename_i different
    simp [isNull, different]
  · rename_i ordered
    simp [compared, ordered]

end Filter

end GridQuery
