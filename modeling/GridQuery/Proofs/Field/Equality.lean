import GridQuery.Proofs.Field.Order
import GridQuery.Proofs.Filter.Numeric

/-!
# Equality of values in queries

A value of a field and a parameter of the same kind are equal for a query
exactly if they are equal as values of fields.  Decimals are equal by value,
and so are floats, of which those that are no numbers equal nothing.
-/

namespace GridQuery

open Number

instance : Std.LawfulEqCmp Uuid.order where
  compare_self {u} := by simp [Uuid.order]
  eq_of_compare {left right} tied := by
    have value : left.value = right.value := Nat.compare_eq_eq.mp tied
    cases left
    cases right
    cases value
    rfl

instance : Std.LawfulEqCmp DateTime.order where
  compare_self {t} := by
    rw [DateTime.order_eq_compare]
    exact Std.ReflCmp.compare_self
  eq_of_compare {left right} tied := by
    simp only [DateTime.order, Ordering.then_eq_eq, Nat.compare_eq_eq]
      at tied
    obtain ⟨⟨date, second⟩, nanosecond⟩ := tied
    have date : left.date = right.date :=
      Std.LawfulEqCmp.compare_eq_iff_eq.mp date
    cases left
    cases right
    cases date
    cases second
    cases nanosecond
    rfl

theorem Number.Binary64.same_comm (left right : Binary64) :
    left.same right = right.same left := by
  have swapped : compare left.signedMagnitude right.signedMagnitude = .eq ↔
      compare right.signedMagnitude left.signedMagnitude = .eq := by
    rw [Int.compare_eq_eq, Int.compare_eq_eq, eq_comm]
  unfold same partialOrder?
  rw [Bool.or_comm]
  split
  · rfl
  · rw [Bool.eq_iff_iff]
    simpa using swapped

namespace Sql.Value

variable {α : Type} [BEq α] [LawfulBEq α] {cmp : α → α → Ordering}
  [Std.LawfulEqCmp cmp]

theorem satisfies_equal_of_order? {content parameter : Value} {left right : α}
    (comparable : content.order? parameter = some (cmp left right)) :
    content.satisfies .equal parameter = (right == left) := by
  have tied : cmp left right = .eq ↔ left = right :=
    Std.LawfulEqCmp.compare_eq_iff_eq
  rw [satisfies_of_order?_eq_some comparable, Bool.eq_iff_iff,
    Comparison.accepts, beq_iff_eq, beq_iff_eq, tied, eq_comm]

theorem satisfies_equal_float (left right : Binary64) :
    (float left).satisfies .equal (float right) = left.same right := by
  unfold satisfies Binary64.same
  simp only [order?]
  cases left.partialOrder? right with
  | none => rfl
  | some ordering => cases ordering <;> rfl

theorem satisfies_equal_decimal (left right : Decimal) :
    (decimal left).satisfies .equal (decimal right) = right.same left := by
  have comparable : (decimal left).order? (decimal right) =
      some (left.order right) := by
    rw [Decimal.order_eq_numberOrder]
    rfl
  rw [satisfies_of_order?_eq_some comparable, Bool.eq_iff_iff,
    Comparison.accepts, beq_iff_eq, Decimal.same, beq_iff_eq, Decimal.order,
    Int.compare_eq_eq, eq_comm]

theorem satisfies_equal_integer (left right : Int64) :
    (integer left).satisfies .equal (integer right) = (right == left) := by
  have comparable : (integer left).order? (integer right) =
      some (numberOrder left.toInt right.toInt) := rfl
  rw [satisfies_of_order?_eq_some comparable, Bool.eq_iff_iff,
    Comparison.accepts_numberOrder_iff, Comparison.Relates, Int.cast_inj,
    Int64.toInt_inj, beq_iff_eq, eq_comm]

end Sql.Value

/-- The rank of the values of a kind. -/
def FieldKind.rank : FieldKind → Nat
  | bool => 1
  | integer => 2
  | float => 3
  | decimal => 4
  | text => 5
  | date => 6
  | dateTime => 7
  | dateTimeUtc => 8
  | uuid => 9
  | enumeration _ => 10

namespace FieldValue

theorem same_comm (left right : FieldValue) :
    left.same right = right.same left := by
  cases left <;> cases right
  case float.float left right => exact left.same_comm right
  all_goals simp only [same, Decimal.same, Bool.beq_comm]

theorem isNull_eq_of_same {left right : FieldValue}
    (same : left.same right = true) : left.isNull = right.isNull := by
  cases left <;> cases right <;>
    first
      | rfl
      | cases same

theorem rank_of_hasKind {value : FieldValue} {kind : FieldKind}
    (ofKind : value.hasKind kind = true) : value.rank = kind.rank := by
  cases value <;> cases kind <;>
    first
      | rfl
      | cases ofKind

/-- Equality in queries is that of the values, for two values of one sort. -/
theorem exists_satisfies_equal_eq_same {left right : FieldValue}
    (notNull : left.isNull = false) (same : left.rank = right.rank) :
    ∃ content parameter, Sql.ofField? left = some content ∧
      Sql.ofField? right = some parameter ∧
      content.satisfies .equal parameter = right.same left := by
  cases left <;> cases right <;> cases same
  case null => cases notNull
  all_goals rename_i left right; refine ⟨_, _, rfl, rfl, ?_⟩
  case bool => cases left <;> cases right <;> rfl
  case integer => exact Sql.Value.satisfies_equal_integer left right
  case float =>
    rw [Sql.Value.satisfies_equal_float, Binary64.same_comm]
    rfl
  case decimal => exact Sql.Value.satisfies_equal_decimal left right
  case text | enumeration =>
    rw [Sql.Value.satisfies_equal_of_order? rfl, same, Bool.eq_iff_iff,
      beq_iff_eq, beq_iff_eq, String.toList_inj]
  case date | dateTime | dateTimeUtc | uuid =>
    exact Sql.Value.satisfies_equal_of_order? rfl

end FieldValue

end GridQuery
