import GridQuery.Field.Value
import GridQuery.Proofs.Calendar.DateTime
import GridQuery.Proofs.Text.Order

/-!
# Laws of the order of field values

Values of different kinds are ordered by the ranks of their kinds, values of
one kind within it, and each of these orders is total.  Therefore the order of
all values is total, floats that are no numbers and null included.
-/

namespace GridQuery

open Number

instance : Std.TransCmp Binary64.totalOrder :=
  inferInstanceAs (Std.TransCmp (compareOn Binary64.rank))

instance : Std.TransCmp Decimal.order :=
  inferInstanceAs (Std.TransCmp (compareOn Decimal.units))

instance : Std.TransCmp Uuid.order :=
  inferInstanceAs (Std.TransCmp (compareOn Uuid.value))

namespace FieldValue

theorem order_eq_compare_rank {left right : FieldValue}
    (different : left.rank ≠ right.rank) :
    left.order right = compare left.rank right.rank := by
  cases left <;> cases right <;>
    first
      | rfl
      | exact absurd rfl different

theorem rank_le_of_order_isLE {left right : FieldValue}
    (le : (left.order right).isLE = true) : left.rank ≤ right.rank := by
  by_cases same : left.rank = right.rank
  · exact Nat.le_of_eq same
  · rw [order_eq_compare_rank same] at le
    exact Nat.isLE_compare.mp le

theorem order_eq_swap_of_rank_eq {left right : FieldValue}
    (same : left.rank = right.rank) :
    left.order right = (right.order left).swap := by
  cases left <;> cases right <;> cases same <;>
    simp only [order] <;> exact Std.OrientedCmp.eq_swap

theorem order_isLE_trans_of_rank_eq {first second third : FieldValue}
    (same : first.rank = second.rank) (same' : second.rank = third.rank)
    (le : (first.order second).isLE = true)
    (le' : (second.order third).isLE = true) :
    (first.order third).isLE = true := by
  cases first <;> cases second <;> cases same <;>
    cases third <;> cases same' <;>
    simp only [order] at le le' ⊢ <;> exact Std.TransCmp.isLE_trans le le'

instance : Std.TransCmp order where
  eq_swap {left right} := by
    by_cases same : left.rank = right.rank
    · exact order_eq_swap_of_rank_eq same
    · rw [order_eq_compare_rank same, order_eq_compare_rank (Ne.symm same)]
      exact Std.OrientedCmp.eq_swap
  isLE_trans {first second third} le le' := by
    have rank := rank_le_of_order_isLE le
    have rank' := rank_le_of_order_isLE le'
    by_cases same : first.rank = third.rank
    · exact order_isLE_trans_of_rank_eq (by omega) (by omega) le le'
    · rw [order_eq_compare_rank same]
      exact Nat.isLE_compare.mpr (by omega)

theorem isNull_eq_true_iff {value : FieldValue} :
    value.isNull = true ↔ value = .null := by
  cases value <;> simp [isNull]

theorem order_null_of_not_isNull {value : FieldValue}
    (notNull : value.isNull = false) : null.order value = .lt := by
  cases value with
  | null => cases notNull
  | _ => rfl

theorem eq_null_of_order_null_isLE {value : FieldValue}
    (le : (value.order .null).isLE = true) : value = .null := by
  have rank : value.rank ≤ 0 := rank_le_of_order_isLE le
  cases value with
  | null => rfl
  | _ => cases rank

end FieldValue

end GridQuery
