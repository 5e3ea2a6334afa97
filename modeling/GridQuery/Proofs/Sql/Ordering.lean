import GridQuery.Proofs.Ordering
import GridQuery.Sort
import GridQuery.Sql.Answer

/-!
# Laws of the orderings of queries

The keys of a query order its rows totally, wherever they put nulls.  With the
place for nulls that a direction asks for, a key orders rows exactly as the
ordering of records orders values.
-/

namespace GridQuery.Sql

/-- Where a value stands before values are looked at: null on its side of all
others. -/
def nullRank (nulls : NullPlace) (value : FieldValue) : Nat :=
  if value.isNull then (if nulls = .first then 0 else 2) else 1

theorem directedOrder_eq_compareLex
    (direction : SortDirection) (nulls : NullPlace) :
    directedOrder direction nulls =
      compareLex (compareOn (nullRank nulls))
        (fun left right => direction.apply (left.order right)) := by
  funext left right
  unfold directedOrder compareLex compareOn nullRank
  cases leftNull : left.isNull <;> cases rightNull : right.isNull
  case true.true =>
    rw [FieldValue.isNull_eq_true_iff.mp leftNull,
      FieldValue.isNull_eq_true_iff.mp rightNull]
    cases nulls <;> cases direction <;> rfl
  all_goals cases nulls <;> rfl

theorem directedOrder_nullPlace
    (direction : SortDirection) (left right : FieldValue) :
    directedOrder direction (Sort.nullPlace direction) left right =
      direction.apply (left.order right) := by
  unfold directedOrder
  cases leftNull : left.isNull <;> cases rightNull : right.isNull
  case false.false => rfl
  case true.true =>
    rw [FieldValue.isNull_eq_true_iff.mp leftNull,
      FieldValue.isNull_eq_true_iff.mp rightNull]
    cases direction <;> rfl
  case true.false =>
    rw [FieldValue.isNull_eq_true_iff.mp leftNull,
      FieldValue.order_null_of_not_isNull rightNull]
    cases direction <;> rfl
  case false.true =>
    have swapped : left.order .null = (FieldValue.null.order left).swap :=
      Std.OrientedCmp.eq_swap
    rw [FieldValue.isNull_eq_true_iff.mp rightNull, swapped,
      FieldValue.order_null_of_not_isNull leftNull]
    cases direction <;> rfl

instance (direction : SortDirection) (nulls : NullPlace) :
    Std.TransCmp (directedOrder direction nulls) := by
  have directed : Std.TransCmp fun left right : FieldValue =>
      direction.apply (left.order right) :=
    direction.transCmp_apply
  rw [directedOrder_eq_compareLex]
  infer_instance

instance (term : OrderTerm) :
    Std.TransCmp fun left right : Row => term.order left right := by
  cases term with
  | column name direction nulls =>
      exact transCmp_on (directedOrder direction nulls)
        fun row : Row => row name
  | key table name =>
      exact transCmp_on FieldValue.order fun row : Row => row name

/-- The order of rows by keys is total. -/
instance transCmp_rowOrder (terms : List OrderTerm) :
    Std.TransCmp fun left right : Row => rowOrder left right terms := by
  induction terms with
  | nil =>
      exact
        { eq_swap := rfl
          isLE_trans := fun le _ => le }
  | cons term terms induction =>
      exact inferInstanceAs (Std.TransCmp
        (compareLex (fun left right : Row => term.order left right)
          (fun left right : Row => rowOrder left right terms)))

theorem rowOrder_eq_of_isLE {left right : Row} {terms : List OrderTerm}
    (le : (rowOrder left right terms).isLE = true)
    (ge : (rowOrder right left terms).isLE = true) :
    rowOrder left right terms = .eq := by
  have swapped : rowOrder right left terms =
      (rowOrder left right terms).swap :=
    (transCmp_rowOrder terms).eq_swap
  rw [swapped] at ge
  cases order : rowOrder left right terms with
  | lt => simp [order] at ge
  | eq => rfl
  | gt => simp [order] at le

theorem rowOrder_append
    (left right : Row) (terms others : List OrderTerm) :
    rowOrder left right (terms ++ others) =
      (rowOrder left right terms).then (rowOrder left right others) := by
  induction terms with
  | nil => rfl
  | cons term terms induction =>
      rw [List.cons_append, rowOrder, induction, rowOrder,
        Ordering.then_assoc]

/-- Rows that have the values of records in the columns of the keys are
ordered by the terms of the keys as the records are by the keys. -/
theorem rowOrder_queryTerm
    {ρ : Type} [Record ρ] {leftRecord rightRecord : ρ} {left right : Row}
    {keys : List SortKey}
    (leftKept : ∀ key ∈ keys,
      left key.field.column = key.field.read leftRecord)
    (rightKept : ∀ key ∈ keys,
      right key.field.column = key.field.read rightRecord) :
    rowOrder left right (keys.map Sort.queryTerm) =
      RecordOrder.compareByKeys keys leftRecord rightRecord := by
  induction keys with
  | nil => rfl
  | cons key keys induction =>
      obtain ⟨leftKey, leftKeys⟩ := List.forall_mem_cons.mp leftKept
      obtain ⟨rightKey, rightKeys⟩ := List.forall_mem_cons.mp rightKept
      rw [List.map_cons, rowOrder, induction leftKeys rightKeys,
        RecordOrder.compareByKeys, Sort.queryTerm, OrderTerm.order,
        directedOrder_nullPlace, leftKey, rightKey, RecordOrder.compareBy]

end GridQuery.Sql
