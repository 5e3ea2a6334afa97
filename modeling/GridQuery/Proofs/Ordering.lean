import GridQuery.Ordering
import GridQuery.Proofs.Field.Order

/-!
# Laws of the orderings of records

An ordering by keys is total, and sorting by it is stable: records that tie
keep the order that they stood in, which leaves one way to arrange a list.  A
list that is in one order therefore ends up, sorted by another one, in the order
in which the first breaks the ties of the second.
-/

namespace GridQuery

theorem transCmp_on
    {α β : Type} (cmp : β → β → Ordering) [Std.TransCmp cmp] (f : α → β) :
    Std.TransCmp fun left right => cmp (f left) (f right) where
  eq_swap := Std.OrientedCmp.eq_swap
  isLE_trans := Std.TransCmp.isLE_trans

theorem SortDirection.transCmp_apply
    {α : Type} {cmp : α → α → Ordering} [Std.TransCmp cmp]
    (direction : SortDirection) :
    Std.TransCmp fun left right => direction.apply (cmp left right) := by
  cases direction with
  | ascending => exact inferInstanceAs (Std.TransCmp cmp)
  | descending =>
      have swapped : (fun left right =>
          SortDirection.descending.apply (cmp left right)) =
          fun left right => cmp right left := by
        funext left right
        exact Std.OrientedCmp.eq_swap.symm
      rw [swapped]
      exact Std.TransCmp.opposite

/-- Sorting leaves elements that all tie in the order that they stood in. -/
theorem filter_mergeSort_of_tied {α : Type} {le : α → α → Bool}
    (trans : ∀ first second third, le first second = true →
      le second third = true → le first third = true)
    (total : ∀ left right, (le left right || le right left) = true)
    {kept : α → Bool}
    (tied : ∀ left right, kept left = true → kept right = true →
      le left right = true)
    (list : List α) :
    (list.mergeSort le).filter kept = list.filter kept := by
  have inOrder : (list.filter kept).Pairwise fun left right =>
      le left right = true := by
    apply List.pairwise_of_forall_mem_list
    intro left leftKept right rightKept
    exact tied left right (List.mem_filter.mp leftKept).2
      (List.mem_filter.mp rightKept).2
  have placed : (list.filter kept).Sublist (list.mergeSort le) :=
    List.sublist_mergeSort trans total inOrder List.filter_sublist
  have within := placed.filter kept
  simp only [List.filter_filter, Bool.and_self] at within
  exact (within.eq_of_length
    ((List.mergeSort_perm list le).filter kept).length_eq.symm).symm

section Sorting

variable {α : Type} (cmp : α → α → Ordering) [Std.TransCmp cmp]

theorem cmp_isLE_trans (first second third : α)
    (le : (cmp first second).isLE = true)
    (le' : (cmp second third).isLE = true) :
    (cmp first third).isLE = true :=
  Std.TransCmp.isLE_trans le le'

theorem cmp_isLE_total (left right : α) :
    ((cmp left right).isLE || (cmp right left).isLE) = true := by
  have swapped : cmp right left = (cmp left right).swap :=
    Std.OrientedCmp.eq_swap
  rw [swapped]
  cases cmp left right <;> rfl

theorem pairwise_mergeSort_then
    {tie : α → α → Ordering} {list : List α}
    (inOrder : list.Pairwise fun left right =>
      (tie left right).isLE = true) :
    (list.mergeSort fun left right => (cmp left right).isLE).Pairwise
      fun left right =>
        ((cmp left right).then (tie left right)).isLE = true := by
  induction list with
  | nil => simp
  | cons head tail induction =>
      obtain ⟨headLe, tailInOrder⟩ := List.pairwise_cons.mp inOrder
      obtain ⟨before, after, whole, sorted, less⟩ :=
        List.mergeSort_cons (cmp_isLE_trans cmp) (cmp_isLE_total cmp) head tail
      have sortedWhole : (before ++ head :: after).Pairwise
          fun left right => (cmp left right).isLE = true := by
        rw [← whole]
        exact List.pairwise_mergeSort (cmp_isLE_trans cmp)
          (cmp_isLE_total cmp) (head :: tail)
      have refined := induction tailInOrder
      rw [sorted] at refined
      obtain ⟨refinedBefore, refinedAfter, across⟩ :=
        List.pairwise_append.mp refined
      obtain ⟨-, sortedAfter, -⟩ := List.pairwise_append.mp sortedWhole
      rw [whole, List.pairwise_append, List.pairwise_cons]
      refine ⟨refinedBefore, ⟨?_, refinedAfter⟩, ?_⟩
      · intro later member
        have le := (List.pairwise_cons.mp sortedAfter).1 later member
        have inTail : later ∈ tail := by
          rw [← List.mem_mergeSort, sorted]
          exact List.mem_append_right before member
        cases order : cmp head later with
        | lt => rfl
        | eq => exact headLe later inTail
        | gt => simp [order] at le
      · intro earlier member later laterMember
        rcases List.mem_cons.mp laterMember with rfl | inAfter
        · have notLe := less earlier member
          have lt : cmp earlier later = .lt := by
            apply Std.OrientedCmp.lt_of_not_isLE
            simpa using notLe
          simp [lt]
        · exact across earlier member later inAfter

end Sorting

namespace RecordOrder

variable {ρ : Type} [Record ρ]

instance transCmp_compareBy (key : SortKey) :
    Std.TransCmp fun left right : ρ => compareBy key left right := by
  have read : Std.TransCmp fun left right : ρ =>
      (key.field.read left).order (key.field.read right) :=
    transCmp_on FieldValue.order key.field.read
  exact key.direction.transCmp_apply

instance transCmp_compareByKeys (keys : List SortKey) :
    Std.TransCmp fun left right : ρ => compareByKeys keys left right := by
  induction keys with
  | nil =>
      exact
        { eq_swap := rfl
          isLE_trans := fun le _ => le }
  | cons key keys induction =>
      exact inferInstanceAs (Std.TransCmp
        (compareLex (compareBy (ρ := ρ) key) (compareByKeys keys)))

instance transCmp_compare (order : RecordOrder) :
    Std.TransCmp fun left right : ρ => order.compare left right :=
  transCmp_compareByKeys order.keys

/-- A list holds the records of another one in the order that an ordering asks
for, and records that tie in the order that they stood in. -/
structure SortsStably (order : RecordOrder) (records sorted : List ρ) :
    Prop where
  perm : sorted.Perm records
  inOrder : sorted.Pairwise fun left right =>
    (order.compare left right).isLE = true
  stable : ∀ record : ρ,
    (sorted.filter fun other => order.compare record other = .eq) =
      records.filter fun other => order.compare record other = .eq

variable {order : RecordOrder} {records : List ρ}

theorem sortsStably_sort (order : RecordOrder) (records : List ρ) :
    order.SortsStably records (order.sort records) where
  perm := List.mergeSort_perm records _
  inOrder := List.pairwise_mergeSort (cmp_isLE_trans order.compare)
    (cmp_isLE_total order.compare) records
  stable record := by
    apply filter_mergeSort_of_tied (cmp_isLE_trans order.compare)
      (cmp_isLE_total order.compare)
    intro left right leftTies rightTies
    simp only [decide_eq_true_eq] at leftTies rightTies
    have ties : order.compare left right = .eq :=
      Std.TransCmp.eq_trans (Std.OrientedCmp.eq_symm leftTies) rightTies
    rw [ties]
    rfl

theorem head_isLE_of_mem {head record : ρ} {tail : List ρ}
    (inOrder : (head :: tail).Pairwise fun left right =>
      (order.compare left right).isLE = true)
    (member : record ∈ head :: tail) :
    (order.compare head record).isLE = true := by
  rcases List.mem_cons.mp member with rfl | later
  · exact Std.ReflCmp.isLE_rfl
  · exact (List.pairwise_cons.mp inOrder).1 record later

/-- Lists in order with the same records, the records that tie in the same
order, are the same. -/
theorem eq_of_inOrder {left right : List ρ} (perm : left.Perm right)
    (leftOrder : left.Pairwise fun first second =>
      (order.compare first second).isLE = true)
    (rightOrder : right.Pairwise fun first second =>
      (order.compare first second).isLE = true)
    (stable : ∀ record : ρ,
      (left.filter fun other => order.compare record other = .eq) =
        right.filter fun other => order.compare record other = .eq) :
    left = right := by
  induction left generalizing right with
  | nil => exact perm.nil_eq
  | cons first left induction =>
      cases right with
      | nil => exact absurd perm.eq_nil (List.cons_ne_nil _ _)
      | cons head right =>
          have tie : order.compare first head = .eq :=
            Std.OrientedCmp.isLE_antisymm
              (head_isLE_of_mem leftOrder
                (perm.mem_iff.mpr List.mem_cons_self))
              (head_isLE_of_mem rightOrder
                (perm.mem_iff.mp List.mem_cons_self))
          have self : order.compare first first = .eq :=
            Std.ReflCmp.compare_self
          have heads := stable first
          simp only [List.filter_cons, tie, self] at heads
          obtain rfl := (List.cons.inj heads).1
          rw [induction perm.cons_inv leftOrder.of_cons rightOrder.of_cons]
          intro record
          have whole := stable record
          simp only [List.filter_cons] at whole
          split at whole
          · exact (List.cons.inj whole).2
          · exact whole

/-- Only one list is sorted stably: the one that sorting leaves. -/
theorem sortsStably_iff {sorted : List ρ} :
    order.SortsStably records sorted ↔ sorted = order.sort records := by
  constructor
  · intro sorts
    have made := order.sortsStably_sort records
    exact eq_of_inOrder (sorts.perm.trans made.perm.symm) sorts.inOrder
      made.inOrder fun record =>
        (sorts.stable record).trans (made.stable record).symm
  · rintro rfl
    exact order.sortsStably_sort records

end RecordOrder

end GridQuery
