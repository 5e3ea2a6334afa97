import GridQuery.Proofs.Ordering

/-!
# Consistent comparisons

Field values of all kinds, and records by any keys, are compared as if each had
a place: every question that a sorting algorithm may ask about the members of a
list is answered as it would be about numbers.
-/

namespace GridQuery

/-- The laws of comparing by place: nothing stands before itself, a question
turned around has its answer turned around, and standing before and sharing a
place can be chained. -/
structure ComparesByPlace {α : Type} (cmp : α → α → Ordering) : Prop where
  self : ∀ value, cmp value value = .eq
  turned : ∀ left right, cmp right left = (cmp left right).swap
  lt_trans : ∀ {first second third}, cmp first second = .lt →
    cmp second third = .lt → cmp first third = .lt
  eq_trans : ∀ {first second third}, cmp first second = .eq →
    cmp second third = .eq → cmp first third = .eq
  lt_of_lt_of_eq : ∀ {first second third}, cmp first second = .lt →
    cmp second third = .eq → cmp first third = .lt
  lt_of_eq_of_lt : ∀ {first second third}, cmp first second = .eq →
    cmp second third = .lt → cmp first third = .lt

section Places

variable {α : Type} (cmp : α → α → Ordering) [Std.TransCmp cmp]

theorem comparesByPlace_of_transCmp : ComparesByPlace cmp where
  self _ := Std.ReflCmp.compare_self
  turned _ _ := Std.OrientedCmp.eq_swap
  lt_trans := Std.TransCmp.lt_trans
  eq_trans := Std.TransCmp.eq_trans
  lt_of_lt_of_eq := Std.TransCmp.lt_of_lt_of_eq
  lt_of_eq_of_lt := Std.TransCmp.lt_of_eq_of_lt

omit [Std.TransCmp cmp] in
/-- The place of a value among the members of a list: how many of them stand
before it. -/
def placeAmong (members : List α) (value : α) : Nat :=
  members.countP fun other => cmp other value == .lt

variable {members : List α} {left right : α}

theorem placeAmong_eq_of_tie (tie : cmp left right = .eq) :
    placeAmong cmp members left = placeAmong cmp members right := by
  apply List.countP_congr
  intro other _
  rw [Std.TransCmp.congr_right tie]

theorem placeAmong_lt_of_lt (member : left ∈ members)
    (before : cmp left right = .lt) :
    placeAmong cmp members left < placeAmong cmp members right := by
  have among (part : List α) :
      placeAmong cmp part left ≤ placeAmong cmp part right := by
    apply List.countP_mono_left
    intro other _ ahead
    rw [beq_iff_eq] at ahead ⊢
    exact Std.TransCmp.lt_trans ahead before
  obtain ⟨earlier, later, rfl⟩ := List.append_of_mem member
  have self : cmp left left = .eq := Std.ReflCmp.compare_self
  have counted := among earlier
  have countedLater := among later
  simp only [placeAmong, List.countP_append, List.countP_cons, self, before]
    at counted countedLater ⊢
  simp only [reduceCtorEq, beq_iff_eq, if_true, if_false]
  omega

theorem cmp_eq_compare_placeAmong (leftMember : left ∈ members)
    (rightMember : right ∈ members) :
    cmp left right =
      compare (placeAmong cmp members left)
        (placeAmong cmp members right) := by
  have turned : cmp right left = (cmp left right).swap :=
    Std.OrientedCmp.eq_swap
  cases asked : cmp left right with
  | lt =>
      exact (Nat.compare_eq_lt.mpr
        (placeAmong_lt_of_lt cmp leftMember asked)).symm
  | eq =>
      exact (Nat.compare_eq_eq.mpr (placeAmong_eq_of_tie cmp asked)).symm
  | gt =>
      rw [asked] at turned
      exact (Nat.compare_eq_gt.mpr
        (placeAmong_lt_of_lt cmp rightMember turned)).symm

end Places

/-- All field values are compared by place, whatever their kinds, and so are
records by the keys of every ordering.  Therefore the comparisons of the records
of a list are those of numbers. -/
theorem order_comparesByPlace :
    ComparesByPlace FieldValue.order ∧
      ∀ {ρ : Type} [Record ρ] (order : RecordOrder),
        ComparesByPlace (fun left right : ρ => order.compare left right) ∧
          ∀ records : List ρ, ∃ place : ρ → Nat,
            ∀ left ∈ records, ∀ right ∈ records,
              order.compare left right =
                compare (place left) (place right) := by
  refine ⟨comparesByPlace_of_transCmp FieldValue.order, ?_⟩
  intro ρ _ order
  refine ⟨comparesByPlace_of_transCmp _, ?_⟩
  intro records
  refine ⟨placeAmong (fun left right => order.compare left right) records, ?_⟩
  intro left leftMember right rightMember
  exact cmp_eq_compare_placeAmong _ leftMember rightMember

end GridQuery
