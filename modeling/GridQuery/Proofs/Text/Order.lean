import GridQuery.Text.Order

/-!
# Laws of the order of text

Texts are ordered totally, and only equal texts tie.
-/

namespace GridQuery.Text

instance : Std.TransCmp order :=
  inferInstanceAs (Std.TransCmp (compare : List Char → List Char → Ordering))

instance : Std.LawfulEqCmp order :=
  inferInstanceAs
    (Std.LawfulEqCmp (compare : List Char → List Char → Ordering))

@[simp] theorem order_eq_eq_iff {left right : List Char} :
    order left right = .eq ↔ left = right :=
  Std.LawfulEqCmp.compare_eq_iff_eq

instance : Std.TransCmp stringOrder :=
  inferInstanceAs (Std.TransCmp (compareOn String.toList))

instance : Std.LawfulEqCmp stringOrder where
  eq_of_compare tie := String.toList_inj.mp (order_eq_eq_iff.mp tie)

theorem order_beq_eq (left right : List Char) :
    (order left right == .eq) = (left == right) := by
  rw [Bool.eq_iff_iff, beq_iff_eq, beq_iff_eq, order_eq_eq_iff]

end GridQuery.Text
