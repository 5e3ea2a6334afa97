import GridQuery.Calendar.DateTime
import GridQuery.Proofs.Calendar.Date

/-!
# The line of moments

Moments are laid out on a line of integers on which every second has places for
two thousand million nanoseconds, leap seconds included.  A moment lies on a
day exactly if its place is between the places of the midnights around it.
-/

namespace GridQuery.DateTime

/-- The place of a moment on the line. -/
def place (t : DateTime) : Int :=
  (t.date.place * 86400 + t.second) * 2000000000 + t.nanosecond

theorem order_eq_compare (left right : DateTime) :
    left.order right = compare left.place right.place := by
  have seconds := And.intro left.second_lt right.second_lt
  have nanoseconds := And.intro left.nanosecond_lt right.nanosecond_lt
  simp only [secondsPerDay, nanosecondsPerSecond] at seconds nanoseconds
  rw [order, Date.order_eq_compare, Ordering.then_assoc]
  simp only [place]
  apply Calendar.then_eq_compare
  · intro less
    have date := Int.compare_eq_lt.mp less
    omega
  · intro tied
    have date := Int.compare_eq_eq.mp tied
    apply Calendar.then_eq_compare
    · intro less
      have second := Nat.compare_eq_lt.mp less
      omega
    · intro tied
      have second := Nat.compare_eq_eq.mp tied
      rw [Int.compare_eq_ite_lt, Nat.compare_eq_ite_lt]
      grind
    · intro greater
      have second := Nat.compare_eq_gt.mp greater
      omega
  · intro greater
    have date := Int.compare_eq_gt.mp greater
    omega

instance : Std.TransCmp order where
  eq_swap {left right} := by
    rw [order_eq_compare, order_eq_compare]
    exact Std.OrientedCmp.eq_swap
  isLE_trans {first second third} firstLe secondLe := by
    rw [order_eq_compare] at firstLe secondLe ⊢
    exact Std.TransCmp.isLE_trans firstLe secondLe

theorem place_midnight_le_iff (day : Date) (t : DateTime) :
    (midnight day).place ≤ t.place ↔ day.place ≤ t.date.place := by
  have second := t.second_lt
  have nanosecond := t.nanosecond_lt
  simp only [secondsPerDay, nanosecondsPerSecond] at second nanosecond
  simp only [place, midnight]
  omega

theorem place_lt_midnight_next_iff {day following : Date}
    (next : day.next? = some following) (t : DateTime) :
    t.place < (midnight following).place ↔ t.date.place ≤ day.place := by
  rw [← Date.place_lt_next_iff next, ← Int.not_le, ← Int.not_le,
    place_midnight_le_iff]

end GridQuery.DateTime
