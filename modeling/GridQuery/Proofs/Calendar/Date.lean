import GridQuery.Calendar.Date

/-!
# The line of days

Days are laid out on a line of integers on which every month has 31 places.
Places that no day takes do no harm: the order of days is the order of their
places, and between a day and its successor no day has a place.
-/

namespace GridQuery

open Calendar

/-- A comparison that falls back on a second one is that of the places of a
line, if the first one decides as the line does and the second one is right
where it does not. -/
theorem Calendar.then_eq_compare {first second : Ordering} {left right : Int}
    (less : first = .lt → left < right)
    (tied : first = .eq → second = compare left right)
    (greater : first = .gt → right < left) :
    first.then second = compare left right := by
  cases first with
  | lt => exact (Int.compare_eq_lt.mpr (less rfl)).symm
  | eq => exact tied rfl
  | gt => exact (Int.compare_eq_gt.mpr (greater rfl)).symm

theorem Calendar.monthLength_pos (year : Int) (month : Nat) :
    1 ≤ monthLength year month := by
  unfold monthLength
  split
  · split <;> omega
  · split <;> omega

theorem Calendar.monthLength_le (year : Int) (month : Nat) :
    monthLength year month ≤ 31 := by
  unfold monthLength
  split
  · split <;> omega
  · split <;> omega

namespace Date

theorem day_le_31 (d : Date) : d.day ≤ 31 :=
  Nat.le_trans d.day_le (monthLength_le d.year d.month)

/-- The place of a day on the line. -/
def place (d : Date) : Int :=
  d.year * 372 + d.month * 31 + d.day

theorem order_eq_compare (left right : Date) :
    left.order right = compare left.place right.place := by
  have leftDay := left.day_le_31
  have rightDay := right.day_le_31
  have days := And.intro left.day_pos right.day_pos
  have monthsPos := And.intro left.month_pos right.month_pos
  have monthsLe := And.intro left.month_le right.month_le
  rw [order, Ordering.then_assoc]
  simp only [place]
  apply then_eq_compare
  · intro less
    have year := Int.compare_eq_lt.mp less
    omega
  · intro tied
    have year := Int.compare_eq_eq.mp tied
    apply then_eq_compare
    · intro less
      have month := Nat.compare_eq_lt.mp less
      omega
    · intro tied
      have month := Nat.compare_eq_eq.mp tied
      rw [Int.compare_eq_ite_lt, Nat.compare_eq_ite_lt]
      grind
    · intro greater
      have month := Nat.compare_eq_gt.mp greater
      omega
  · intro greater
    have year := Int.compare_eq_gt.mp greater
    omega

theorem eq_of_place_eq {left right : Date}
    (same : left.place = right.place) : left = right := by
  have leftDay := left.day_le_31
  have rightDay := right.day_le_31
  have bounds := And.intro left.day_pos right.day_pos
  have months := And.intro left.month_pos right.month_pos
  have monthsLe := And.intro left.month_le right.month_le
  simp only [place] at same
  have sameYear : left.year = right.year := by omega
  have sameMonth : left.month = right.month := by omega
  have sameDay : left.day = right.day := by omega
  cases left
  cases right
  simp_all

instance : Std.TransCmp order where
  eq_swap {left right} := by
    rw [order_eq_compare, order_eq_compare]
    exact Std.OrientedCmp.eq_swap
  isLE_trans {first second third} firstLe secondLe := by
    rw [order_eq_compare] at firstLe secondLe ⊢
    exact Std.TransCmp.isLE_trans firstLe secondLe

instance : Std.LawfulEqCmp order where
  compare_self {d} := by
    rw [order_eq_compare]
    exact Std.ReflCmp.compare_self
  eq_of_compare {left right} tied := by
    rw [order_eq_compare] at tied
    exact eq_of_place_eq (Int.compare_eq_eq.mp tied)

theorem ofYmd?_eq_some {year : Int} {month day : Nat} {d : Date}
    (found : ofYmd? year month day = some d) :
    d.year = year ∧ d.month = month ∧ d.day = day := by
  unfold ofYmd? at found
  split at found
  · injection found with found
    subst d
    exact ⟨rfl, rfl, rfl⟩
  · cases found

theorem ofYmd?_isSome {year : Int} {month day : Nat}
    (valid : firstYear ≤ year ∧ year ≤ lastYear ∧ 1 ≤ month ∧ month ≤ 12 ∧
      1 ≤ day ∧ day ≤ monthLength year month) :
    (ofYmd? year month day).isSome = true := by
  simp [ofYmd?, valid]

/-- A day lies before the successor of another one exactly if it does not lie
after the other one. -/
theorem place_lt_next_iff {d following : Date}
    (next : d.next? = some following) (other : Date) :
    other.place < following.place ↔ other.place ≤ d.place := by
  have otherDay := other.day_le_31
  have bounds := And.intro other.day_pos d.day_pos
  have months := And.intro other.month_pos d.month_pos
  have monthsLe := And.intro other.month_le d.month_le
  have dDay := d.day_le_31
  unfold next? at next
  split at next
  · obtain ⟨year, month, day⟩ := ofYmd?_eq_some next
    simp only [place, year, month, day]
    omega
  · rename_i last
    have inMonth : other.year = d.year → other.month = d.month →
        other.day ≤ d.day := by
      intro sameYear sameMonth
      have bound := other.day_le
      rw [sameYear, sameMonth] at bound
      omega
    split at next
    · obtain ⟨year, month, day⟩ := ofYmd?_eq_some next
      simp only [place, year, month, day]
      omega
    · obtain ⟨year, month, day⟩ := ofYmd?_eq_some next
      simp only [place, year, month, day]
      omega

theorem place_le_of_next?_eq_none {d : Date}
    (last : d.next? = none) (other : Date) :
    other.place ≤ d.place := by
  have first := d.year_ge
  have bounds := And.intro other.day_pos d.day_pos
  have months := And.intro other.month_pos d.month_pos
  have monthsLe := And.intro other.month_le d.month_le
  unfold next? at last
  split at last
  · have found : (ofYmd? d.year d.month (d.day + 1)).isSome = true :=
      ofYmd?_isSome
        ⟨d.year_ge, d.year_le, d.month_pos, d.month_le, by omega, by omega⟩
    simp [last] at found
  · split at last
    · have found : (ofYmd? d.year (d.month + 1) 1).isSome = true :=
        ofYmd?_isSome
          ⟨d.year_ge, d.year_le, by omega, by omega, by omega,
            monthLength_pos _ _⟩
      simp [last] at found
    · rename_i endOfMonth endOfYear
      have lastYear_le : lastYear ≤ d.year := by
        apply Classical.byContradiction
        intro before
        have found : (ofYmd? (d.year + 1) 1 1).isSome = true :=
          ofYmd?_isSome ⟨by omega, by omega, by omega, by omega, by omega,
            monthLength_pos _ _⟩
        simp [last] at found
      have otherYear := other.year_le
      have dMonth : d.month = 12 := by omega
      have dDay : 31 ≤ d.day := by
        have length : monthLength d.year 12 = 31 := rfl
        rw [dMonth, length] at endOfMonth
        omega
      have otherDay := other.day_le_31
      simp only [place]
      omega

end Date

end GridQuery
