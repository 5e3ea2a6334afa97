import GridQuery.Calendar.Reader

/-!
# What an empty text says of a date

Some items of a pattern ask for nothing in particular and read an empty text,
but none of them takes a part of a date from it.  Without a part there is
neither a day nor a moment.
-/

namespace GridQuery.Calendar

theorem readDigits?_nil (width : Option Nat) : readDigits? width [] = none := by
  simp [readDigits?]

theorem readNumber?_nil (part : NumberPart) : readNumber? part [] = none := by
  unfold readNumber?
  split
  · contradiction
  · contradiction
  · exact readDigits?_nil _

theorem readMonth?_nil (full : Bool) :
    readName? full [] 1 monthNames = none := rfl

theorem readWeekday?_nil (full : Bool) :
    readName? full [] 0 weekdayNames = none := rfl

theorem Item.read?_nil {item : Item} {fields : Fields}
    {found : Fields × List Char}
    (read : item.read? fields [] = some found) : found = (fields, []) := by
  have trimmed : Text.trimStart [] = [] := rfl
  cases item with
  | blanks | fraction | pointedFraction | zoneName =>
      cases read
      rfl
  | literal | timeMark | halfOfDay | offset | laxOffset | namedOffset =>
      cases read
  | number part => simp [Item.read?, trimmed, readNumber?_nil] at read
  | monthName full => simp [Item.read?, readMonth?_nil] at read
  | weekdayName full => simp [Item.read?, readWeekday?_nil] at read
  | bareFraction places =>
      simp [Item.read?, readPlaces?, readDigits?_nil] at read

theorem readItems?_nil {items : List Item} {fields : Fields}
    {found : Fields × List Char}
    (read : readItems? items fields [] = some found) :
    found = (fields, []) := by
  induction items with
  | nil =>
      cases read
      rfl
  | cons item items induction =>
      obtain ⟨first, readFirst, readRest⟩ := Option.bind_eq_some_iff.mp read
      rw [Item.read?_nil readFirst] at readRest
      exact induction readRest

theorem readFields?_nil {items : List Item} {fields : Fields}
    (read : readFields? items [] = some fields) : fields = Fields.empty := by
  unfold readFields? at read
  split at read
  · rename_i readAll
    cases read
    cases readItems?_nil readAll
    rfl
  · cases read

theorem readDate?_nil (pattern : List Char) : readDate? pattern [] = none := by
  rw [readDate?, Option.eq_none_iff_forall_ne_some]
  intro date read
  obtain ⟨fields, readFields, determined⟩ := Option.bind_eq_some_iff.mp read
  obtain ⟨items, -, readItems⟩ := Option.bind_eq_some_iff.mp readFields
  rw [readFields?_nil readItems] at determined
  cases determined

theorem readDateTime?_nil (pattern : List Char) :
    readDateTime? pattern [] = none := by
  rw [readDateTime?, Option.eq_none_iff_forall_ne_some]
  intro moment read
  obtain ⟨fields, readFields, determined⟩ := Option.bind_eq_some_iff.mp read
  obtain ⟨items, -, readItems⟩ := Option.bind_eq_some_iff.mp readFields
  rw [readFields?_nil readItems] at determined
  cases determined

end GridQuery.Calendar
