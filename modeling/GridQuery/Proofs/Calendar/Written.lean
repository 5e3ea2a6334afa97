import GridQuery.Proofs.Calendar.Date
import GridQuery.Proofs.Calendar.Pattern
import GridQuery.Proofs.Number.Numeral
import GridQuery.Calendar.Reader

/-!
# Reading days and moments back from their text

The numbers in the text of a day or a moment have as many digits as the reader
takes at most, so each is read in full whatever follows it.  The parts that are
read determine the day and the time of day they were written for.
-/

namespace GridQuery

theorem Date.ofYmd?_self (d : Date) : ofYmd? d.year d.month d.day = some d :=
  dif_pos ⟨d.year_ge, d.year_le, d.month_pos, d.month_le, d.day_pos, d.day_le⟩

/-- The year is written with four digits and no sign. -/
def Date.HasPlainYear (d : Date) : Prop :=
  0 ≤ d.year ∧ d.year ≤ 9999

instance (d : Date) : Decidable d.HasPlainYear :=
  inferInstanceAs (Decidable (_ ∧ _))

namespace Calendar

open Number

theorem readDigits?_append {run : List Char} (written : run ≠ [])
    (digits : ∀ c ∈ run, c.isDigit = true)
    (fits : digitsValue run < 9223372036854775808) (rest : List Char) :
    readDigits? (some run.length) (run ++ rest) =
      some ((digitsValue run : Int), rest) := by
  have taken : ((run ++ rest).take run.length).takeWhile Char.isDigit = run := by
    have whole : (run ++ []).takeWhile Char.isDigit =
        run ++ [].takeWhile Char.isDigit :=
      List.takeWhile_append_of_pos digits
    rw [List.take_left]
    simpa using whole
  have nonempty : run.isEmpty = false := List.isEmpty_eq_false_iff.mpr written
  simp only [readDigits?, Option.getD_some, taken, nonempty, fits, if_true,
    Bool.false_eq_true, if_false, List.drop_left]

theorem head_paddedDigits (width n : Nat) :
    ∃ c rest, paddedDigits width n = c :: rest ∧ c.isDigit = true := by
  have written : paddedDigits width n ≠ [] := by
    simp [paddedDigits, digits_ne_nil]
  obtain ⟨c, rest, shape⟩ := List.exists_cons_of_ne_nil written
  exact ⟨c, rest, shape, isDigit_of_mem_paddedDigits (by rw [shape]; simp)⟩

/-- A number padded to the greatest number of its digits is read in full. -/
theorem readNumber?_paddedDigits {part : NumberPart} {width n : Nat}
    (ofWidth : part.width = some width) (narrow : 0 < width ∧ width ≤ 18)
    (fits : n < 10 ^ width) (rest : List Char) :
    readNumber? part (paddedDigits width n ++ rest) = some ((n : Int), rest) := by
  have length := length_paddedDigits narrow.1 fits
  have value : digitsValue (paddedDigits width n) = n := by
    rw [digitsValue, ofDigitChars_paddedDigits, Nat.mul_zero, Nat.zero_add]
  have bound : n < 9223372036854775808 :=
    calc
      n < 10 ^ width := fits
      _ ≤ 10 ^ 18 := Nat.pow_le_pow_right (by decide) narrow.2
      _ < 9223372036854775808 := by decide
  obtain ⟨c, others, shape, isDigit⟩ := head_paddedDigits width n
  have unsigned : readNumber? part (paddedDigits width n ++ rest) =
      readDigits? part.width (paddedDigits width n ++ rest) := by
    rw [shape, List.cons_append]
    unfold readNumber?
    split
    · rename_i minus
      cases minus
      cases isDigit
    · rename_i plus
      cases plus
      cases isDigit
    · rfl
  have read := readDigits?_append (by simp [shape])
    (fun _ => isDigit_of_mem_paddedDigits) (value.symm ▸ bound) rest
  rw [length, value] at read
  rw [unsigned, ofWidth, read]

namespace Fields

/-- The parts with one more of them. -/
def adding (fields : Fields) (part : Part) (value : Int) : Fields :=
  ⟨fun other => if other = part then some value else fields.get other⟩

@[simp] theorem get_adding (fields : Fields) (part other : Part) (value : Int) :
    (fields.adding part value).get other =
      if other = part then some value else fields.get other := rfl

@[simp] theorem get_empty (part : Part) : empty.get part = none := rfl

variable {fields : Fields}

theorem set_eq_some {part : Part} (missing : fields.get part = none)
    (value : Int) : fields.set part value = some (fields.adding part value) := by
  rw [set, missing]
  rfl

theorem setWithin_eq_some {part : Part} {low high value : Int}
    (missing : fields.get part = none) (range : low ≤ value ∧ value ≤ high) :
    fields.setWithin part low high value = some (fields.adding part value) := by
  rw [setWithin, if_pos range, set_eq_some missing]

/-- Year, month and day are those of a day, and nothing else is said of a day. -/
structure GivesDay (fields : Fields) (d : Date) : Prop where
  year : fields.get .year = some d.year
  month : fields.get .month = some (d.month : Int)
  day : fields.get .day = some (d.day : Int)
  others : ∀ part ∈ [Part.century, .yearOfCentury, .isoYear, .isoYearOfCentury,
    .quarter, .weekFromSunday, .weekFromMonday, .isoWeek, .weekday, .ordinal],
      fields.get part = none

theorem GivesDay.date?_eq {d : Date} (gives : fields.GivesDay d) :
    fields.date? = .ok d := by
  obtain ⟨year, month, day, others⟩ := gives
  have fullYear : fullYear? (fields.get .year) (fields.get .century)
      (fields.get .yearOfCentury) = .ok (some d.year) := by
    simp [fullYear?, year, others]
  have isoYear : fullYear? (fields.get .isoYear) none
      (fields.get .isoYearOfCentury) = .ok none := by
    simp [fullYear?, others]
  have candidate : fields.candidate? (some d.year) none = .ok d := by
    unfold candidate?
    simp only [month, day, Int.toNat_natCast, Date.ofYmd?_self]
  have sameDay : fields.agreesWithDay d = true := by
    simp [agreesWithDay, agrees, fitsYear, year, month, day, others]
  have sameWeek : fields.agreesWithIsoWeek d = true := by
    simp [agreesWithIsoWeek, agrees, fitsYear, others]
  have sameOrdinal : fields.agreesWithOrdinal d = true := by
    simp [agreesWithOrdinal, agrees, others]
  have sameQuarter : fields.agrees .quarter d.quarter = true := by
    simp [agrees, others]
  rw [date?, fullYear, isoYear]
  simp only [bind, Except.bind, candidate, sameDay, sameWeek, sameOrdinal,
    sameQuarter, Bool.and_self, if_true]
  rfl

/-- The time of day is a number of seconds after midnight, and nothing else is
said of a time. -/
structure GivesClock (fields : Fields) (second : Nat) : Prop where
  half : fields.get .half = some (((second / 3600 : Nat) : Int) / 12)
  hour : fields.get .hourOfHalf = some (((second / 3600 : Nat) : Int) % 12)
  minute : fields.get .minute = some ((second / 60 % 60 : Nat) : Int)
  second : fields.get .second = some ((second % 60 : Nat) : Int)
  others : ∀ part ∈ [Part.nanosecond, .timestamp], fields.get part = none

theorem GivesClock.clock?_eq {second : Nat} (gives : fields.GivesClock second) :
    fields.clock? = .ok (second, 0) := by
  obtain ⟨half, hour, minute, ofMinute, others⟩ := gives
  have nanosecond : fields.get .nanosecond = none := by simp [others]
  have notLeap : ((second % 60 : Nat) : Int) ≠ 60 := by omega
  unfold clock?
  simp only [half, hour, minute, ofMinute, nanosecond, notLeap, if_false,
    Option.getD_none, Int.toNat_zero]
  congr 2
  omega

theorem dateTime?_eq {t : DateTime} (day : fields.GivesDay t.date)
    (clock : fields.GivesClock t.second) (whole : t.nanosecond = 0) :
    fields.dateTime? = .ok t := by
  have timestamp : fields.get .timestamp = none := by simp [clock.others]
  have joined : join? t.date (t.second, 0) = .ok t := by
    obtain ⟨date, second, nanosecond, second_lt, nanosecond_lt⟩ := t
    cases whole
    simp [join?, DateTime.ofParts?, second_lt, nanosecondsPerSecond]
  unfold dateTime?
  rw [day.date?_eq, clock.clock?_eq]
  simp only [bind, Except.bind, joined, agreesWithTimestamp, timestamp,
    Option.all_none, if_true]
  rfl

theorem setHour_eq_some {hour : Int} (range : 0 ≤ hour ∧ hour ≤ 23)
    (missing : ∀ part ∈ [Part.half, .hourOfHalf], fields.get part = none) :
    fields.setHour hour =
      some ((fields.adding .half (hour / 12)).adding .hourOfHalf
        (hour % 12)) := by
  have half : fields.get .half = none := by simp [missing]
  have hourOfHalf :
      (fields.adding .half (hour / 12)).get .hourOfHalf = none := by
    simp [missing]
  rw [setHour, if_pos range, set_eq_some half, Option.bind_some,
    set_eq_some hourOfHalf]

end Fields

section Items

variable {items : List Item} {fields following : Fields}

theorem readItems?_literal (c : Char) (rest : List Char) :
    readItems? (.literal c :: items) fields (c :: rest) =
      readItems? items fields rest := by
  simp [readItems?, Item.read?]

theorem trimStart_paddedDigits (width n : Nat) (rest : List Char) :
    Text.trimStart (paddedDigits width n ++ rest) =
      paddedDigits width n ++ rest := by
  obtain ⟨c, others, shape, isDigit⟩ := head_paddedDigits width n
  rw [shape, List.cons_append, Text.trimStart, List.dropWhile_cons_of_neg]
  simp [isBlank_eq_false_of_isDigit isDigit]

theorem readItems?_blanks {text : List Char}
    (trimmed : Text.trimStart text = text) :
    readItems? (.blanks :: items) fields (' ' :: text) =
      readItems? items fields text := by
  have start : Text.trimStart (' ' :: text) = Text.trimStart text :=
    List.dropWhile_cons_of_pos rfl
  rw [readItems?, Item.read?, start, trimmed, Option.bind_some]

theorem readItems?_number {part : NumberPart} {width n : Nat}
    (ofWidth : part.width = some width) (narrow : 0 < width ∧ width ≤ 18)
    (fits : n < 10 ^ width) (set : fields.setNumber part n = some following)
    (rest : List Char) :
    readItems? (.number part :: items) fields (paddedDigits width n ++ rest) =
      readItems? items following rest := by
  simp only [readItems?, Item.read?, trimStart_paddedDigits,
    readNumber?_paddedDigits ofWidth narrow fits, bind, Option.bind_some, set]
  rfl

end Items

/-- The parts that the text of a day gives. -/
def dayFields (d : Date) : Fields :=
  ((Fields.empty.adding .year d.year).adding .month d.month).adding .day d.day

/-- The parts that the text of a moment gives. -/
def momentFields (t : DateTime) : Fields :=
  ((((dayFields t.date).adding .half (((t.second / 3600 : Nat) : Int) / 12)).adding
    .hourOfHalf (((t.second / 3600 : Nat) : Int) % 12)).adding
    .minute (t.second / 60 % 60 : Nat)).adding .second (t.second % 60 : Nat)

theorem givesDay_dayFields (d : Date) : (dayFields d).GivesDay d := by
  constructor <;> simp [dayFields]

theorem givesDay_momentFields (t : DateTime) :
    (momentFields t).GivesDay t.date := by
  constructor <;> simp [momentFields, dayFields]

theorem givesClock_momentFields (t : DateTime) :
    (momentFields t).GivesClock t.second := by
  constructor <;> simp [momentFields, dayFields]

section Texts

variable {items : List Item} {d : Date} {t : DateTime}

theorem readItems?_day (plain : d.HasPlainYear) (rest : List Char) :
    readItems? (dayItems ++ items) Fields.empty (d.text ++ rest) =
      readItems? items (dayFields d) rest := by
  obtain ⟨yearLow, yearHigh⟩ := plain
  have year : ((d.year.natAbs : Nat) : Int) = d.year := by omega
  have monthLow := d.month_pos
  have monthHigh := d.month_le
  have dayLow := d.day_pos
  have dayHigh := d.day_le_31
  have shape : d.text ++ rest = paddedDigits 4 d.year.natAbs ++
      '-' :: (paddedDigits 2 d.month ++
        '-' :: (paddedDigits 2 d.day ++ rest)) := by
    simp [Date.text, Date.yearText, yearLow, yearHigh]
  have setYear : Fields.empty.setNumber .year (d.year.natAbs : Nat) =
      some (Fields.empty.adding .year d.year) := by
    rw [year]
    exact Fields.setWithin_eq_some rfl (by omega)
  have setMonth : (Fields.empty.adding .year d.year).setNumber .month d.month =
      some ((Fields.empty.adding .year d.year).adding .month d.month) :=
    Fields.setWithin_eq_some rfl (by omega)
  have setDay : ((Fields.empty.adding .year d.year).adding .month
      d.month).setNumber .day d.day = some (dayFields d) :=
    Fields.setWithin_eq_some rfl (by omega)
  rw [shape]
  simp only [dayItems, List.cons_append, List.nil_append]
  rw [readItems?_number rfl (by decide) (by omega) setYear,
    readItems?_literal,
    readItems?_number rfl (by decide) (by omega) setMonth,
    readItems?_literal,
    readItems?_number rfl (by decide) (by omega) setDay]

theorem clockText_eq (whole : t.nanosecond = 0) :
    t.clockText = paddedDigits 2 (t.second / 3600) ++
      ':' :: (paddedDigits 2 (t.second / 60 % 60) ++
        ':' :: (paddedDigits 2 (t.second % 60) ++ [])) := by
  simp [DateTime.clockText, DateTime.secondOfMinute, DateTime.isLeap, whole,
    nanosecondsPerSecond]

theorem readItems?_clock (whole : t.nanosecond = 0) :
    readItems? (clockItems ++ [.fraction]) (dayFields t.date) t.clockText =
      some (momentFields t, []) := by
  have second_lt : t.second < 86400 := t.second_lt
  have setHour : (dayFields t.date).setNumber .hour (t.second / 3600 : Nat) =
      some (((dayFields t.date).adding .half
        (((t.second / 3600 : Nat) : Int) / 12)).adding .hourOfHalf
          (((t.second / 3600 : Nat) : Int) % 12)) :=
    Fields.setHour_eq_some (by omega) (by simp [dayFields])
  have setMinute {fields : Fields} (missing : fields.get .minute = none) :
      fields.setNumber .minute (t.second / 60 % 60 : Nat) =
        some (fields.adding .minute (t.second / 60 % 60 : Nat)) :=
    Fields.setWithin_eq_some missing (by omega)
  have setSecond {fields : Fields} (missing : fields.get .second = none) :
      fields.setNumber .second (t.second % 60 : Nat) =
        some (fields.adding .second (t.second % 60 : Nat)) :=
    Fields.setWithin_eq_some missing (by omega)
  rw [clockText_eq whole]
  simp only [clockItems, List.cons_append, List.nil_append]
  rw [readItems?_number rfl (by decide) (by omega) setHour,
    readItems?_literal,
    readItems?_number rfl (by decide) (by omega) (setMinute rfl),
    readItems?_literal,
    readItems?_number rfl (by decide) (by omega) (setSecond rfl)]
  rfl

theorem readDate?_text (plain : d.HasPlainYear) :
    readDate? "%Y-%m-%d".toList d.text = some d := by
  have read : readItems? (dayItems ++ []) Fields.empty (d.text ++ []) =
      some (dayFields d, []) := readItems?_day plain []
  simp only [List.append_nil] at read
  rw [readDate?, items?_hyphenatedDay, Option.bind_some, readFields?, read]
  simp only [Option.bind_some, (givesDay_dayFields d).date?_eq]
  rfl

theorem readDateTime?_text (plain : t.date.HasPlainYear)
    (whole : t.nanosecond = 0) :
    readDateTime? "%Y-%m-%d %H:%M:%S%.f".toList t.text = some t := by
  have trimmed : Text.trimStart t.clockText = t.clockText := by
    rw [clockText_eq whole, trimStart_paddedDigits]
  have read : readItems? (dayItems ++ .blanks :: clockItems ++ [.fraction])
      Fields.empty t.text = some (momentFields t, []) := by
    rw [List.append_assoc, DateTime.text, DateTime.textWith, readItems?_day plain,
      List.cons_append, readItems?_blanks trimmed, readItems?_clock whole]
  have determined := Fields.dateTime?_eq (givesDay_momentFields t)
    (givesClock_momentFields t) whole
  rw [readDateTime?, items?_spacedMoment, Option.bind_some, readFields?, read]
  simp only [Option.bind_some, determined]
  rfl

/-- The pattern with a letter between day and time does not read the text of a
moment, which has a blank there. -/
theorem readDateTime?_text_eq_none (plain : t.date.HasPlainYear) :
    readDateTime? "%Y-%m-%dT%H:%M:%S%.f".toList t.text = none := by
  have read : readItems? (dayItems ++ .literal 'T' :: clockItems ++ [.fraction])
      Fields.empty t.text = none := by
    rw [List.append_assoc, DateTime.text, DateTime.textWith, readItems?_day plain]
    simp [readItems?, Item.read?]
  rw [readDateTime?, items?_letteredMoment, Option.bind_some, readFields?, read]
  rfl

theorem solid_paddedDigits (width n : Nat) :
    Text.Solid (paddedDigits width n) := by
  obtain ⟨c, rest, shape, -⟩ := head_paddedDigits width n
  apply Text.solid_of_forall_not_isBlank
  · simp [shape]
  · intro c member
    exact isBlank_eq_false_of_isDigit (isDigit_of_mem_paddedDigits member)

theorem solid_dayText (plain : d.HasPlainYear) : Text.Solid d.text := by
  have shape : d.text = paddedDigits 4 d.year.natAbs ++
      ('-' :: paddedDigits 2 d.month ++ ['-']) ++ paddedDigits 2 d.day := by
    simp [Date.text, Date.yearText, plain.1, plain.2]
  rw [shape]
  exact (solid_paddedDigits 4 _).append (solid_paddedDigits 2 _) _

theorem solid_momentText (plain : t.date.HasPlainYear) :
    Text.Solid t.text := by
  have shape : t.text = t.date.text ++
      (' ' :: paddedDigits 2 (t.second / 3600) ++
        ':' :: paddedDigits 2 (t.second / 60 % 60) ++ [':']) ++
      paddedDigits 2 t.secondOfMinute := by
    simp [DateTime.text, DateTime.textWith, DateTime.clockText]
  rw [shape]
  exact (solid_dayText plain).append (solid_paddedDigits 2 _) _

end Texts

end Calendar

end GridQuery
