import GridQuery.Calendar.DateTime
import GridQuery.Calendar.Pattern

/-!
# Parts of a date

The parts of a date and time that a text gives, and the day or moment that they determine. A part
given twice must have one value, and every given part must hold of the result.
-/

namespace GridQuery.Calendar

/-- The parts that are kept of a date or time. An hour is kept as a half of the day and an hour of
that half. -/
inductive Part where
  | year
  | century
  | yearOfCentury
  | isoYear
  | isoYearOfCentury
  | quarter
  | month
  | day
  | weekFromSunday
  | weekFromMonday
  | isoWeek
  | weekday
  | ordinal
  | half
  | hourOfHalf
  | minute
  | second
  | nanosecond
  | timestamp
  /-- The offset from UTC in seconds, which the parts of a local date do not depend on. -/
  | offset
deriving DecidableEq

/-- The values of the parts that have been given. -/
structure Fields where
  get : Part → Option Int

/-- Why given parts determine no day or moment. -/
inductive Defect where
  | incomplete
  /-- The parts contradict one another or the calendar. -/
  | contradictory
deriving DecidableEq

namespace Fields

def empty : Fields :=
  ⟨fun _ => none⟩

/-- Adds a part. A second value for a part must equal the first. -/
def set (fields : Fields) (part : Part) (value : Int) : Option Fields :=
  match fields.get part with
  | some old => if old = value then some fields else none
  | none => some ⟨fun other => if other = part then some value else fields.get other⟩

/-- Adds a part whose value must lie between bounds. -/
def setWithin (fields : Fields) (part : Part) (low high value : Int) : Option Fields :=
  if low ≤ value ∧ value ≤ high then fields.set part value else none

/-- Adds an hour from 0 to 23. -/
def setHour (fields : Fields) (hour : Int) : Option Fields :=
  if 0 ≤ hour ∧ hour ≤ 23 then
    (fields.set .half (hour / 12)).bind (·.set .hourOfHalf (hour % 12))
  else
    none

/-- Adds the value of a number in a pattern. -/
def setNumber (fields : Fields) (number : NumberPart) (value : Int) : Option Fields :=
  match number with
  | .year => fields.setWithin .year (-2147483648) 2147483647 value
  | .century => fields.setWithin .century 0 2147483647 value
  | .yearOfCentury => fields.setWithin .yearOfCentury 0 99 value
  | .isoYear => fields.setWithin .isoYear (-2147483648) 2147483647 value
  | .isoYearOfCentury => fields.setWithin .isoYearOfCentury 0 99 value
  | .quarter => fields.setWithin .quarter 1 4 value
  | .month => fields.setWithin .month 1 12 value
  | .day => fields.setWithin .day 1 31 value
  | .weekFromSunday => fields.setWithin .weekFromSunday 0 53 value
  | .weekFromMonday => fields.setWithin .weekFromMonday 0 53 value
  | .isoWeek => fields.setWithin .isoWeek 1 53 value
  | .weekdayFromSunday =>
      if 0 ≤ value ∧ value ≤ 6 then fields.set .weekday ((value + 6) % 7) else none
  | .weekdayFromMonday =>
      if 1 ≤ value ∧ value ≤ 7 then fields.set .weekday (value - 1) else none
  | .ordinal => fields.setWithin .ordinal 1 366 value
  | .hour => fields.setHour value
  | .hourOfHalf => if 1 ≤ value ∧ value ≤ 12 then fields.set .hourOfHalf (value % 12) else none
  | .minute => fields.setWithin .minute 0 59 value
  | .second => fields.setWithin .second 0 60 value
  | .nanosecond => fields.setWithin .nanosecond 0 999999999 value
  | .timestamp => fields.set .timestamp value

/-- Whether a part is missing or has the given value. -/
def agrees (fields : Fields) (part : Part) (value : Int) : Bool :=
  match fields.get part with
  | some given => given == value
  | none => true

/-- Whether a given century and year of the century fit a year. Years before zero have neither. -/
def fitsYear (century yearOfCentury : Option Int) (year : Int) : Bool :=
  if 0 ≤ year then
    century.all (· == year / 100) && yearOfCentury.all (· == year % 100)
  else
    century.isNone && yearOfCentury.isNone

/-- The year given in full or by its century and year of the century. A year of the century alone
lies between 1970 and 2069. -/
def fullYear? (year century yearOfCentury : Option Int) : Except Defect (Option Int) :=
  match year, century, yearOfCentury with
  | year, none, none => .ok year
  | some year, century, yearOfCentury =>
      if 0 ≤ year ∧ fitsYear century yearOfCentury year then .ok (some year)
      else .error .contradictory
  | none, some century, some yearOfCentury => .ok (some (century * 100 + yearOfCentury))
  | none, none, some yearOfCentury =>
      .ok (some (yearOfCentury + if yearOfCentury < 70 then 2000 else 1900))
  | none, some _, none => .error .incomplete

/-- Whether the given year, month and day are those of a day. -/
def agreesWithDay (fields : Fields) (date : Date) : Bool :=
  fields.agrees .year date.year &&
    fitsYear (fields.get .century) (fields.get .yearOfCentury) date.year &&
    fields.agrees .month date.month && fields.agrees .day date.day

/-- Whether the given ISO week and weekday are those of a day. -/
def agreesWithIsoWeek (fields : Fields) (date : Date) : Bool :=
  let week := date.isoWeek
  fields.agrees .isoYear week.1 &&
    fitsYear none (fields.get .isoYearOfCentury) week.1 &&
    fields.agrees .isoWeek week.2 && fields.agrees .weekday date.weekday

/-- Whether the given day of the year and weeks of the year are those of a day. -/
def agreesWithOrdinal (fields : Fields) (date : Date) : Bool :=
  fields.agrees .ordinal date.ordinal &&
    fields.agrees .weekFromSunday (date.weekFrom 6) &&
    fields.agrees .weekFromMonday (date.weekFrom 0)

/-- The day of a weekday in a week of a year, where week 1 starts on the first `start` weekday. -/
def dayOfWeek? (year : Int) (start : Nat) (week weekday : Int) : Option Date :=
  let firstWeekday := Date.weekdayOfNumber (yearStart year)
  let firstWeekStart : Int := 1 + ((start + 7 - firstWeekday) % 7 : Nat)
  let ordinal := firstWeekStart + (week - 1) * 7 + (weekday + 7 - start) % 7
  if ordinal ≤ 0 then none else Date.ofOrdinal? year ordinal.toNat

/-- The day that the first sufficient group of parts gives. -/
def candidate? (fields : Fields) (year isoYear : Option Int) : Except Defect Date :=
  let exactly (found : Option Date) : Except Defect Date :=
    match found with
    | some date => .ok date
    | none => .error .contradictory
  match year, fields.get .month, fields.get .day with
  | some year, some month, some day => exactly (Date.ofYmd? year month.toNat day.toNat)
  | _, _, _ =>
  match year, fields.get .ordinal with
  | some year, some ordinal => exactly (Date.ofOrdinal? year ordinal.toNat)
  | _, _ =>
  match year, fields.get .weekFromSunday, fields.get .weekday with
  | some year, some week, some weekday => exactly (dayOfWeek? year 6 week weekday)
  | _, _, _ =>
  match year, fields.get .weekFromMonday, fields.get .weekday with
  | some year, some week, some weekday => exactly (dayOfWeek? year 0 week weekday)
  | _, _, _ =>
  match isoYear, fields.get .isoWeek, fields.get .weekday with
  | some year, some week, some weekday =>
      exactly (Date.ofIsoWeek? year week.toNat weekday.toNat)
  | _, _, _ => .error .incomplete

/-- The day that the parts determine. -/
def date? (fields : Fields) : Except Defect Date := do
  let year ← fullYear? (fields.get .year) (fields.get .century) (fields.get .yearOfCentury)
  let isoYear ← fullYear? (fields.get .isoYear) none (fields.get .isoYearOfCentury)
  let date ← fields.candidate? year isoYear
  if fields.agreesWithDay date && fields.agreesWithIsoWeek date && fields.agreesWithOrdinal date &&
      fields.agrees .quarter date.quarter then
    return date
  else
    throw .contradictory

/-- The second of the day and the nanosecond that the parts determine. Seconds may be missing; a
fraction needs a second. -/
def clock? (fields : Fields) : Except Defect (Nat × Nat) :=
  match fields.get .half, fields.get .hourOfHalf, fields.get .minute with
  | some half, some hour, some minute =>
      let start := (half.toNat * 12 + hour.toNat) * 3600 + minute.toNat * 60
      match fields.get .second, fields.get .nanosecond with
      | none, none => .ok (start, 0)
      | none, some _ => .error .incomplete
      | some second, nanosecond =>
          let fraction := (nanosecond.getD 0).toNat
          if second = 60 then
            .ok (start + 59, nanosecondsPerSecond + fraction)
          else
            .ok (start + second.toNat, fraction)
  | _, _, _ => .error .incomplete

/-- A day and a time of day put together. -/
def join? (date : Date) (clock : Nat × Nat) : Except Defect DateTime :=
  match DateTime.ofParts? date clock.1 clock.2 with
  | some moment => .ok moment
  | none => .error .contradictory

/-- Whether a given timestamp is that of a moment. In a leap second it may be one too great. -/
def agreesWithTimestamp (fields : Fields) (moment : DateTime) : Bool :=
  (fields.get .timestamp).all fun given =>
    given == moment.timestamp || (moment.isLeap && given == moment.timestamp + 1)

/-- The parts with those of a timestamp added. A given second 60 stands for the leap second before
or after the moment of the timestamp. -/
def withTimestamp? (fields : Fields) (timestamp : Int) : Option Fields := do
  let moment ← DateTime.ofTimestamp? timestamp
  let (moment, fields) ←
    if fields.get .second = some 60 then
      if moment.secondOfMinute = 59 then
        some (moment, fields)
      else if moment.secondOfMinute = 0 then
        (DateTime.ofTimestamp? (timestamp - 1)).map fun moment => (moment, fields)
      else
        none
    else
      (fields.set .second moment.secondOfMinute).map fun fields => (moment, fields)
  let fields ← fields.set .year moment.date.year
  let fields ← fields.set .ordinal moment.date.ordinal
  let fields ← fields.setHour (moment.second / 3600 : Nat)
  fields.set .minute (moment.second / 60 % 60 : Nat)

/-- The moment that the parts determine. A timestamp serves when a day or a time of day is
missing. -/
def dateTime? (fields : Fields) : Except Defect DateTime :=
  match fields.date?, fields.clock? with
  | .ok date, .ok clock => do
      let moment ← join? date clock
      if fields.agreesWithTimestamp moment then return moment else throw .contradictory
  | .error .contradictory, _ => .error .contradictory
  | _, .error .contradictory => .error .contradictory
  | _, _ =>
      match fields.get .timestamp with
      | none => .error .incomplete
      | some timestamp =>
          match fields.withTimestamp? timestamp with
          | none => .error .contradictory
          | some fields => do
              let date ← fields.date?
              let clock ← fields.clock?
              join? date clock

end Fields

end GridQuery.Calendar
