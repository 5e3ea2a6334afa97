import GridQuery.Number.Digits

/-!
# Calendar days

Days of the proleptic Gregorian calendar, within some 262,000 years of year zero on either side. A
day is kept as year, month and day of the month; counted days serve for weekdays and timestamps.
-/

namespace GridQuery

namespace Calendar

def firstYear : Int := -262143

def lastYear : Int := 262142

def isLeapYear (year : Int) : Bool :=
  year % 4 == 0 && (year % 100 != 0 || year % 400 == 0)

/-- The number of days of a month, counted from 1. -/
def monthLength (year : Int) (month : Nat) : Nat :=
  if month = 2 then
    if isLeapYear year then 29 else 28
  else if month = 4 ∨ month = 6 ∨ month = 9 ∨ month = 11 then
    30
  else
    31

/-- The days from 1970-01-01 to the first day of a year. -/
def yearStart (year : Int) : Int :=
  let before := year - 1
  365 * before + before / 4 - before / 100 + before / 400 - 719162

/-- The days of a year before the first day of a month. -/
def monthStart (year : Int) : Nat → Nat
  | 0 => 0
  | 1 => 0
  | month + 2 => monthStart year (month + 1) + monthLength year (month + 1)

end Calendar

open Calendar

/-- A day of the calendar. -/
structure Date where
  year : Int
  month : Nat
  day : Nat
  year_ge : firstYear ≤ year
  year_le : year ≤ lastYear
  month_pos : 1 ≤ month
  month_le : month ≤ 12
  day_pos : 1 ≤ day
  day_le : day ≤ monthLength year month
deriving DecidableEq

namespace Date

/-- The day of the given year, month and day of the month, if there is one. -/
def ofYmd? (year : Int) (month day : Nat) : Option Date :=
  if valid : firstYear ≤ year ∧ year ≤ lastYear ∧ 1 ≤ month ∧ month ≤ 12 ∧ 1 ≤ day ∧
      day ≤ monthLength year month then
    some ⟨year, month, day, valid.1, valid.2.1, valid.2.2.1, valid.2.2.2.1,
      valid.2.2.2.2.1, valid.2.2.2.2.2⟩
  else
    none

/-- The first of January 1970. -/
def epoch : Date :=
  ⟨1970, 1, 1, by decide, by decide, by decide, by decide, by decide, by decide⟩

def order (left right : Date) : Ordering :=
  ((compare left.year right.year).then (compare left.month right.month)).then
    (compare left.day right.day)

/-- The day after a day. The last day of the last year has none. -/
def next? (d : Date) : Option Date :=
  if d.day < monthLength d.year d.month then
    ofYmd? d.year d.month (d.day + 1)
  else if d.month < 12 then
    ofYmd? d.year (d.month + 1) 1
  else
    ofYmd? (d.year + 1) 1 1

/-- The number of a day in its year, from 1. -/
def ordinal (d : Date) : Nat :=
  monthStart d.year d.month + d.day

/-- The number of days since 1970-01-01. -/
def dayNumber (d : Date) : Int :=
  yearStart d.year + d.ordinal - 1

/-- The month and the day of the month that lie `ordinal` days after the start of the first of the
given months. -/
def monthOfOrdinal (year : Int) : List Nat → Nat → Option (Nat × Nat)
  | [], _ => none
  | month :: months, ordinal =>
      if ordinal ≤ monthLength year month then
        some (month, ordinal)
      else
        monthOfOrdinal year months (ordinal - monthLength year month)

/-- The day of a given number in a year. -/
def ofOrdinal? (year : Int) (ordinal : Nat) : Option Date :=
  (monthOfOrdinal year [1, 2, 3, 4, 5, 6, 7, 8, 9, 10, 11, 12] ordinal).bind fun found =>
    ofYmd? year found.1 found.2

/-- The year that a counted day falls in. The mean length of a year gives it up to one. -/
def yearOfDayNumber (number : Int) : Int :=
  let guess := (number + 719162) * 400 / 146097 + 1
  if number < yearStart guess then
    guess - 1
  else if yearStart (guess + 1) ≤ number then
    guess + 1
  else
    guess

/-- The day a number of days after 1970-01-01. -/
def ofDayNumber? (number : Int) : Option Date :=
  let year := yearOfDayNumber number
  ofOrdinal? year (number - yearStart year + 1).toNat

/-- The day of the week of a counted day, from 0 for Monday. -/
def weekdayOfNumber (number : Int) : Nat :=
  ((number + 3) % 7).toNat

/-- The day of the week, from 0 for Monday. -/
def weekday (d : Date) : Nat :=
  weekdayOfNumber d.dayNumber

/-- The quarter of the year, from 1. -/
def quarter (d : Date) : Nat :=
  (d.month - 1) / 3 + 1

/-- The number of the week in the year, where week 1 starts on the first `start` weekday of the year
and the days before are in week 0. -/
def weekFrom (start : Nat) (d : Date) : Nat :=
  (d.ordinal + 6 - (d.weekday + 7 - start) % 7) / 7

/-- The year and number of the ISO week. A week belongs to the year of its Thursday. -/
def isoWeek (d : Date) : Int × Nat :=
  let thursday := d.dayNumber - d.weekday + 3
  let year := yearOfDayNumber thursday
  (year, ((thursday - yearStart year) / 7).toNat + 1)

/-- The day of an ISO week. -/
def ofIsoWeek? (year : Int) (week weekday : Nat) : Option Date :=
  let fourth := yearStart year + 3
  let number := fourth - weekdayOfNumber fourth + 7 * ((week : Int) - 1) + weekday
  (ofDayNumber? number).filter fun d => d.isoWeek == (year, week)

/-- The year with at least four digits; a sign is written unless the year has just four. -/
def yearText (year : Int) : List Char :=
  (if 0 ≤ year ∧ year ≤ 9999 then [] else if year < 0 then ['-'] else ['+']) ++
    Number.paddedDigits 4 year.natAbs

/-- The text of a day: year, month and day of the month, joined by hyphens. -/
def text (d : Date) : List Char :=
  yearText d.year ++ '-' :: Number.paddedDigits 2 d.month ++ '-' :: Number.paddedDigits 2 d.day

end Date

end GridQuery
