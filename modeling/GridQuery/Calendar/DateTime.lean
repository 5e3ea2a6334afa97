import GridQuery.Calendar.Date

/-!
# Moments of a day

A day together with a time of day, to the nanosecond. A leap second is the second before it with
more than a thousand million nanoseconds.
-/

namespace GridQuery

/-- The number of seconds of a day, leap seconds left out. -/
def secondsPerDay : Nat := 86400

def nanosecondsPerSecond : Nat := 1000000000

/-- A moment: a day, the seconds since its midnight, and the nanoseconds since that second. -/
structure DateTime where
  date : Date
  second : Nat
  nanosecond : Nat
  second_lt : second < secondsPerDay
  nanosecond_lt : nanosecond < 2 * nanosecondsPerSecond
deriving DecidableEq

namespace DateTime

/-- The moment of the given parts, if they are in range. Only the last second of a minute can be
followed by a leap second. -/
def ofParts? (date : Date) (second nanosecond : Nat) : Option DateTime :=
  if range : second < secondsPerDay ∧ nanosecond < 2 * nanosecondsPerSecond then
    if nanosecond < nanosecondsPerSecond ∨ second % 60 = 59 then
      some ⟨date, second, nanosecond, range.1, range.2⟩
    else
      none
  else
    none

def midnight (date : Date) : DateTime :=
  ⟨date, 0, 0, by decide, by decide⟩

def order (left right : DateTime) : Ordering :=
  ((left.date.order right.date).then (compare left.second right.second)).then
    (compare left.nanosecond right.nanosecond)

/-- The number of seconds since the start of 1970-01-01, leap seconds left out. -/
def timestamp (t : DateTime) : Int :=
  t.date.dayNumber * secondsPerDay + t.second

/-- The moment a number of seconds after the start of 1970-01-01. -/
def ofTimestamp? (timestamp : Int) : Option DateTime :=
  (Date.ofDayNumber? (timestamp / secondsPerDay)).bind fun date =>
    ofParts? date (timestamp % secondsPerDay).toNat 0

/-- Whether a moment lies in a leap second. -/
def isLeap (t : DateTime) : Bool :=
  nanosecondsPerSecond ≤ t.nanosecond

/-- The nanoseconds since the last full second, the start of a leap second included. -/
def fraction (t : DateTime) : Nat :=
  t.nanosecond % nanosecondsPerSecond

/-- The second of the minute, 60 for a leap second. -/
def secondOfMinute (t : DateTime) : Nat :=
  t.second % 60 + (if t.isLeap then 1 else 0)

/-- The time of day to the second, joined by colons. -/
def clockText (t : DateTime) : List Char :=
  Number.paddedDigits 2 (t.second / 3600) ++
    ':' :: Number.paddedDigits 2 (t.second / 60 % 60) ++
    ':' :: Number.paddedDigits 2 t.secondOfMinute

/-- The day and the time of day to the second, with a given character between them. -/
def textWith (mark : Char) (t : DateTime) : List Char :=
  t.date.text ++ mark :: t.clockText

def text (t : DateTime) : List Char :=
  t.textWith ' '

def microsecondText (t : DateTime) : List Char :=
  t.text ++ '.' :: Number.paddedDigits 6 (t.fraction / 1000)

/-- The text of a moment with as many groups of three decimal places as its fraction needs. -/
def isoText (t : DateTime) : List Char :=
  t.textWith 'T' ++
    (if t.fraction = 0 then
      []
    else if t.fraction % 1000000 = 0 then
      '.' :: Number.paddedDigits 3 (t.fraction / 1000000)
    else if t.fraction % 1000 = 0 then
      '.' :: Number.paddedDigits 6 (t.fraction / 1000)
    else
      '.' :: Number.paddedDigits 9 t.fraction)

end DateTime

end GridQuery
