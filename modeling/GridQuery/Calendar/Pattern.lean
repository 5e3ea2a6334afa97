import GridQuery.Text.Blank

/-!
# Date patterns

Patterns for dates and times: text in which a percent sign and a letter stand for a part of a date.
A pattern is read into items before use; one with an unknown letter has no items.
-/

namespace GridQuery.Calendar

/-- The parts of a date or time that are written as numbers. -/
inductive NumberPart where
  | year
  | century
  | yearOfCentury
  | isoYear
  | isoYearOfCentury
  | quarter
  | month
  | day
  | weekFromSunday
  | weekFromMonday
  | isoWeek
  | weekdayFromSunday
  | weekdayFromMonday
  | ordinal
  | hour
  | hourOfHalf
  | minute
  | second
  | nanosecond
  | timestamp
deriving DecidableEq

/-- One item of a pattern. -/
inductive Item where
  | literal (c : Char)
  | blanks
  | number (part : NumberPart)
  /-- The first three letters of the name of a month, and the rest of the name if `full`. -/
  | monthName (full : Bool)
  /-- The first three letters of the name of a weekday, and the rest of the name if `full`. -/
  | weekdayName (full : Bool)
  /-- The half of the day, `AM` or `PM`. -/
  | halfOfDay
  /-- A point and decimal places of a second, which may be missing. -/
  | fraction
  /-- A point and so many decimal places of a second, which may be missing. -/
  | pointedFraction (places : Nat)
  /-- So many decimal places of a second, without a point. -/
  | bareFraction (places : Nat)
  /-- Everything up to the next blank. -/
  | zoneName
  /-- An offset from UTC: hours and minutes after a sign. -/
  | offset
  /-- An offset from UTC, without minutes if need be, or the letter `Z`. -/
  | laxOffset
  /-- The letter `T` or a space between a day and a time. -/
  | timeMark
  /-- An offset from UTC, the letter `Z` or the letters `UTC`. -/
  | namedOffset

/-- The parts that a single letter stands for and whose numbers may be padded. -/
def numberPart? : Char → Option NumberPart
  | 'C' => some .century
  | 'G' => some .isoYear
  | 'H' => some .hour
  | 'I' => some .hourOfHalf
  | 'M' => some .minute
  | 'S' => some .second
  | 'U' => some .weekFromSunday
  | 'V' => some .isoWeek
  | 'W' => some .weekFromMonday
  | 'Y' => some .year
  | 'd' => some .day
  | 'e' => some .day
  | 'f' => some .nanosecond
  | 'g' => some .isoYearOfCentury
  | 'j' => some .ordinal
  | 'k' => some .hour
  | 'l' => some .hourOfHalf
  | 'm' => some .month
  | 'q' => some .quarter
  | 's' => some .timestamp
  | 'u' => some .weekdayFromMonday
  | 'w' => some .weekdayFromSunday
  | 'y' => some .yearOfCentury
  | _ => none

/-- Year, month and day, joined by hyphens. -/
def dayItems : List Item :=
  [.number .year, .literal '-', .number .month, .literal '-', .number .day]

/-- Month, day and year of the century, joined by slashes. -/
def slashedItems : List Item :=
  [.number .month, .literal '/', .number .day, .literal '/', .number .yearOfCentury]

/-- Hour, minute and second, joined by colons. -/
def clockItems : List Item :=
  [.number .hour, .literal ':', .number .minute, .literal ':', .number .second]

/-- Year, month and day, joined by hyphens that blanks may precede. -/
def spacedDayItems : List Item :=
  [.number .year, .blanks, .literal '-', .number .month, .blanks, .literal '-', .number .day]

/-- Hour, minute and second with an optional fraction, joined by colons that blanks may precede. -/
def spacedClockItems : List Item :=
  [.number .hour, .blanks, .literal ':', .number .minute, .blanks, .literal ':', .number .second,
    .fraction, .blanks]

/-- A day, a time of day and an offset. -/
def zonedItems : List Item :=
  spacedDayItems ++ .timeMark :: spacedClockItems ++ [.namedOffset]

/-- What a letter after a percent sign stands for. -/
def letterItems? (c : Char) : Option (List Item) :=
  match numberPart? c with
  | some part => some [.number part]
  | none =>
      match c with
      | '%' => some [.literal '%']
      | 'A' => some [.weekdayName true]
      | 'B' => some [.monthName true]
      | 'D' => some slashedItems
      | 'F' => some dayItems
      | 'P' => some [.halfOfDay]
      | 'R' => some [.number .hour, .literal ':', .number .minute]
      | 'T' => some clockItems
      | 'X' => some clockItems
      | 'Z' => some [.zoneName]
      | 'a' => some [.weekdayName false]
      | 'b' => some [.monthName false]
      | 'c' =>
          some ([.weekdayName false, .blanks, .monthName false, .blanks, .number .day, .blanks] ++
            clockItems ++ [.blanks, .number .year])
      | 'h' => some [.monthName false]
      | 'n' => some [.blanks]
      | 'p' => some [.halfOfDay]
      | 'r' =>
          some [.number .hourOfHalf, .literal ':', .number .minute, .literal ':', .number .second,
            .blanks, .halfOfDay]
      | 't' => some [.blanks]
      | 'v' =>
          some [.number .day, .literal '-', .monthName false, .literal '-', .number .year]
      | 'x' => some slashedItems
      | 'z' => some [.offset]
      | '+' => some zonedItems
      | _ => none

/-- The number of places that a digit asks for in a fraction. -/
def places? : Char → Option Nat
  | '3' => some 3
  | '6' => some 6
  | '9' => some 9
  | _ => none

/-- Whether a character between the percent sign and the letter changes how a number is padded. -/
def isPadding (c : Char) : Bool :=
  c == '-' || c == '0' || c == '_'

/-- The items of a pattern, unless it has an unknown letter. -/
def items? : List Char → Option (List Item)
  | [] => some []
  | '%' :: '.' :: 'f' :: rest => (items? rest).map (.fraction :: ·)
  | '%' :: ':' :: ':' :: ':' :: 'z' :: rest => (items? rest).map (.offset :: ·)
  | '%' :: ':' :: ':' :: 'z' :: rest => (items? rest).map (.offset :: ·)
  | '%' :: ':' :: 'z' :: rest => (items? rest).map (.offset :: ·)
  | '%' :: '#' :: 'z' :: rest => (items? rest).map (.laxOffset :: ·)
  | '%' :: '.' :: c :: 'f' :: rest =>
      (places? c).bind fun places => (items? rest).map (.pointedFraction places :: ·)
  | '%' :: c :: rest =>
      if isPadding c then
        match rest with
        | letter :: rest =>
            (numberPart? letter).bind fun part => (items? rest).map (.number part :: ·)
        | [] => none
      else
        match places? c with
        | some places =>
            match rest with
            | 'f' :: rest => (items? rest).map (.bareFraction places :: ·)
            | _ => none
        | none => (letterItems? c).bind fun first => (items? rest).map (first ++ ·)
  | '%' :: [] => none
  | c :: rest => (items? rest).map ((if Text.isBlank c then .blanks else .literal c) :: ·)

end GridQuery.Calendar
