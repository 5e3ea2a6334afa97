import GridQuery.Calendar.Fields

/-!
# Reading dates by patterns

A text is read item by item; each item takes what it can from the front of the text. Numbers and
offsets pass over blanks first. The whole text must be used.
-/

namespace GridQuery.Calendar

/-- Reads one or more digits, at most `width` of them if a width is given. The number must fit in 63
bits. -/
def readDigits? (width : Option Nat) (text : List Char) : Option (Int × List Char) :=
  let run := (text.take (width.getD text.length)).takeWhile Char.isDigit
  if run.isEmpty then
    none
  else
    let value := Number.digitsValue run
    if value < 9223372036854775808 then some (value, text.drop run.length) else none

/-- The greatest number of digits of a number without a sign. -/
def NumberPart.width : NumberPart → Option Nat
  | .year => some 4
  | .isoYear => some 4
  | .quarter => some 1
  | .weekdayFromSunday => some 1
  | .weekdayFromMonday => some 1
  | .ordinal => some 3
  | .nanosecond => some 9
  | .timestamp => none
  | _ => some 2

/-- Whether a number may have a sign. After a sign it may have any number of digits. -/
def NumberPart.isSigned : NumberPart → Bool
  | .year => true
  | .isoYear => true
  | _ => false

def readNumber? (part : NumberPart) (text : List Char) : Option (Int × List Char) :=
  match part.isSigned, text with
  | true, '-' :: rest => (readDigits? none rest).map fun found => (-found.1, found.2)
  | true, '+' :: rest => readDigits? none rest
  | _, _ => readDigits? part.width text

/-- The names of the months: the first three letters and the rest. -/
def monthNames : List (List Char × List Char) :=
  [ (['j', 'a', 'n'], ['u', 'a', 'r', 'y']), (['f', 'e', 'b'], ['r', 'u', 'a', 'r', 'y']),
    (['m', 'a', 'r'], ['c', 'h']), (['a', 'p', 'r'], ['i', 'l']), (['m', 'a', 'y'], []),
    (['j', 'u', 'n'], ['e']), (['j', 'u', 'l'], ['y']), (['a', 'u', 'g'], ['u', 's', 't']),
    (['s', 'e', 'p'], ['t', 'e', 'm', 'b', 'e', 'r']), (['o', 'c', 't'], ['o', 'b', 'e', 'r']),
    (['n', 'o', 'v'], ['e', 'm', 'b', 'e', 'r']), (['d', 'e', 'c'], ['e', 'm', 'b', 'e', 'r']) ]

/-- The names of the weekdays: the first three letters and the rest. -/
def weekdayNames : List (List Char × List Char) :=
  [ (['m', 'o', 'n'], ['d', 'a', 'y']), (['t', 'u', 'e'], ['s', 'd', 'a', 'y']),
    (['w', 'e', 'd'], ['n', 'e', 's', 'd', 'a', 'y']), (['t', 'h', 'u'], ['r', 's', 'd', 'a', 'y']),
    (['f', 'r', 'i'], ['d', 'a', 'y']), (['s', 'a', 't'], ['u', 'r', 'd', 'a', 'y']),
    (['s', 'u', 'n'], ['d', 'a', 'y']) ]

/-- What follows a word at the front of a text, in any case. The word is in lower case. -/
def dropWord? (word text : List Char) : Option (List Char) :=
  if (text.take word.length).map Char.toLower == word then some (text.drop word.length) else none

/-- Reads a name, from its first letters, and the rest of the name if `full` and if it is there. The
value is the place of the name in the list, from `place`. -/
def readName? (full : Bool) (text : List Char) :
    Nat → List (List Char × List Char) → Option (Nat × List Char)
  | _, [] => none
  | place, (start, tail) :: names =>
      match dropWord? start text with
      | some rest => some (place, if full then (dropWord? tail rest).getD rest else rest)
      | none => readName? full text (place + 1) names

/-- Reads decimal places of a second: up to nine count, the others are passed over. -/
def readFraction? (text : List Char) : Option (Int × List Char) :=
  (readDigits? (some 9) text).map fun found =>
    let count := text.length - found.2.length
    (found.1 * (Nat.pow 10 (9 - count) : Nat), found.2.dropWhile Char.isDigit)

def readPlaces? (places : Nat) (text : List Char) : Option (Int × List Char) :=
  (readDigits? (some places) text).bind fun found =>
    if text.length - found.2.length = places then
      some (found.1 * (Nat.pow 10 (9 - places) : Nat), found.2)
    else
      none

def readPair? : List Char → Option (Nat × List Char)
  | tens :: ones :: rest => (Number.natural? [tens, ones]).map (·, rest)
  | _ => none

/-- The factor of a sign of an offset. The minus sign proper counts as one. -/
def offsetSign? (c : Char) : Option Int :=
  if c == '+' then some 1 else if c == '-' || c == '−' then some (-1) else none

/-- Reads the minutes of an offset, which `optional` says may be missing at the end of a text. -/
def readMinutes? (optional : Bool) (text : List Char) : Option (Nat × List Char) :=
  if optional && text.isEmpty then
    some (0, [])
  else
    (readPair? text).filter (·.1 < 60)

/-- Reads an offset from UTC as a number of seconds: a sign, two digits, and two more digits, with
colons and blanks before them. -/
def readOffset? (optionalMinutes : Bool) : List Char → Option (Int × List Char)
  | [] => none
  | c :: text => do
      let sign ← offsetSign? c
      let (hours, rest) ← readPair? text
      let (minutes, rest) ← readMinutes? optionalMinutes
        (rest.dropWhile fun c => c == ':' || Text.isBlank c)
      return (sign * ((hours * 60 + minutes) * 60 : Nat), rest)

/-- Reads an offset or the letter `Z`. -/
def readZuluOrOffset? (optionalMinutes : Bool) : List Char → Option (Int × List Char)
  | 'Z' :: rest => some (0, rest)
  | 'z' :: rest => some (0, rest)
  | text => readOffset? optionalMinutes text

/-- Reads an offset, the letter `Z` or the letters `UTC`. -/
def readNamedOffset? (text : List Char) : Option (Int × List Char) :=
  match dropWord? ['u', 't', 'c'] text with
  | some rest => some (0, rest)
  | none => readZuluOrOffset? false text

def Item.read? (item : Item) (fields : Fields) (text : List Char) :
    Option (Fields × List Char) :=
  match item with
  | .literal c =>
      match text with
      | first :: rest => if first = c then some (fields, rest) else none
      | [] => none
  | .blanks => some (fields, Text.trimStart text)
  | .number part => do
      let (value, rest) ← readNumber? part (Text.trimStart text)
      let fields ← fields.setNumber part value
      return (fields, rest)
  | .monthName full => do
      let (place, rest) ← readName? full text 1 monthNames
      let fields ← fields.set .month place
      return (fields, rest)
  | .weekdayName full => do
      let (place, rest) ← readName? full text 0 weekdayNames
      let fields ← fields.set .weekday place
      return (fields, rest)
  | .halfOfDay =>
      match dropWord? ['a', 'm'] text with
      | some rest => (fields.set .half 0).map (·, rest)
      | none => do
          let rest ← dropWord? ['p', 'm'] text
          let fields ← fields.set .half 1
          return (fields, rest)
  | .fraction =>
      match text with
      | '.' :: rest => do
          let (value, rest) ← readFraction? rest
          let fields ← fields.setNumber .nanosecond value
          return (fields, rest)
      | _ => some (fields, text)
  | .pointedFraction places =>
      match text with
      | '.' :: rest => do
          let (value, rest) ← readPlaces? places rest
          let fields ← fields.setNumber .nanosecond value
          return (fields, rest)
      | _ => some (fields, text)
  | .bareFraction places => do
      let (value, rest) ← readPlaces? places text
      let fields ← fields.setNumber .nanosecond value
      return (fields, rest)
  | .zoneName => some (fields, text.dropWhile (!Text.isBlank ·))
  | .offset => do
      let (seconds, rest) ← readOffset? false (Text.trimStart text)
      let fields ← fields.set .offset seconds
      return (fields, rest)
  | .laxOffset => do
      let (seconds, rest) ← readZuluOrOffset? true (Text.trimStart text)
      let fields ← fields.set .offset seconds
      return (fields, rest)
  | .timeMark =>
      match text with
      | c :: rest => if c == 'T' || c == 't' || c == ' ' then some (fields, rest) else none
      | [] => none
  | .namedOffset => do
      let (seconds, rest) ← readNamedOffset? (Text.trimStart text)
      let fields ← fields.set .offset seconds
      return (fields, rest)

def readItems? : List Item → Fields → List Char → Option (Fields × List Char)
  | [], fields, text => some (fields, text)
  | item :: items, fields, text =>
      (item.read? fields text).bind fun found => readItems? items found.1 found.2

/-- The parts that a text gives under a list of items. -/
def readFields? (items : List Item) (text : List Char) : Option Fields :=
  match readItems? items Fields.empty text with
  | some (fields, []) => some fields
  | _ => none

def readDate? (pattern text : List Char) : Option Date :=
  ((items? pattern).bind (readFields? · text)).bind fun fields => fields.date?.toOption

def readDateTime? (pattern text : List Char) : Option DateTime :=
  ((items? pattern).bind (readFields? · text)).bind fun fields => fields.dateTime?.toOption

/-- Reads the standard form of a day: year, month and day, joined by hyphens. -/
def readIsoDate? (text : List Char) : Option Date :=
  (readFields? (spacedDayItems ++ [.blanks]) text).bind fun fields => fields.date?.toOption

/-- Reads the standard form of a moment: day and time of day, joined by the letter `T`. -/
def readIsoDateTime? (text : List Char) : Option DateTime :=
  (readFields? (spacedDayItems ++ .blanks :: .literal 'T' :: spacedClockItems) text).bind
    fun fields => fields.dateTime?.toOption

end GridQuery.Calendar
