import GridQuery.Calendar.Reader

/-!
# Moments with an offset

Texts of moments in local time that end with the offset of that time from universal time.
-/

namespace GridQuery.Calendar

/-- The moment a number of seconds before another. A leap second stays one. -/
def earlier? (moment : DateTime) (seconds : Int) : Option DateTime :=
  (DateTime.ofTimestamp? (moment.timestamp - seconds)).bind fun shifted =>
    DateTime.ofParts? shifted.date shifted.second moment.nanosecond

/-- The moment in universal time that parts with an offset of less than a day determine. -/
def Fields.universal? (fields : Fields) : Option DateTime := do
  let offset ← fields.get .offset
  let moment ← fields.dateTime?.toOption
  if offset.natAbs < secondsPerDay then earlier? moment offset else none

/-- Reads a moment with an offset as a moment in universal time. -/
def readOffsetDateTime? (text : List Char) : Option DateTime :=
  (readFields? (zonedItems ++ [.blanks]) text).bind Fields.universal?

end GridQuery.Calendar
