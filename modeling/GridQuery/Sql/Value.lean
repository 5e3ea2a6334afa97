import GridQuery.Field.Value

/-!
# Values of queries

The values that stand in queries as literals or parameters. The names of an enumeration are text here.
-/

namespace GridQuery.Sql

open Number

/-- A value of a query. -/
inductive Value where
  | bool (value : Bool)
  | integer (value : Int64)
  /-- A number of rows. -/
  | count (value : UInt64)
  | float (value : Binary64)
  | decimal (value : Decimal)
  | text (value : List Char)
  | date (value : Date)
  | dateTime (value : DateTime)
  | dateTimeUtc (value : DateTime)
  | uuid (value : Uuid)
deriving DecidableEq

/-- The value of a query for a value of a field. Null has none. -/
def ofField? : FieldValue → Option Value
  | .null => none
  | .bool value => some (.bool value)
  | .integer value => some (.integer value)
  | .float value => some (.float value)
  | .decimal value => some (.decimal value)
  | .text value => some (.text value.toList)
  | .date value => some (.date value)
  | .dateTime value => some (.dateTime value)
  | .dateTimeUtc value => some (.dateTimeUtc value)
  | .uuid value => some (.uuid value)
  | .enumeration name => some (.text name.toList)

/-- The exact value of a number. Infinities have none. -/
def Value.number? : Value → Option Rat
  | integer value => some (value.toInt : Rat)
  | count value => some (value.toNat : Rat)
  | float value => value.toRat?
  | decimal value => some value.toRat
  | _ => none

def numberOrder (left right : Rat) : Ordering :=
  if left < right then .lt else if right < left then .gt else .eq

/-- The order of two values, if they are comparable: numbers by their exact values, other values
within their kind. -/
def Value.order? : Value → Value → Option Ordering
  | bool left, bool right => some (compare left.toNat right.toNat)
  | float left, float right => left.partialOrder? right
  | text left, text right => some (Text.order left right)
  | date left, date right => some (left.order right)
  | dateTime left, dateTime right => some (left.order right)
  | dateTimeUtc left, dateTimeUtc right => some (left.order right)
  | uuid left, uuid right => some (left.order right)
  | left, right =>
      match left.number?, right.number? with
      | some left, some right => some (numberOrder left right)
      | _, _ => none

/-- A text with every occurrence of a character written twice. -/
def doubled (mark : Char) (text : List Char) : List Char :=
  text.flatMap fun c => if c = mark then [c, c] else [c]

/-- A text between marks; a mark inside is written twice. -/
def quoted (mark : Char) (text : List Char) : List Char :=
  mark :: doubled mark text ++ [mark]

/-- The literal of a value. -/
def Value.literal : Value → List Char
  | bool true => ['T', 'R', 'U', 'E']
  | bool false => ['F', 'A', 'L', 'S', 'E']
  | integer value => signedText value
  | count value => unsignedText value
  | float value => value.text
  | decimal value => value.text
  | text value => quoted '\'' value
  | date value => quoted '\'' value.text
  | dateTime value => quoted '\'' value.microsecondText
  | dateTimeUtc value => quoted '\'' (value.microsecondText ++ [' ', '+', '0', '0', ':', '0', '0'])
  | uuid value => quoted '\'' value.text

end GridQuery.Sql
