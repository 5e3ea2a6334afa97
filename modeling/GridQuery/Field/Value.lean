import GridQuery.Calendar.DateTime
import GridQuery.Field.Kind
import GridQuery.Number.Conversion
import GridQuery.Number.Binary64.Shortest
import GridQuery.Text.Order
import GridQuery.Uuid

/-!
# Values of fields

The values that fields of records hold. All values are put in one order for sorting: null first, then
by the kind of value, then by the value itself. Equality is that of values, not of their forms:
decimals are equal as numbers, and so are floats, which leaves a NaN unequal to itself.
-/

namespace GridQuery

open Number

/-- A value of a field of a record. -/
inductive FieldValue where
  | null
  | bool (value : Bool)
  | integer (value : Int64)
  | float (value : Binary64)
  | decimal (value : Decimal)
  | text (value : String)
  | date (value : Date)
  | dateTime (value : DateTime)
  /-- A moment in universal time. -/
  | dateTimeUtc (value : DateTime)
  | uuid (value : Uuid)
  /-- The name of a variant of an enumeration. -/
  | enumeration (name : String)
deriving DecidableEq

namespace FieldValue

def isNull : FieldValue → Bool
  | null => true
  | _ => false

/-- The text that a search looks at. Null has none. -/
def searchText : FieldValue → List Char
  | null => []
  | bool true => ['t', 'r', 'u', 'e']
  | bool false => ['f', 'a', 'l', 's', 'e']
  | integer value => signedText value
  | float value => value.text
  | decimal value => value.text
  | text value => value.toList
  | date value => value.text
  | dateTime value => value.text
  | dateTimeUtc value => value.text
  | uuid value => value.text
  | enumeration name => name.toList

/-- The calendar day of a temporal value. -/
def day? : FieldValue → Option Date
  | date value => some value
  | dateTime value => some value.date
  | dateTimeUtc value => some value.date
  | _ => none

/-- The place of a kind of value in the order of all values. -/
def rank : FieldValue → Nat
  | null => 0
  | bool _ => 1
  | integer _ => 2
  | float _ => 3
  | decimal _ => 4
  | text _ => 5
  | date _ => 6
  | dateTime _ => 7
  | dateTimeUtc _ => 8
  | uuid _ => 9
  | enumeration _ => 10

/-- The order of values for sorting. -/
def order : FieldValue → FieldValue → Ordering
  | bool left, bool right => compare left.toNat right.toNat
  | integer left, integer right => compare left.toInt right.toInt
  | float left, float right => left.totalOrder right
  | decimal left, decimal right => left.order right
  | text left, text right => Text.stringOrder left right
  | date left, date right => left.order right
  | dateTime left, dateTime right => left.order right
  | dateTimeUtc left, dateTimeUtc right => left.order right
  | uuid left, uuid right => left.order right
  | enumeration left, enumeration right => Text.stringOrder left right
  | left, right => compare left.rank right.rank

/-- Whether two values are equal: kinds are never mixed, and numbers are equal by value. -/
def same : FieldValue → FieldValue → Bool
  | null, null => true
  | bool left, bool right => left == right
  | integer left, integer right => left == right
  | float left, float right => left.same right
  | decimal left, decimal right => left.same right
  | text left, text right => left == right
  | date left, date right => left == right
  | dateTime left, dateTime right => left == right
  | dateTimeUtc left, dateTimeUtc right => left == right
  | uuid left, uuid right => left == right
  | enumeration left, enumeration right => left == right
  | _, _ => false

/-- The decimal that a numeric value stands for. -/
def toDecimal? : FieldValue → Option Decimal
  | integer value => some (Decimal.ofInt64 value)
  | float value => value.toDecimal?
  | decimal value => some value
  | _ => none

/-- The float that a numeric value stands for. -/
def toBinary64? : FieldValue → Option Binary64
  | integer value => some (Binary64.ofInt value.toInt)
  | float value => some value
  | decimal value => some value.toBinary64
  | _ => none

/-- Whether a value is one that a field of the given kind can hold when it is not null. -/
def hasKind : FieldValue → FieldKind → Bool
  | bool _, .bool => true
  | integer _, .integer => true
  | float _, .float => true
  | decimal _, .decimal => true
  | text _, .text => true
  | date _, .date => true
  | dateTime _, .dateTime => true
  | dateTimeUtc _, .dateTimeUtc => true
  | uuid _, .uuid => true
  | enumeration name, .enumeration variants => variants.contains name
  | _, _ => false

end FieldValue

end GridQuery
