/-!
# Kinds of fields

The kind of values a field holds. Whether a field may also be null is not part of its kind.
-/

namespace GridQuery

/-- The kind of the values of a field. -/
inductive FieldKind where
  | bool
  | integer
  | float
  | decimal
  | text
  | date
  | dateTime
  | dateTimeUtc
  | uuid
  /-- One of the given names. -/
  | enumeration (variants : List String)
deriving DecidableEq

namespace FieldKind

def isNumeric : FieldKind → Bool
  | integer => true
  | float => true
  | decimal => true
  | _ => false

def isTemporal : FieldKind → Bool
  | date => true
  | dateTime => true
  | dateTimeUtc => true
  | _ => false

def name : FieldKind → String
  | bool => "bool"
  | integer => "integer"
  | float => "float"
  | decimal => "decimal"
  | text => "text"
  | date => "date"
  | dateTime => "datetime"
  | dateTimeUtc => "timestamp"
  | uuid => "uuid"
  | enumeration _ => "enum"

end FieldKind

end GridQuery
