import GridQuery.Declaration.ValueType
import GridQuery.Number.Binary64.Rounding

/-!
# Types of fields

The types that fields of a declared structure can have, and how their values are values of the grid. Whole
numbers of all sizes are widened to one size, and so are floats; no value is changed by it.
-/

namespace GridQuery.Declaration

open Number

/-- The types of whole numbers. -/
inductive IntegerType where
  | int8
  | int16
  | int32
  | int64
  | uint8
  | uint16
  | uint32
deriving DecidableEq

namespace IntegerType

def Value : IntegerType → Type
  | int8 => Int8
  | int16 => Int16
  | int32 => Int32
  | int64 => Int64
  | uint8 => UInt8
  | uint16 => UInt16
  | uint32 => UInt32

/-- The same number in the greatest size. -/
def widen : (type : IntegerType) → type.Value → Int64
  | int8, value => Int8.toInt64 value
  | int16, value => Int16.toInt64 value
  | int32, value => Int32.toInt64 value
  | int64, value => value
  | uint8, value => .ofNat (UInt8.toNat value)
  | uint16, value => .ofNat (UInt16.toNat value)
  | uint32, value => .ofNat (UInt32.toNat value)

end IntegerType

/-- The types of fields. -/
inductive FieldType where
  | bool
  | integer (type : IntegerType)
  /-- Floats of single precision. -/
  | single
  | double
  | decimal
  | text
  | date
  | dateTime
  | dateTimeUtc
  | uuid
  | enumeration (type : ValueType)
  /-- A value that may be missing. -/
  | optional (content : FieldType)

namespace FieldType

def kind : FieldType → FieldKind
  | bool => .bool
  | integer _ => .integer
  | single => .float
  | double => .float
  | decimal => .decimal
  | text => .text
  | date => .date
  | dateTime => .dateTime
  | dateTimeUtc => .dateTimeUtc
  | uuid => .uuid
  | enumeration type => type.kind
  | optional content => content.kind

def isOptional : FieldType → Bool
  | optional _ => true
  | _ => false

/-- The values of a type. Those of an enumeration are the identifiers of its variants. -/
def Value : FieldType → Type
  | bool => Bool
  | integer type => type.Value
  | single => { value : Binary64 // value.isSingle = true }
  | double => Binary64
  | decimal => Decimal
  | text => String
  | date => Date
  | dateTime => DateTime
  | dateTimeUtc => DateTime
  | uuid => Uuid
  | enumeration type => { identifier : String // (type.value? identifier).isSome = true }
  | optional content => Option content.Value

/-- The value of the grid for a value of a type. -/
def fieldValue : (type : FieldType) → type.Value → FieldValue
  | bool, value => .bool value
  | integer type, value => .integer (type.widen value)
  | single, value => .float value.1
  | double, value => .float value
  | decimal, value => .decimal value
  | text, value => .text value
  | date, value => .date value
  | dateTime, value => .dateTime value
  | dateTimeUtc, value => .dateTimeUtc value
  | uuid, value => .uuid value
  | enumeration type, value => (type.value? value.1).get value.2
  | optional _, none => .null
  | optional content, some value => content.fieldValue value

end FieldType

end GridQuery.Declaration
