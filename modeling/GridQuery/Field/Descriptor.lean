import GridQuery.Field.Kind

/-!
# Field descriptors

What is known of a field without looking at a record: where its value is, what it is called, and what
kind of values it holds.
-/

namespace GridQuery

/-- What is known of a field of a record type. -/
structure FieldDescriptor where
  /-- The number under which a record gives the value of the field. -/
  index : Nat
  /-- The name that requests use. -/
  name : String
  /-- The column of the database table. -/
  column : String
  kind : FieldKind
  isOptional : Bool
deriving DecidableEq

end GridQuery
