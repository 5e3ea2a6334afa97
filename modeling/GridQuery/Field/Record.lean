import GridQuery.Field.Descriptor
import GridQuery.Field.Value

/-!
# Records

Types whose values have named fields.
-/

namespace GridQuery

/-- A type of records: its name, its fields, and the value of each field by its index. -/
class Record (ρ : Type) where
  typeName : String
  descriptors : List FieldDescriptor
  value : ρ → Nat → FieldValue

def FieldDescriptor.read {ρ : Type} [Record ρ] (field : FieldDescriptor) (record : ρ) :
    FieldValue :=
  Record.value record field.index

end GridQuery
