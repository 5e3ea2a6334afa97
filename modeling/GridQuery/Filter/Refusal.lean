import GridQuery.Error
import GridQuery.Field.Descriptor

/-!
# Refused filters

The errors of filters that do not suit their field.
-/

namespace GridQuery.Filter

/-- A filter of the category cannot be applied to the field. -/
def mismatch (field : FieldDescriptor) (category : FilterCategory) : GridError :=
  .typeMismatch field.name category field.kind

/-- The operator is not one of the category. -/
def unsupported (field : FieldDescriptor) (category : FilterCategory) (operator : FilterOperator) :
    GridError :=
  .unsupportedOperator field.name category operator

end GridQuery.Filter
