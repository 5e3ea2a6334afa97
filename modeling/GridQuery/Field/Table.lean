import GridQuery.Error
import GridQuery.Field.Record
import GridQuery.Text.Blank
import GridQuery.Text.Lowercase

/-!
# Fields by name

The table through which requests name the fields of a record type. Names are compared in Unicode lower
case. Of two fields whose names differ only in case, only the first can be named.
-/

namespace GridQuery

/-- The fields of a record type, with the lower-case names by which they are found. -/
structure FieldTable where
  record : String
  fields : List FieldDescriptor
  /-- Each lower-case name once, with its field. -/
  entries : List (List Char × FieldDescriptor)

namespace FieldTable

/-- The form in which names are compared. -/
def foldedName (name : List Char) : List Char :=
  Text.lowercase name

/-- Adds a field under its lower-case name, unless an earlier field has that name. -/
def insert (entries : List (List Char × FieldDescriptor)) (field : FieldDescriptor) :
    List (List Char × FieldDescriptor) :=
  let key := foldedName field.name.toList
  if entries.any (·.1 == key) then entries else entries ++ [(key, field)]

def build (record : String) (fields : List FieldDescriptor) : FieldTable :=
  ⟨record, fields, fields.foldl insert []⟩

def of (ρ : Type) [Record ρ] : FieldTable :=
  build (Record.typeName ρ) (Record.descriptors ρ)

/-- The field of a name. Blanks around the name do not count. -/
def find? (table : FieldTable) (name : String) : Option FieldDescriptor :=
  let key := foldedName (Text.trim name.toList)
  (table.entries.find? (·.1 == key)).map (·.2)

/-- The field of a name, which must exist. -/
def resolve (table : FieldTable) (name : String) : Except GridError FieldDescriptor :=
  match table.find? name with
  | some field => .ok field
  | none => .error (.fieldNotFound table.record name)

end FieldTable

end GridQuery
