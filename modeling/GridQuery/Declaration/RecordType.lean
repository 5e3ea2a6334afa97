import GridQuery.Declaration.Settings
import GridQuery.Declaration.StoreColumn
import GridQuery.Field.Descriptor
import GridQuery.Field.Value

/-!
# Record types from declarations

The fields of a grid that a declared structure has, and how their values are read. Skipped fields are left
out, and the others are numbered in their order.
-/

namespace GridQuery.Declaration

/-- A field of a structure that is a field of the grid. -/
structure GridField where
  identifier : String
  type : String
  /-- The name that requests use. -/
  name : String
  column : String
deriving DecidableEq

/-- The field of the grid for a field of a structure that has the given settings. -/
def GridField.ofItem (item : Item) (settings : Settings) : GridField :=
  let name := plainName item.identifier
  { identifier := item.identifier
    type := item.type
    name := settings.rename.getD name
    column := (settings.column.or (storeColumn? item.attributes)).getD name }

/-- The fields of the grid of a list of fields. -/
def gridFields : List Item → Except DeclarationError (List GridField)
  | [] => .ok []
  | item :: items =>
      (Settings.ofAttributes .field item.attributes).bind fun settings =>
        (gridFields items).map fun fields =>
          if settings.skip then fields else .ofItem item settings :: fields

/-- A type of records: how its fields are described, and what is read for each index. -/
structure RecordType where
  fields : List (Nat × GridField)
  /-- The identifiers that are read, by index. -/
  reads : List (Nat × String)

/-- Values with their positions, from a given one on. -/
def numberedFrom {α : Type} (start : Nat) : List α → List (Nat × α)
  | [] => []
  | value :: values => (start, value) :: numberedFrom (start + 1) values

namespace RecordType

def ofFields (fields : List GridField) : RecordType :=
  ⟨numberedFrom 0 fields, numberedFrom 0 (fields.map (·.identifier))⟩

def ofDeclaration (declaration : Declaration) : Except DeclarationError RecordType :=
  match declaration.shape with
  | .namedFields => (gridFields declaration.items).map ofFields
  | .positionalFields => .error .recordNeedsNamedFields
  | .noFields => .error .recordNeedsNamedFields
  | .enumeration => .error .recordNeedsStructure
  | .union => .error .recordNeedsStructure

/-- The descriptors of the fields, given what their types are. -/
def descriptors (recordType : RecordType) (kindOf : String → FieldKind)
    (isOptional : String → Bool) : List FieldDescriptor :=
  recordType.fields.map fun (index, field) =>
    ⟨index, field.name, field.column, kindOf field.type, isOptional field.type⟩

/-- The value of a field by its index, given the values of the fields of the structure. No other index
has a value. -/
def value (recordType : RecordType) (fieldValue : String → FieldValue) (index : Nat) :
    FieldValue :=
  match recordType.reads.lookup index with
  | some identifier => fieldValue identifier
  | none => .null

end RecordType

end GridQuery.Declaration
