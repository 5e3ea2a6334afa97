import GridQuery.Declaration.FieldType
import GridQuery.Declaration.RecordType
import GridQuery.Field.Record

/-!
# Records of declared structures

A structure that is declared as a type of records. What a record holds is a value for each field of the
structure, which is read through the identifier of the field.
-/

namespace GridQuery

open Declaration

/-- A declared structure of which records are made. -/
structure RecordStructure where
  typeName : String
  declaration : Declaration
  /-- The types of fields, by how they are written. -/
  typeOf : String → FieldType
  recordType : RecordType
  accepted : RecordType.ofDeclaration declaration = .ok recordType
  /-- No two fields have the same identifier. -/
  distinct : (declaration.items.map (·.identifier)).Nodup

namespace RecordStructure

/-- What a record of a structure holds. -/
structure Instance (declared : RecordStructure) where
  contents : (item : Item) → item ∈ declared.declaration.items → (declared.typeOf item.type).Value

/-- The value of the field with an identifier. -/
def Instance.fieldValue {declared : RecordStructure} (record : declared.Instance) (identifier : String) :
    FieldValue :=
  match found : declared.declaration.items.find? (·.identifier == identifier) with
  | some item =>
      (declared.typeOf item.type).fieldValue (record.contents item (List.mem_of_find?_eq_some found))
  | none => .null

instance (declared : RecordStructure) : Record declared.Instance where
  typeName := declared.typeName
  descriptors := declared.recordType.descriptors (fun type => (declared.typeOf type).kind) fun type =>
    (declared.typeOf type).isOptional
  value record index := declared.recordType.value record.fieldValue index

end RecordStructure

end GridQuery
