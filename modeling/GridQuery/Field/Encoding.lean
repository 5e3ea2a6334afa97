import GridQuery.Calendar.Reader
import GridQuery.Field.Descriptor
import GridQuery.Field.Value
import GridQuery.Json.Decoding
import GridQuery.Number.Binary64.Reader
import GridQuery.Number.Decimal.Encoding

/-!
# Fields and values as JSON

How values and descriptors of fields are exchanged as JSON. A value is written with a tag for its kind;
all values but truth values and integers are strings, so that nothing of them is lost.
-/

namespace GridQuery

open Number Json

namespace FieldValue

def tag : FieldValue → String
  | null => "Null"
  | bool _ => "Bool"
  | integer _ => "Integer"
  | float _ => "Float"
  | decimal _ => "Decimal"
  | text _ => "Text"
  | date _ => "Date"
  | dateTime _ => "DateTime"
  | dateTimeUtc _ => "DateTimeUtc"
  | uuid _ => "Uuid"
  | enumeration _ => "Enum"

/-- The content of a value. Null has none. -/
def content? : FieldValue → Option Json
  | null => none
  | bool value => some (.bool value)
  | integer value => some (.integer value.toInt)
  | float value => some (.ofText value.text)
  | decimal value => some (.ofText value.text)
  | text value => some (.string value)
  | date value => some (.ofText value.text)
  | dateTime value => some (.ofText value.isoText)
  | dateTimeUtc value => some (.ofText value.isoText)
  | uuid value => some (.ofText value.text)
  | enumeration name => some (.string name)

def toJson (value : FieldValue) : Json :=
  .object (("t", .string value.tag) ::
    match value.content? with
    | some content => [("v", content)]
    | none => [])

/-- Reads the content of a value of a kind. The names of an enumeration are not checked. -/
def ofContent? (kind : FieldKind) (document : Document) : Option FieldValue :=
  let read {α : Type} (reader : List Char → Option α) : Option α :=
    document.text?.bind fun text => reader text.toList
  match kind with
  | .bool => document.bool?.map bool
  | .integer => document.signed?.map integer
  | .float => (read Binary64.read?).map float
  | .decimal => (Decimal.ofDocument? document).map decimal
  | .text => document.text?.map text
  | .date => (read Calendar.readIsoDate?).map date
  | .dateTime => (read Calendar.readIsoDateTime?).map dateTime
  | .dateTimeUtc => (read Calendar.readIsoDateTime?).map dateTimeUtc
  | .uuid => (read Uuid.read?).map uuid
  | .enumeration _ => document.text?.map enumeration

/-- The kind of the values with a tag. -/
def kindOfTag? : String → Option FieldKind
  | "Bool" => some .bool
  | "Integer" => some .integer
  | "Float" => some .float
  | "Decimal" => some .decimal
  | "Text" => some .text
  | "Date" => some .date
  | "DateTime" => some .dateTime
  | "DateTimeUtc" => some .dateTimeUtc
  | "Uuid" => some .uuid
  | "Enum" => some (.enumeration [])
  | _ => none

def ofDocument? (document : Document) : Option FieldValue := do
  let member ← document.members? ["t", "v"]
  let tag ← (member "t").required Document.text?
  if tag = "Null" then
    return null
  (member "v").required (ofContent? (← kindOfTag? tag))

end FieldValue

namespace FieldKind

/-- The kind of a name, with the given variants if it is that of enumerations. -/
def ofName? (variants : List String) (text : String) : Option FieldKind :=
  [bool, integer, float, decimal, .text, date, dateTime, dateTimeUtc, uuid,
    enumeration variants].find? fun kind => kind.name == text

end FieldKind

namespace FieldDescriptor

def toJson (field : FieldDescriptor) : Json :=
  .object ([("index", .integer field.index), ("name", .string field.name),
    ("column", .string field.column), ("kind", .string field.kind.name),
    ("optional", .bool field.isOptional), ("numeric", .bool field.kind.isNumeric),
    ("temporal", .bool field.kind.isTemporal)] ++
    match field.kind with
    | .enumeration variants => [("variants", .ofList .string variants)]
    | _ => [])

/-- The descriptor of a document. The index may be left out, and so may the variants of kinds without
them. -/
def ofDocument? (index : Nat) (document : Document) : Option FieldDescriptor := do
  let member ← document.members? ["index", "name", "column", "kind", "optional", "variants"]
  let variants ← (member "variants").withDefault [] (Document.list? Document.text?)
  return {
    index := ((← (member "index").optional Document.unsigned?).map UInt64.toNat).getD index
    name := ← (member "name").required Document.text?
    column := ← (member "column").required Document.text?
    kind := ← ((member "kind").required Document.text?).bind (FieldKind.ofName? variants)
    isOptional := ← (member "optional").withDefault false Document.bool? }

end FieldDescriptor

end GridQuery
