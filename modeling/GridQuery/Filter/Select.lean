import GridQuery.Field.Record
import GridQuery.Predicate
import GridQuery.Request.Options
import GridQuery.Request.Spec

/-!
# Select filters

Filters for one of a set of values. Raw values that do not fit the kind of the field are dropped, and an
empty set accepts everything.
-/

namespace GridQuery.Filter

/-- The truth value of a word or a digit. -/
def readBool? (text : List Char) : Option Bool :=
  if Text.sameIgnoringCase text ['t', 'r', 'u', 'e'] || text == ['1'] then
    some true
  else if Text.sameIgnoringCase text ['f', 'a', 'l', 's', 'e'] || text == ['0'] then
    some false
  else
    none

/-- A raw value as a value of a kind. Text is taken as it is. -/
def coerce? (kind : FieldKind) (options : ParsingOptions) (raw : String) : Option FieldValue :=
  let trimmed := Text.trim raw.toList
  let text := String.ofList trimmed
  match kind with
  | .text => some (.text raw)
  | .integer => (options.parseInteger text).map .integer
  | .float => (options.parseDecimal text).map fun decimal => .float decimal.toBinary64
  | .decimal => (options.parseDecimal text).map .decimal
  | .bool => (readBool? trimmed).map .bool
  | .date => (options.parseDate text).map .date
  | .dateTime => (options.parseDateTime text).map .dateTime
  | .dateTimeUtc => (options.parseDateTime text).map .dateTimeUtc
  | .uuid => (Uuid.read? trimmed).map .uuid
  | .enumeration variants =>
      (variants.find? fun variant => Text.sameIgnoringCase variant.toList trimmed).map .enumeration

/-- Whether a value of a field is one of a set. Null is in no set. -/
def isMember (values : List FieldValue) (value : FieldValue) : Bool :=
  !value.isNull && values.any fun candidate => candidate.same value

/-- The predicate that a field has one of the given values. -/
def membership {ρ : Type} [Record ρ] (field : FieldDescriptor) (values : List FieldValue) :
    Predicate ρ :=
  let test (record : ρ) := isMember values (field.read record)
  let column := Sql.Term.column field.column
  match values.filterMap Sql.ofField? with
  | [] => .always
  | [value] => .new test (.single (.compare column .equal (.value value)))
  | parameters => .new test (.single (.isIn column parameters))

def compileMultiSelect {ρ : Type} [Record ρ] (field : FieldDescriptor) (filter : MultiSelectFilter)
    (options : ParsingOptions) : Predicate ρ :=
  membership field (filter.values.filterMap (coerce? field.kind options))

def compileSingleSelect {ρ : Type} [Record ρ] (field : FieldDescriptor)
    (filter : SingleSelectFilter) (options : ParsingOptions) : Predicate ρ :=
  match coerce? field.kind options filter.value with
  | some value => membership field [value]
  | none => .always

end GridQuery.Filter
