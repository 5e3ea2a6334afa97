import GridQuery.Declaration.Token
import GridQuery.Text.Occurrence

/-!
# Type declarations

Declarations of types as the source text of a program gives them: structures with fields, or enumerations
with variants, each of which may carry attributes.
-/

namespace GridQuery.Declaration

/-- What follows the name of an attribute. -/
inductive AttributeContent where
  | bare
  /-- An equals sign and a value. -/
  | assigned
  /-- Arguments in parentheses. -/
  | arguments (tokens : List Token)
deriving DecidableEq

/-- An attribute of a field or a variant. -/
structure Attribute where
  name : String
  content : AttributeContent
deriving DecidableEq

/-- A field of a structure or a variant of an enumeration. -/
structure Item where
  /-- The identifier, with the mark `r#` if it has one. -/
  identifier : String
  /-- The type of a field, as it is written. -/
  type : String
  attributes : List Attribute
  /-- Whether a variant holds values. -/
  hasPayload : Bool
deriving DecidableEq

/-- The forms of declarations. -/
inductive Shape where
  | namedFields
  | positionalFields
  | noFields
  | enumeration
  | union
deriving DecidableEq

/-- An identifier without the mark of one that is otherwise a word of the language. -/
def plainName (identifier : String) : String :=
  match Text.dropStart? ['r', '#'] identifier.toList with
  | some name => String.ofList name
  | none => identifier

end GridQuery.Declaration

namespace GridQuery

/-- A declaration of a type. -/
structure Declaration where
  shape : Declaration.Shape
  items : List Declaration.Item
deriving DecidableEq

end GridQuery
