import GridQuery.Declaration.Settings
import GridQuery.Field.Value

/-!
# Value types from declarations

The names of the variants of a declared enumeration, which are the values of fields of its kind.
-/

namespace GridQuery.Declaration

/-- The identifier and the name of a variant. -/
def namedVariant (item : Item) : Except DeclarationError (String × String) :=
  if item.hasPayload then
    .error .valueNeedsPlainVariants
  else
    (Settings.ofAttributes .variant item.attributes).map fun settings =>
      (item.identifier, settings.rename.getD item.identifier)

/-- The identifiers and the names of variants. -/
def namedVariants : List Item → Except DeclarationError (List (String × String))
  | [] => .ok []
  | item :: items =>
      (namedVariant item).bind fun variant => (namedVariants items).map (variant :: ·)

/-- A type of values with its variants: identifier and name of each. -/
structure ValueType where
  variants : List (String × String)

namespace ValueType

def ofDeclaration (declaration : Declaration) : Except DeclarationError ValueType :=
  if declaration.shape = .enumeration then
    if declaration.items.isEmpty then
      .error .valueNeedsVariants
    else
      (namedVariants declaration.items).map ValueType.mk
  else
    .error .valueNeedsEnumeration

/-- The kind of fields with the values of a type. -/
def kind (valueType : ValueType) : FieldKind :=
  .enumeration (valueType.variants.map (·.2))

/-- The value of a variant by its identifier. -/
def value? (valueType : ValueType) (identifier : String) : Option FieldValue :=
  (valueType.variants.lookup identifier).map .enumeration

end ValueType

end GridQuery.Declaration
