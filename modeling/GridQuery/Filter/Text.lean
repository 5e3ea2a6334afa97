import GridQuery.Field.Record
import GridQuery.Filter.Refusal
import GridQuery.Predicate
import GridQuery.Request.Spec
import GridQuery.Text.Occurrence
import GridQuery.Text.Pattern

/-!
# Text filters

Filters that compare a text field with a value, without regard to the case of ASCII letters. Null
satisfies none of them.
-/

namespace GridQuery.Filter

/-- Whether a text and the value of a filter, both in upper case, satisfy an operator. -/
def textMatches (operator : FilterOperator) (text value : List Char) : Bool :=
  match operator with
  | .equals => text == value
  | .notEqual => text != value
  | .contains => Text.contains value text
  | .doesNotContain => !Text.contains value text
  | .startsWith => value.isPrefixOf text
  | .endsWith => value.isSuffixOf text
  | _ => false

/-- The test of a column for an operator of text, given the value in upper case. -/
def textTest? (column : String) (operator : FilterOperator) (value : List Char) :
    Option Sql.Test :=
  let term := Sql.Term.upper (.column column)
  let escaped := Text.escapePattern value
  match operator with
  | .equals => some (.compare term .equal (.value (.text value)))
  | .notEqual => some (.compare term .notEqual (.value (.text value)))
  | .contains => some (.like term ('%' :: escaped ++ ['%']))
  | .doesNotContain => some (.notLike term ('%' :: escaped ++ ['%']))
  | .startsWith => some (.like term (escaped ++ ['%']))
  | .endsWith => some (.like term ('%' :: escaped))
  | _ => none

/-- Whether a value of a field satisfies a text filter. -/
def acceptsText (operator : FilterOperator) (value : List Char) : FieldValue → Bool
  | .text text => textMatches operator (Text.upper text.toList) value
  | _ => false

def compileText {ρ : Type} [Record ρ] (field : FieldDescriptor) (filter : TextFilter) :
    Except GridError (Predicate ρ) :=
  if field.kind = .text then
    let value := Text.upper filter.value.toList
    match textTest? field.column filter.operator value with
    | some test =>
        .ok (.new (fun record => acceptsText filter.operator value (field.read record))
          (.single test))
    | none => .error (unsupported field .text filter.operator)
  else
    .error (mismatch field .text)

end GridQuery.Filter
