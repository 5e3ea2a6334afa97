import GridQuery.Proofs.Number.Integer
import GridQuery.Request.Parser

/-!
# Codes that are written and read

The code of a category, of an operator or of a value category is written in
digits, and reading the parameter with it gives the same one back.
-/

namespace GridQuery

def FilterCategory.code : FilterCategory → Nat
  | text => 0
  | numeric => 1
  | date => 2
  | singleSelect => 3
  | multiSelect => 4

def FilterOperator.code : FilterOperator → Nat
  | equals => 0
  | notEqual => 1
  | contains => 2
  | doesNotContain => 3
  | startsWith => 4
  | endsWith => 5
  | greaterThan => 6
  | greaterThanOrEqual => 7
  | lessThan => 8
  | lessThanOrEqual => 9
  | between => 10

def ValueCategory.code : ValueCategory → Nat
  | default => 0
  | accountNumber => 1
  | integer => 2
  | decimal => 3

def codeText (code : Nat) : String :=
  String.ofList (Number.digits code)

namespace RequestParser

variable {options : ParsingOptions} {params : Params} {field key : String}

theorem code?_eq_some {code : Nat} (fits : code < 2 ^ 63)
    (given : params.get? (options.fieldKey field key) =
      some (codeText code)) :
    code? options params field key = some (code : Int) := by
  rw [code?, given, Option.bind_some, codeText, String.toList_ofList,
    (Number.solid_digits code).trim_eq, Number.toInt_readSigned?_digits fits]

theorem category?_eq_some {category : FilterCategory}
    (given : params.get? (options.fieldKey field options.filterCategoryKey) =
      some (codeText category.code)) :
    category? options params field = some category := by
  have fits : category.code < 2 ^ 63 := by cases category <;> decide
  rw [category?, code?_eq_some fits given]
  cases category <;> rfl

theorem operator?_eq_some {operator : FilterOperator}
    (given : params.get? (options.fieldKey field options.filterTypeKey) =
      some (codeText operator.code)) :
    operator? options params field = some operator := by
  have fits : operator.code < 2 ^ 63 := by cases operator <;> decide
  rw [operator?, code?_eq_some fits given]
  cases operator <;> rfl

theorem valueCategory_eq {category : ValueCategory}
    (given : params.get? (options.fieldKey field options.valueCategoryKey) =
      some (codeText category.code)) :
    valueCategory options params field = category := by
  have fits : category.code < 2 ^ 63 := by cases category <;> decide
  rw [valueCategory, code?_eq_some fits given]
  cases category <;> rfl

end RequestParser

end GridQuery
