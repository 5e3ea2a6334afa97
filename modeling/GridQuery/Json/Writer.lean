import GridQuery.Json.Numeral
import GridQuery.Json.Strings

/-!
# Writing JSON

The text of a JSON value, without spaces between its tokens.
-/

namespace GridQuery.Json

def commaSeparated (texts : List (List Char)) : List Char :=
  List.intercalate [','] texts

mutual

/-- The characters of a value. -/
def chars : Json → List Char
  | null => ['n', 'u', 'l', 'l']
  | bool true => ['t', 'r', 'u', 'e']
  | bool false => ['f', 'a', 'l', 's', 'e']
  | integer value => Number.integerText value
  | float value => floatText value
  | string value => stringText value.toList
  | array items => '[' :: commaSeparated (itemChars items) ++ [']']
  | object entries => '{' :: commaSeparated (entryChars entries) ++ ['}']

/-- The characters of each item of an array. -/
def itemChars : List Json → List (List Char)
  | [] => []
  | item :: items => chars item :: itemChars items

/-- The characters of each entry of an object. -/
def entryChars : List (String × Json) → List (List Char)
  | [] => []
  | (key, value) :: entries =>
      (stringText key.toList ++ ':' :: chars value) :: entryChars entries

end

def text (value : Json) : String :=
  String.ofList (chars value)

end GridQuery.Json
