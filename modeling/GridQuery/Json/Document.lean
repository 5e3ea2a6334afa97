/-!
# JSON documents

A JSON document as it is written: numbers are the text that stands for them, and objects have their
entries in order, also those with equal keys. A string with an escape that stands for no character has
no text.
-/

namespace GridQuery.Json

/-- A JSON document. -/
inductive Document where
  | null
  | bool (value : Bool)
  | number (text : List Char)
  | string (text : Option String)
  | array (items : List Document)
  | object (entries : List (Option String × Document))

/-- A word, mark, number or string of a document. -/
inductive Token where
  | openArray
  | closeArray
  | openObject
  | closeObject
  | comma
  | colon
  | null
  | bool (value : Bool)
  | number (text : List Char)
  | string (text : Option String)
deriving DecidableEq

end GridQuery.Json
