import GridQuery.Number.Binary64.Basic

/-!
# JSON values

Values as JSON exchanges them. Numbers are either whole numbers of at most 64 bits or floats.
-/

namespace GridQuery

/-- A JSON value. -/
inductive Json where
  | null
  | bool (value : Bool)
  | integer (value : Int)
  | float (value : Number.Binary64)
  | string (value : String)
  | array (items : List Json)
  | object (entries : List (String × Json))

namespace Json

/-- A value that may be missing, null standing for none. -/
def ofOption {α : Type} (encode : α → Json) : Option α → Json
  | some value => encode value
  | none => null

def ofList {α : Type} (encode : α → Json) (values : List α) : Json :=
  array (values.map encode)

def ofText (text : List Char) : Json :=
  string (String.ofList text)

/-- Sets an entry of an object. An earlier entry of the key is replaced. -/
def setEntry (entries : List (String × Json)) (key : String) (value : Json) :
    List (String × Json) :=
  if entries.any (·.1 == key) then
    entries.map fun entry => if entry.1 = key then (key, value) else entry
  else
    entries ++ [(key, value)]

end Json

end GridQuery
