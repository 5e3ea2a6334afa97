/-!
# The order of text

Texts in the order of their code points, which is also that of their UTF-8 bytes.
-/

namespace GridQuery.Text

/-- The order of texts by code points. -/
def order (left right : List Char) : Ordering :=
  compare left right

/-- The order of strings by code points. -/
def stringOrder (left right : String) : Ordering :=
  order left.toList right.toList

def sorted (texts : List String) : List String :=
  texts.mergeSort fun left right => (stringOrder left right).isLE

end GridQuery.Text
