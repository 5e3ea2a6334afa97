/-!
# ASCII letter case

Folding of the 26 ASCII letters. All other characters are left as they are, so the fold keeps the
length of a text.
-/

namespace GridQuery.Text

/-- A text with its ASCII letters in upper case. -/
def upper (text : List Char) : List Char :=
  text.map Char.toUpper

/-- Whether two texts differ at most in the case of ASCII letters. -/
def sameIgnoringCase (left right : List Char) : Bool :=
  left.map Char.toLower == right.map Char.toLower

end GridQuery.Text
