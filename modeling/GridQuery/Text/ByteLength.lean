/-!
# Lengths in bytes

The length of a text in UTF-8 bytes, and the longest beginning of a text that a number of bytes
can hold. Cutting goes character by character, so no character is ever split.
-/

namespace GridQuery.Text

/-- The number of bytes of a text in UTF-8. -/
def byteLength : List Char → Nat
  | [] => 0
  | c :: rest => c.utf8Size + byteLength rest

/-- The longest beginning of a text that fits in `limit` bytes. -/
def takeBytes : Nat → List Char → List Char
  | _, [] => []
  | limit, c :: rest =>
      if c.utf8Size ≤ limit then c :: takeBytes (limit - c.utf8Size) rest else []

end GridQuery.Text
