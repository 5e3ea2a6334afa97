/-!
# Occurrences of one text in another

Where a text occurs in another: as a run of characters anywhere, and as a separator that cuts the
text into pieces.
-/

namespace GridQuery.Text

/-- Whether `needle` occurs in a text as one run of characters. -/
def contains (needle : List Char) : List Char → Bool
  | [] => needle.isEmpty
  | c :: rest => needle.isPrefixOf (c :: rest) || contains needle rest

/-- The pieces of a list of pieces with a character put in front of the first. -/
def extendFirst (c : Char) : List (List Char) → List (List Char)
  | [] => [[c]]
  | piece :: pieces => (c :: piece) :: pieces

/-- The pieces of a text between the occurrences of a separator, when the first `skip` characters
belong to an occurrence already seen. -/
def pieces (separator : List Char) : Nat → List Char → List (List Char)
  | _, [] => [[]]
  | skip + 1, _ :: rest => pieces separator skip rest
  | 0, c :: rest =>
      if separator.isPrefixOf (c :: rest) then
        [] :: pieces separator (separator.length - 1) rest
      else
        extendFirst c (pieces separator 0 rest)

/-- The pieces of a text between the occurrences of a separator, read from left to right. An empty
separator occurs around every character. -/
def splitOn (separator text : List Char) : List (List Char) :=
  match separator with
  | [] => [] :: text.map (fun c => [c]) ++ [[]]
  | _ :: _ => pieces separator 0 text

/-- What follows `start` in a text that begins with it. -/
def dropStart? (start text : List Char) : Option (List Char) :=
  if start.isPrefixOf text then some (text.drop start.length) else none

/-- What precedes `tail` in a text that ends with it. -/
def dropTail? (tail text : List Char) : Option (List Char) :=
  if tail.isSuffixOf text then some (text.take (text.length - tail.length)) else none

end GridQuery.Text
