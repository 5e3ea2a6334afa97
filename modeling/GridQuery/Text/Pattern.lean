/-!
# Text patterns

Patterns in which a percent sign stands for any text and an underscore for any character. A backslash
takes that meaning from the character after it, so that every text has a pattern that stands for it
alone.
-/

namespace GridQuery.Text

/-- Whether a character has a meaning of its own in patterns. -/
def isPatternMark (c : Char) : Bool :=
  c == '\\' || c == '%' || c == '_'

/-- A text with a backslash in front of every occurrence of a character. -/
def escapeMark (mark : Char) (text : List Char) : List Char :=
  text.flatMap fun c => if c = mark then ['\\', c] else [c]

/-- The pattern of a text that stands for the text itself. Backslashes are escaped first, so that those
put in front of the other marks stay as they are. -/
def escapePattern (text : List Char) : List Char :=
  escapeMark '_' (escapeMark '%' (escapeMark '\\' text))

/-- What a pattern asks for in one place. -/
inductive PatternItem where
  | anyText
  | anyChar
  | exactly (c : Char)
deriving DecidableEq

/-- The items of a pattern. A backslash with nothing after it stands for itself. -/
def patternItems : List Char → List PatternItem
  | [] => []
  | '%' :: rest => .anyText :: patternItems rest
  | '_' :: rest => .anyChar :: patternItems rest
  | '\\' :: c :: rest => .exactly c :: patternItems rest
  | c :: rest => .exactly c :: patternItems rest

/-- Whether a test accepts a text from some character on. -/
def anyTail (test : List Char → Bool) : List Char → Bool
  | [] => test []
  | c :: rest => test (c :: rest) || anyTail test rest

/-- Whether a text is one that items ask for, from its first character to its last. -/
def fitsItems : List PatternItem → List Char → Bool
  | [], text => text.isEmpty
  | .anyText :: items, text => anyTail (fitsItems items) text
  | .anyChar :: items, _ :: rest => fitsItems items rest
  | .exactly c :: items, d :: rest => c == d && fitsItems items rest
  | .anyChar :: _, [] => false
  | .exactly _ :: _, [] => false

/-- Whether a pattern stands for a text. -/
def fits (pattern text : List Char) : Bool :=
  fitsItems (patternItems pattern) text

end GridQuery.Text
