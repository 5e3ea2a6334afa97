import GridQuery.Json.Document
import GridQuery.Json.Strings

/-!
# Reading JSON

A text is first cut into tokens, which are then read by the grammar of documents. Both go on as long as
there is text: a step for every character, and two for every token, are always enough.
-/

namespace GridQuery.Json

/-- Whether a character may stand between tokens. -/
def isSpace (c : Char) : Bool :=
  c == ' ' || c == '\t' || c == '\n' || c == '\r'

/-- Whether a character may occur in a number. -/
def isNumeric (c : Char) : Bool :=
  c.isDigit || c == '-' || c == '+' || c == '.' || c == 'e' || c == 'E'

/-- What follows one or more digits. -/
def dropDigits? (text : List Char) : Option (List Char) :=
  match text.span Char.isDigit with
  | ([], _) => none
  | (_ :: _, rest) => some rest

/-- What follows the digits before the point, which have no needless zero in front. -/
def dropWhole? : List Char → Option (List Char)
  | '0' :: rest => some rest
  | text => dropDigits? text

/-- What follows an optional fraction. -/
def dropFraction? : List Char → Option (List Char)
  | '.' :: rest => dropDigits? rest
  | text => some text

/-- What follows an optional exponent. -/
def dropExponent? : List Char → Option (List Char)
  | [] => some []
  | c :: rest =>
      if c == 'e' || c == 'E' then
        match rest with
        | '+' :: digits => dropDigits? digits
        | '-' :: digits => dropDigits? digits
        | digits => dropDigits? digits
      else
        some (c :: rest)

/-- A text without the minus in front of it. -/
def dropMinus : List Char → List Char
  | '-' :: rest => rest
  | text => text

def isNumber (text : List Char) : Bool :=
  (((dropWhole? (dropMinus text)).bind dropFraction?).bind dropExponent?) == some []

/-- The token of a word. -/
def wordToken? (word : List Char) : Option Token :=
  if word = ['n', 'u', 'l', 'l'] then
    some .null
  else if word = ['t', 'r', 'u', 'e'] then
    some (.bool true)
  else if word = ['f', 'a', 'l', 's', 'e'] then
    some (.bool false)
  else
    none

/-- The token of a mark. -/
def markToken? : Char → Option Token
  | '[' => some .openArray
  | ']' => some .closeArray
  | '{' => some .openObject
  | '}' => some .closeObject
  | ',' => some .comma
  | ':' => some .colon
  | _ => none

/-- Reads the token that begins with a character. -/
def readToken? (c : Char) (rest : List Char) : Option (Token × List Char) :=
  match markToken? c with
  | some mark => some (mark, rest)
  | none =>
      if c = '"' then
        (readParts? rest).map fun (parts, rest) =>
          (.string ((textOfParts? parts).map String.ofList), rest)
      else if isNumeric c then
        let (number, rest) := (c :: rest).span isNumeric
        if isNumber number then some (.number number, rest) else none
      else
        let (word, rest) := (c :: rest).span Char.isAlpha
        (wordToken? word).map fun token => (token, rest)

/-- The tokens of a text, at most `steps` characters and tokens of it. -/
def readTokens? : Nat → List Char → Option (List Token)
  | _, [] => some []
  | 0, _ :: _ => none
  | steps + 1, c :: rest =>
      if isSpace c then
        readTokens? steps rest
      else
        (readToken? c rest).bind fun (token, rest) =>
          (readTokens? steps rest).map (token :: ·)

def tokens? (text : List Char) : Option (List Token) :=
  readTokens? text.length text

mutual

def readDocument? : Nat → List Token → Option (Document × List Token)
  | 0, _ => none
  | steps + 1, tokens =>
      match tokens with
      | .null :: rest => some (.null, rest)
      | .bool value :: rest => some (.bool value, rest)
      | .number text :: rest => some (.number text, rest)
      | .string text :: rest => some (.string text, rest)
      | .openArray :: .closeArray :: rest => some (.array [], rest)
      | .openArray :: rest =>
          (readItems? steps rest).map fun (items, rest) => (.array items, rest)
      | .openObject :: .closeObject :: rest => some (.object [], rest)
      | .openObject :: rest =>
          (readEntries? steps rest).map fun (entries, rest) => (.object entries, rest)
      | _ => none

/-- Reads the items of an array up to its end. -/
def readItems? : Nat → List Token → Option (List Document × List Token)
  | 0, _ => none
  | steps + 1, tokens =>
      match readDocument? steps tokens with
      | some (item, .closeArray :: rest) => some ([item], rest)
      | some (item, .comma :: rest) =>
          (readItems? steps rest).map fun (items, rest) => (item :: items, rest)
      | _ => none

/-- Reads the entries of an object up to its end. -/
def readEntries? :
    Nat → List Token → Option (List (Option String × Document) × List Token)
  | 0, _ => none
  | steps + 1, tokens =>
      match tokens with
      | .string key :: .colon :: rest =>
          match readDocument? steps rest with
          | some (value, .closeObject :: rest) => some ([(key, value)], rest)
          | some (value, .comma :: rest) =>
              (readEntries? steps rest).map fun (entries, rest) => ((key, value) :: entries, rest)
          | _ => none
      | _ => none

end

/-- The document of a list of tokens. -/
def ofTokens? (tokens : List Token) : Option Document :=
  match readDocument? (2 * tokens.length + 1) tokens with
  | some (document, []) => some document
  | _ => none

def Document.read? (text : String) : Option Document :=
  (tokens? text.toList).bind ofTokens?

end GridQuery.Json
