import GridQuery.Declaration.Grammar.Rule

/-!
# Parts of the grammar of values

The names of the parts that values are made of, and the rules of the smallest of them: names, literals,
lifetimes and groups in brackets. Where a brace would begin a block, structures are no values, so that
values have two forms.
-/

namespace GridQuery.Declaration

/-- The parts of values. A value `withStructures` can be a structure with its fields in braces. -/
inductive Part where
  /-- A token, or brackets with all that stands in them. -/
  | tree
  /-- What stands in an attribute. -/
  | content
  | lifetimes
  /-- A type, which may be a sum of bounds. -/
  | type (withBounds : Bool)
  | bound (withConst : Bool)
  | segment (inValue : Bool)
  | path (inValue : Bool)
  /-- The names of a path that may take types in parentheses. -/
  | callableSegments (inBound : Bool)
  | arguments
  | argument
  | pattern
  | patterns
  | patternBound
  | value (withStructures : Bool)
  /-- What can follow the first operand of a value. -/
  | valueTail (withStructures : Bool)
  /-- A value without assignments and ranges. -/
  | decision (withStructures : Bool)
  | comparison (withStructures : Bool)
  | calculation (withStructures : Bool)
  | operand (withStructures : Bool)
  | casts
  | range (withStructures : Bool)
  | signed (withStructures : Bool)
  | atom (withStructures : Bool)
  | access
  | closure (withStructures : Bool)
  | blockValue
  | conditional
  /-- Statements in braces. -/
  | block
  /-- Statements in braces, before which attributes of the braces can stand. -/
  | body
  | statement
  | arm
  | generics
  | whereClause
  | useTree (fromRoot : Bool)
  | item
  /-- An item of a block of foreign functions. -/
  | foreignItem
  | traitItem
  | implItem

namespace Part

open Rule

/-- The words that cannot be names without the mark `r#`. -/
def reservedWords : List String :=
  ["_", "abstract", "as", "async", "await", "become", "box", "break", "const", "continue", "crate", "do",
    "dyn", "else", "enum", "extern", "false", "final", "fn", "for", "if", "impl", "in", "let", "loop",
    "macro", "match", "mod", "move", "mut", "override", "priv", "pub", "ref", "return", "Self", "self",
    "static", "struct", "super", "trait", "true", "try", "type", "typeof", "unsafe", "unsized", "use",
    "virtual", "where", "while", "yield"]

def name : Rule Part :=
  token fun
    | .word name => !reservedWords.contains name
    | _ => false

def anyWord : Rule Part :=
  token fun
    | .word _ => true
    | _ => false

def lifetime : Rule Part :=
  token (· == .lifetime)

def opening (bracket : Char) : Rule Part :=
  token (· == .opening bracket)

/-- The opening of any brackets. -/
def anyOpening : Rule Part :=
  token fun
    | .opening _ => true
    | _ => false

def anyClosing : Rule Part :=
  token fun
    | .closing _ => true
    | _ => false

/-- A token that is no bracket. -/
def noBracket : Rule Part :=
  token fun
    | .opening _ => false
    | .closing _ => false
    | _ => true

def number : Rule Part :=
  token fun
    | .number _ => true
    | _ => false

/-- The number that digits stand for after a number already read. Underscores say nothing. -/
def digitsValue? (base : Nat) (read : Nat) : List Char → Option Nat
  | [] => some read
  | c :: rest =>
      if c = '_' then
        digitsValue? base read rest
      else
        (Uuid.hexDigit? c).bind fun digit =>
          if digit < base then digitsValue? base (base * read + digit) rest else none

/-- The base of a number and its digits. -/
def baseAndDigits : List Char → Nat × List Char
  | '0' :: 'x' :: digits => (16, digits)
  | '0' :: 'o' :: digits => (8, digits)
  | '0' :: 'b' :: digits => (2, digits)
  | digits => (10, digits)

/-- The integer that a number without a suffix stands for. -/
def integer? (text : List Char) : Option Nat :=
  let (base, digits) := baseAndDigits text
  if digits.any (· != '_') then digitsValue? base 0 digits else none

/-- Whether fields can have a number: it has at most 32 bits. -/
def isFieldNumber (text : List Char) : Bool :=
  (integer? text).any (· < UInt32.size)

def fieldNumber : Rule Part :=
  token fun
    | .number text => isFieldNumber text
    | _ => false

def text : Rule Part :=
  token fun
    | .text _ => true
    | _ => false

/-- A literal without a sign. -/
def plainLiteral : Rule Part :=
  oneOf [number, text, token (· == .literal), words ["true", "false"]]

/-- A literal; a number may be negative. -/
def literal : Rule Part :=
  oneOf [plainLiteral, inOrder [operator ['-'], number]]

/-- Brackets with all that stands in them. -/
def group : Rule Part :=
  inOrder [anyOpening, many (part tree), anyClosing]

/-- A group in the given brackets. -/
def groupIn (bracket : Char) : Rule Part :=
  both (ahead (opening bracket)) group

def tree.rule : Rule Part :=
  either noBracket group

def attributes : Rule Part :=
  many (inOrder [operator ['#'], inBrackets '[' (part content)])

/-- Attributes of what they stand in. -/
def innerAttributes : Rule Part :=
  many (inOrder [operator ['#'], operator ['!'], inBrackets '[' (part content)])

def colons : Rule Part :=
  operator [':', ':']

/-- A path that is only made of names. -/
def namePath : Rule Part :=
  let first := either name (words ["self", "Self", "super", "crate"])
  inOrder [optional colons, first, many (inOrder [colons, first]), absent colons]

/-- A path without arguments. -/
def plainPath : Rule Part :=
  let first := either name (words ["self", "Self", "super", "crate", "try"])
  inOrder [optional colons, first, many (inOrder [colons, first])]

/-- An exclamation mark that is no comparison. -/
def bang : Rule Part :=
  operatorBut "!" ["!="]

/-- What a path makes of a group. -/
def call : Rule Part :=
  inOrder [plainPath, bang, group]

/-- What stands in an attribute: a path, which the word `unsafe` is by itself, and possibly a group or a value
behind it. -/
def content.rule : Rule Part :=
  inOrder [either (words ["unsafe"]) namePath,
    oneOf [
      inOrder [operatorBut "=" ["==", "=>"], absent (inOrder [operator ['#'], opening '[']),
        part (value true)],
      group,
      nothing]]

end Part

end GridQuery.Declaration
