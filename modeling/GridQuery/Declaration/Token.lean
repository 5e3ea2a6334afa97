import GridQuery.Text.Blank
import GridQuery.Uuid

/-!
# Tokens of attributes

The words, literals, signs and brackets that the arguments of an attribute are made of, and how they are
read from the text of a declaration. A sign knows whether another sign stands right behind it, since only
then the two can be one operator.
-/

namespace GridQuery.Declaration

/-- A token of the arguments of an attribute. -/
inductive Token where
  /-- A name or a word of the language, with the mark `r#` if it has one. -/
  | word (name : String)
  /-- A text in double quotes. -/
  | text (value : String)
  /-- A character, or bytes in quotes. -/
  | literal
  /-- A number as it is written. -/
  | number (digits : List Char)
  | lifetime
  /-- A sign, and whether it is `joint` with another one right behind it. -/
  | sign (c : Char) (joint : Bool)
  | opening (bracket : Char)
  | closing (bracket : Char)
deriving DecidableEq

namespace Token

theorem length_drop_lt_length_cons (c : Char) (rest : List Char) (count : Nat) :
    (rest.drop count).length < (c :: rest).length := by
  rw [List.length_drop, List.length_cons]
  exact Nat.lt_succ_of_le (Nat.sub_le rest.length count)

/-! ### Words and numbers -/

/-- Whether a word can begin with a character. -/
def isWordStart (c : Char) : Bool :=
  c.isAlpha || c == '_' || (0x80 ≤ c.toNat && !Text.isBlank c)

/-- Whether a word can go on with a character. -/
def isWordPart (c : Char) : Bool :=
  isWordStart c || c.isDigit

/-- How many characters the word at the start of a text has. -/
def wordLength : List Char → Nat
  | [] => 0
  | c :: rest => if isWordStart c then 1 + (rest.takeWhile isWordPart).length else 0

/-- Whether a character can stand in a number that has no base and no suffix. -/
def isPlainDigit (c : Char) : Bool :=
  c.isDigit || c == '_'

/-- How many characters of a text belong to the exponent that the characters before it end with: a sign
and digits, if they end with the mark of an exponent and the text begins with these. -/
def exponentLength (before text : List Char) : Nat :=
  match before.reverse, text with
  | mark :: digits, plus :: digit :: rest =>
      if (mark = 'e' ∨ mark = 'E') ∧ digits.all isPlainDigit ∧ (plus = '+' ∨ plus = '-') ∧
          digit.isDigit then
        2 + (rest.takeWhile isWordPart).length
      else
        0
  | _, _ => 0

/-- How many characters the number at the start of a text has. A point belongs to it unless another point
or a word follows. -/
def numberLength (text : List Char) : Nat :=
  let whole := text.takeWhile isWordPart
  match text.drop whole.length with
  | '.' :: rest =>
      if whole.all isPlainDigit ∧ rest.head? ≠ some '.' ∧ wordLength rest = 0 then
        let places := rest.takeWhile isWordPart
        whole.length + 1 + places.length + exponentLength places (rest.drop places.length)
      else
        whole.length
  | rest => whole.length + exponentLength whole rest

/-! ### Texts in quotes -/

/-- How many characters stand before a closing quote. A backslash takes the next character with it. -/
def quotedLength? (quote : Char) : List Char → Option Nat
  | [] => none
  | '\\' :: _ :: rest => (quotedLength? quote rest).map (· + 2)
  | c :: rest => if c = quote then some 0 else (quotedLength? quote rest).map (· + 1)

/-- How many characters stand before the given end of a raw text. -/
def rawLength? (ending : List Char) : List Char → Option Nat
  | [] => none
  | c :: rest => if ending.isPrefixOf (c :: rest) then some 0 else (rawLength? ending rest).map (· + 1)

/-- The character that a letter after a backslash stands for. -/
def escapedChar? : Char → Option Char
  | '"' => some '"'
  | '\'' => some '\''
  | '\\' => some '\\'
  | '0' => some '\x00'
  | 'n' => some '\n'
  | 'r' => some '\r'
  | 't' => some '\t'
  | _ => none

/-- The character with the code of hexadecimal digits. -/
def charOfDigits? (digits : List Char) : Option Char :=
  (Uuid.hexValue? 0 digits).bind fun code =>
    if code.isValidChar then some (Char.ofNat code) else none

/-- What follows a backslash stands for, and how many characters that takes. The end of a line is left out
with the blanks after it. -/
def escaped? : List Char → Option (List Char × Nat)
  | 'x' :: high :: low :: _ => (charOfDigits? [high, low]).map fun c => ([c], 3)
  | 'u' :: '{' :: rest =>
      let digits := rest.takeWhile (· != '}')
      (charOfDigits? (digits.filter (· != '_'))).map fun c => ([c], digits.length + 3)
  | '\n' :: rest => some ([], 1 + (rest.takeWhile Text.isBlank).length)
  | c :: _ => (escapedChar? c).map fun c => ([c], 1)
  | [] => none

/-- The text that stands between quotes. The two characters that end a line are one. -/
def unescaped? : List Char → Option (List Char)
  | [] => some []
  | '\r' :: '\n' :: rest => (unescaped? rest).map ('\n' :: ·)
  | c :: rest =>
      if c = '\\' then
        (escaped? rest).bind fun (chars, length) =>
          (unescaped? (rest.drop length)).map (chars ++ ·)
      else
        (unescaped? rest).map (c :: ·)
termination_by text => text.length
decreasing_by
  · exact Nat.lt_succ_of_lt (Nat.lt_succ_self rest.length)
  · exact length_drop_lt_length_cons c rest length
  · exact Nat.lt_succ_self rest.length

/-- A text as it is written between double quotes. -/
def escape (text : List Char) : List Char :=
  text.flatMap fun
    | '"' => ['\\', '"']
    | '\\' => ['\\', '\\']
    | '\r' => ['\\', 'r']
    | c => [c]

/-- A text as it is written, in double quotes. -/
def quote (text : List Char) : List Char :=
  '"' :: escape text ++ ['"']

/-- How many characters a text in quotes takes with its closing quote and a word right behind it, which says
nothing. -/
def literalLength (content : Nat) (ending : List Char) (rest : List Char) : Nat :=
  let length := content + ending.length
  length + wordLength (rest.drop length)

/-- Reads a text after its opening quote. -/
def text? (rest : List Char) : Option (Token × Nat) :=
  (quotedLength? '"' rest).bind fun length =>
    (unescaped? (rest.take length)).map fun value =>
      (.text (String.ofList value), literalLength length ['"'] rest)

/-- Reads bytes or a character after the opening quote. -/
def literal? (quote : Char) (rest : List Char) : Option (Token × Nat) :=
  (quotedLength? quote rest).map fun length => (.literal, literalLength length [quote] rest)

/-- Reads a raw text after the letters before it, from the signs `#` in front of its opening quote on. -/
def raw? (text : List Char) : Option (List Char × Nat) :=
  let hashes := text.takeWhile (· == '#')
  match text.drop hashes.length with
  | '"' :: rest =>
      let ending := '"' :: hashes
      (rawLength? ending rest).map fun length =>
        (rest.take length, hashes.length + 1 + literalLength length ending rest)
  | _ => none

/-- Reads a literal that begins with letters, given these and what follows them. -/
def lettered? (letters : List Char) (rest : List Char) : Option (Token × Nat) :=
  match letters, rest with
  | ['b'], '"' :: rest => (literal? '"' rest).map fun (token, length) => (token, length + 1)
  | ['c'], '"' :: rest => (literal? '"' rest).map fun (token, length) => (token, length + 1)
  | ['b'], '\'' :: rest => (literal? '\'' rest).map fun (token, length) => (token, length + 1)
  | ['r'], _ => (raw? rest).map fun (value, length) => (.text (String.ofList value), length)
  | ['b', 'r'], _ => (raw? rest).map fun (_, length) => (.literal, length)
  | ['c', 'r'], _ => (raw? rest).map fun (_, length) => (.literal, length)
  | _, _ => none

/-- Reads what a single quote begins: a character or a lifetime. -/
def singleQuoted? : List Char → Option (Token × Nat)
  | '\\' :: rest => literal? '\'' ('\\' :: rest)
  | c :: '\'' :: rest => literal? '\'' (c :: '\'' :: rest)
  | rest => if wordLength rest = 0 then none else some (.lifetime, wordLength rest)

/-! ### Comments -/

/-- How many characters a comment in brackets has after its opening, given how many more are open. -/
def commentLength? : Nat → List Char → Option Nat
  | _, [] => none
  | depth, '/' :: '*' :: rest => (commentLength? (depth + 1) rest).map (· + 2)
  | 0, '*' :: '/' :: _ => some 2
  | depth + 1, '*' :: '/' :: rest => (commentLength? depth rest).map (· + 2)
  | depth, _ :: rest => (commentLength? depth rest).map (· + 1)

/-- The tokens of the attribute that a documenting comment is. -/
def documentation (marks : List Token) : List Token :=
  .sign '#' false :: marks ++
    [.opening '[', .word "doc", .sign '=' false, .text "", .closing ']']

/-- The tokens of a comment after its opening, which documents what follows it if it begins with the given
mark, but not with a second one. -/
def commentTokens (mark : Char) (content : List Char) : List Token :=
  match content with
  | '!' :: _ => documentation [.sign '!' false]
  | c :: rest => if c = mark ∧ rest.head? ≠ some mark then documentation [] else []
  | [] => []

/-- Reads a comment after its first sign. -/
def comment? : List Char → Option (List Token × Nat)
  | '/' :: rest =>
      let content := rest.takeWhile (· != '\n')
      some (commentTokens '/' content, 1 + content.length)
  | '*' :: rest =>
      (commentLength? 0 rest).map fun length =>
        (commentTokens '*' (rest.take (length - 2)), 1 + length)
  | _ => none

/-! ### Reading -/

/-- The characters that are signs. -/
def signs : List Char :=
  ['~', '!', '@', '#', '$', '%', '^', '&', '*', '-', '=', '+', '|', ';', ':', ',', '<', '.', '>', '/', '?',
    '\'']

/-- Whether a text begins with a comment. -/
def startsComment : List Char → Bool
  | '/' :: '/' :: _ => true
  | '/' :: '*' :: _ => true
  | _ => false

/-- Whether a text begins with a sign. -/
def startsSign : List Char → Bool
  | [] => false
  | c :: rest => signs.contains c && !startsComment (c :: rest)

/-- Reads a word, or a literal that begins like one. -/
def word? (c : Char) (rest : List Char) : Token × Nat :=
  let length := wordLength (c :: rest) - 1
  let name := c :: rest.take length
  match lettered? name (rest.drop length), rest with
  | some (token, more), _ => (token, length + more)
  | none, '#' :: marked =>
      if name = ['r'] ∧ wordLength marked ≠ 0 then
        let length := 1 + wordLength marked
        (.word (String.ofList (c :: rest.take length)), length)
      else
        (.word (String.ofList name), length)
  | none, _ => (.word (String.ofList name), length)

/-- The tokens that a text begins with, and how many characters after the first belong to them. -/
def first? (c : Char) (rest : List Char) : Option (List Token × Nat) :=
  let one (found : Token × Nat) : List Token × Nat := ([found.1], found.2)
  if Text.isBlank c then
    some ([], 0)
  else if startsComment (c :: rest) then
    comment? rest
  else if isWordStart c then
    some (one (word? c rest))
  else if c.isDigit then
    let length := numberLength (c :: rest) - 1
    some ([.number (c :: rest.take length)], length)
  else if c = '"' then
    (text? rest).map one
  else if c = '\'' then
    (singleQuoted? rest).map one
  else if c = '(' ∨ c = '[' ∨ c = '{' then
    some ([.opening c], 0)
  else if c = ')' ∨ c = ']' ∨ c = '}' then
    some ([.closing c], 0)
  else if signs.contains c then
    some ([.sign c (startsSign rest)], 0)
  else
    none

/-- The tokens of a text, whose brackets may be unbalanced. -/
def pieces? : List Char → Option (List Token)
  | [] => some []
  | c :: rest =>
      (first? c rest).bind fun (tokens, length) => (pieces? (rest.drop length)).map (tokens ++ ·)
termination_by text => text.length
decreasing_by exact length_drop_lt_length_cons c rest length

/-- The bracket that closes an opening one. -/
def closingOf : Char → Char
  | '(' => ')'
  | '[' => ']'
  | '{' => '}'
  | c => c

/-- Whether the brackets of tokens close each other and those still open, the innermost first. -/
def isBalanced : List Char → List Token → Bool
  | expected, [] => expected.isEmpty
  | expected, .opening c :: rest => isBalanced (closingOf c :: expected) rest
  | [], .closing _ :: _ => false
  | inner :: outer, .closing c :: rest => inner == c && isBalanced outer rest
  | expected, _ :: rest => isBalanced expected rest

/-- The tokens of a text. -/
def read? (text : List Char) : Option (List Token) :=
  (pieces? text).bind fun tokens => if isBalanced [] tokens then some tokens else none

end Token

end GridQuery.Declaration
