import GridQuery.Uuid

/-!
# JSON strings

The characters of JSON strings and their escapes. Characters beyond 16 bits are escaped as two units,
a high and a low surrogate; a surrogate without its partner stands for no character.
-/

namespace GridQuery.Json

/-- What an element of a string stands for: a character, or a unit of 16 bits. -/
inductive StringPart where
  | char (value : Char)
  | unit (value : Nat)
deriving DecidableEq

/-- The character that a letter after a backslash stands for. -/
def escapedChar? : Char → Option Char
  | '"' => some '"'
  | '\\' => some '\\'
  | '/' => some '/'
  | 'b' => some '\x08'
  | 'f' => some '\x0c'
  | 'n' => some '\n'
  | 'r' => some '\r'
  | 't' => some '\t'
  | _ => none

/-- The unit of four hexadecimal digits. -/
def unit? (a b c d : Char) : Option Nat :=
  Uuid.hexValue? 0 [a, b, c, d]

/-- Reads a string up to its closing quote. Control characters have to be escaped. -/
def readParts? : List Char → Option (List StringPart × List Char)
  | [] => none
  | '"' :: rest => some ([], rest)
  | '\\' :: 'u' :: a :: b :: c :: d :: rest =>
      (unit? a b c d).bind fun unit =>
        (readParts? rest).map fun (parts, rest) => (.unit unit :: parts, rest)
  | '\\' :: c :: rest =>
      (escapedChar? c).bind fun char =>
        (readParts? rest).map fun (parts, rest) => (.char char :: parts, rest)
  | c :: rest =>
      if c.toNat < 0x20 then
        none
      else
        (readParts? rest).map fun (parts, rest) => (.char c :: parts, rest)

def isHighSurrogate (unit : Nat) : Bool :=
  0xD800 ≤ unit && unit ≤ 0xDBFF

def isLowSurrogate (unit : Nat) : Bool :=
  0xDC00 ≤ unit && unit ≤ 0xDFFF

/-- The code point of a high and a low surrogate. -/
def surrogatePair (high low : Nat) : Nat :=
  0x10000 + (high - 0xD800) * 0x400 + (low - 0xDC00)

/-- The text of a string, if all its units stand for characters. -/
def textOfParts? : List StringPart → Option (List Char)
  | [] => some []
  | .char c :: parts => (textOfParts? parts).map (c :: ·)
  | .unit high :: .unit low :: parts =>
      if isHighSurrogate high then
        if isLowSurrogate low then
          (textOfParts? parts).map (Char.ofNat (surrogatePair high low) :: ·)
        else
          none
      else if isLowSurrogate high then
        none
      else
        (textOfParts? (.unit low :: parts)).map (Char.ofNat high :: ·)
  | .unit unit :: parts =>
      if isHighSurrogate unit || isLowSurrogate unit then
        none
      else
        (textOfParts? parts).map (Char.ofNat unit :: ·)

/-- The escape of a character in a string, if it needs one. -/
def escape (c : Char) : List Char :=
  match c with
  | '"' => ['\\', '"']
  | '\\' => ['\\', '\\']
  | '\x08' => ['\\', 'b']
  | '\x0c' => ['\\', 'f']
  | '\n' => ['\\', 'n']
  | '\r' => ['\\', 'r']
  | '\t' => ['\\', 't']
  | c =>
      if c.toNat < 0x20 then
        ['\\', 'u', '0', '0', Uuid.hexChar (c.toNat / 16), Uuid.hexChar (c.toNat % 16)]
      else
        [c]

def stringText (text : List Char) : List Char :=
  '"' :: text.flatMap escape ++ ['"']

end GridQuery.Json
