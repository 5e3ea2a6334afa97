import GridQuery.Text.Ascii

/-!
# Universally unique identifiers

Identifiers of 128 bits, written as 32 hexadecimal digits in five groups.
-/

namespace GridQuery

/-- Identifiers are below this number, two to the power of 128. -/
def uuidBound : Nat := 0x100000000000000000000000000000000

/-- An identifier of 128 bits. -/
structure Uuid where
  value : Nat
  value_lt : value < uuidBound
deriving DecidableEq

namespace Uuid

/-- The identifier of a number, cut to 128 bits. -/
def ofNat (n : Nat) : Uuid :=
  ⟨n % uuidBound, Nat.mod_lt _ (by decide)⟩

/-- The identifier without a bit set. -/
def nil : Uuid :=
  ofNat 0

/-- The order of identifiers, that of their digits. -/
def order (left right : Uuid) : Ordering :=
  compare left.value right.value

/-- The number that a hexadecimal digit stands for. -/
def hexDigit? (c : Char) : Option Nat :=
  if '0' ≤ c ∧ c ≤ '9' then
    some (c.toNat - '0'.toNat)
  else if 'a' ≤ c ∧ c ≤ 'f' then
    some (c.toNat - 'a'.toNat + 10)
  else if 'A' ≤ c ∧ c ≤ 'F' then
    some (c.toNat - 'A'.toNat + 10)
  else
    none

/-- The hexadecimal digit of a number below 16, in lower case. -/
def hexChar (n : Nat) : Char :=
  if n < 10 then Char.ofNat ('0'.toNat + n) else Char.ofNat ('a'.toNat + (n - 10))

/-- The number that hexadecimal digits stand for, after a number already read. -/
def hexValue? (read : Nat) : List Char → Option Nat
  | [] => some read
  | c :: rest => (hexDigit? c).bind fun digit => hexValue? (16 * read + digit) rest

/-- Reads 32 hexadecimal digits. -/
def readDigits? (text : List Char) : Option Uuid :=
  if text.length = 32 then (hexValue? 0 text).map ofNat else none

/-- The digits of five groups of 8, 4, 4, 4 and 12 characters with hyphens between them. -/
def dropHyphens? (text : List Char) : Option (List Char) :=
  let group (start length : Nat) := (text.drop start).take length
  if text.length = 36 ∧ group 8 1 = ['-'] ∧ group 13 1 = ['-'] ∧ group 18 1 = ['-'] ∧
      group 23 1 = ['-'] then
    some (group 0 8 ++ group 9 4 ++ group 14 4 ++ group 19 4 ++ group 24 12)
  else
    none

/-- Reads hyphenated groups of digits. -/
def readGroups? (text : List Char) : Option Uuid :=
  (dropHyphens? text).bind readDigits?

/-- The name that may precede an identifier. -/
def urnName : List Char :=
  ['u', 'r', 'n', ':', 'u', 'u', 'i', 'd', ':']

/-- Reads an identifier: digits alone, or hyphenated groups, which may be in braces or follow the
name. -/
def read? (text : List Char) : Option Uuid :=
  match text.length with
  | 32 => readDigits? text
  | 36 => readGroups? text
  | 38 =>
      if text.head? = some '{' ∧ text.getLast? = some '}' then
        readGroups? ((text.drop 1).take 36)
      else
        none
  | 45 =>
      if Text.sameIgnoringCase (text.take 9) urnName then readGroups? (text.drop 9) else none
  | _ => none

/-- The `count` lowest hexadecimal digits of a number. -/
def hexDigits : Nat → Nat → List Char
  | 0, _ => []
  | count + 1, n => hexDigits count (n / 16) ++ [hexChar (n % 16)]

/-- The text of an identifier: hyphenated groups of digits in lower case. -/
def text (u : Uuid) : List Char :=
  let digits := hexDigits 32 u.value
  digits.take 8 ++ '-' :: (digits.drop 8).take 4 ++ '-' :: (digits.drop 12).take 4 ++
    '-' :: (digits.drop 16).take 4 ++ '-' :: digits.drop 20

end Uuid

end GridQuery
