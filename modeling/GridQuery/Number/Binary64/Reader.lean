import GridQuery.Number.Binary64.Rounding
import GridQuery.Number.Digits
import GridQuery.Text.Ascii

/-!
# Reading binary floats

Decimal numerals with an optional fraction and exponent, and the names of the infinities and of NaN.
A numeral is read as the float nearest to the number it stands for, of double or of single precision.
-/

namespace GridQuery.Number.Binary64

/-- A number of digits times a power of ten, rounded to a float. Exponents beyond all floats are not
worked out. -/
def ofScientific (round : Bool → Rat → Binary64) (negative : Bool) (coefficient : Nat)
    (exponent : Int) : Binary64 :=
  let size : Int := (digits coefficient).length + exponent
  if coefficient = 0 ∨ size < -400 then
    zero negative
  else if 400 < size then
    infinity negative
  else if 0 ≤ exponent then
    round negative ((coefficient * Nat.pow 10 exponent.toNat : Nat) : Rat)
  else
    round negative ((coefficient : Rat) / ((Nat.pow 10 (-exponent).toNat : Nat) : Rat))

/-- Reads the exponent that follows the digits of a numeral: nothing, or a mark and an integer. -/
def readExponent? : List Char → Option Int
  | [] => some 0
  | mark :: rest => if mark == 'e' || mark == 'E' then integer? rest else none

/-- Reads an unsigned numeral. -/
def readNumeral? (round : Bool → Rat → Binary64) (negative : Bool) (text : List Char) :
    Option Binary64 :=
  let (whole, afterWhole) := text.span Char.isDigit
  let (fraction, rest) :=
    match afterWhole with
    | '.' :: afterPoint => afterPoint.span Char.isDigit
    | _ => ([], afterWhole)
  if whole.isEmpty && fraction.isEmpty then
    none
  else
    (readExponent? rest).map fun exponent =>
      ofScientific round negative (digitsValue (whole ++ fraction)) (exponent - fraction.length)

/-- Reads an unsigned numeral or one of the names of infinity and NaN, in any case. -/
def readUnsigned? (round : Bool → Rat → Binary64) (negative : Bool) (text : List Char) :
    Option Binary64 :=
  if Text.sameIgnoringCase text ['n', 'a', 'n'] then
    some (nan negative)
  else if Text.sameIgnoringCase text ['i', 'n', 'f'] ||
      Text.sameIgnoringCase text ['i', 'n', 'f', 'i', 'n', 'i', 't', 'y'] then
    some (infinity negative)
  else
    readNumeral? round negative text

/-- Reads a float, which a sign may precede. -/
def readRounded? (round : Bool → Rat → Binary64) : List Char → Option Binary64
  | '-' :: rest => readUnsigned? round true rest
  | '+' :: rest => readUnsigned? round false rest
  | text => readUnsigned? round false text

def read? (text : List Char) : Option Binary64 :=
  readRounded? ofSize text

/-- Reads a float of single precision. -/
def readSingle? (text : List Char) : Option Binary64 :=
  readRounded? ofSizeSingle text

end GridQuery.Number.Binary64
