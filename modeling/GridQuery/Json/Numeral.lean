import GridQuery.Json.Basic
import GridQuery.Number.Binary64.Rounding
import GridQuery.Number.Binary64.Shortest

/-!
# JSON numbers

Whole numbers of 64 bits are kept exactly. All other numbers become floats: as many digits as 64 bits
hold are taken as a whole number, which is then multiplied or divided by a power of ten. The result is
not always the nearest float. Floats are written with their shortest digits and always so that they
cannot be taken for whole numbers.
-/

namespace GridQuery.Json

open Number

/-- Whole numbers of digits stay below this number. -/
def significandBound : Nat := 18446744073709551616

/-- The digits of a number that 64 bits hold, and how many digits after them are dropped. -/
def takeSignificand (significand : Nat) : List Char → Nat × Nat
  | [] => (significand, 0)
  | c :: rest =>
      let next := significand * 10 + (c.toNat - '0'.toNat)
      if next < significandBound then
        takeSignificand next rest
      else
        (significand, rest.length + 1)

/-- The power of ten that a float is divided or multiplied by, for exponents up to 308. -/
def floatPower (exponent : Nat) : Rat :=
  Binary64.nearest ((Nat.pow 10 exponent : Nat) : Rat)

/-- A size divided by a power of ten, in steps of at most 308 places. -/
def divideByPower (size : Rat) (exponent : Nat) : Rat :=
  if exponent ≤ 308 then
    Binary64.nearest (size / floatPower exponent)
  else if exponent ≤ 616 then
    Binary64.nearest (Binary64.nearest (size / floatPower 308) / floatPower (exponent - 308))
  else
    0

/-- The float of a number of digits times a power of ten, unless it is too large. -/
def scaledFloat? (negative : Bool) (significand : Nat) (exponent : Int) : Option Binary64 :=
  let size := Binary64.nearest (significand : Rat)
  if significand = 0 then
    some (Binary64.zero negative)
  else if exponent < 0 then
    some (Binary64.ofSize negative (divideByPower size (-exponent).toNat))
  else if exponent ≤ 308 then
    let scaled := Binary64.ofSize negative (size * floatPower exponent.toNat)
    if scaled.isFinite then some scaled else none
  else
    none

/-- The exponent of a number, given what follows its mark. -/
def exponentValue : List Char → Int
  | '-' :: rest => -(digitsValue rest : Int)
  | '+' :: rest => digitsValue rest
  | text => digitsValue text

/-- The value of the text of a number without its sign. -/
def unsignedNumeral? (negative : Bool) (text : List Char) : Option Json :=
  let (whole, afterWhole) := text.span Char.isDigit
  let (fraction, afterFraction) :=
    match afterWhole with
    | '.' :: rest => rest.span Char.isDigit
    | _ => ([], afterWhole)
  let (significand, dropped) := takeSignificand 0 whole
  let exponent :=
    match afterFraction with
    | [] => 0
    | _ :: rest => exponentValue rest
  if afterWhole.isEmpty && dropped = 0 then
    if negative then
      if significand = 0 ∨ 9223372036854775808 < significand then
        some (.float (Binary64.ofSize true (significand : Rat)))
      else
        some (.integer (-(significand : Int)))
    else
      some (.integer significand)
  else
    let (significand, ignored) := takeSignificand significand fraction
    (scaledFloat? negative significand
      (exponent + dropped - (fraction.length - ignored : Nat))).map .float

/-- The value of the text of a number, unless it is too large for a float. -/
def numeral? : List Char → Option Json
  | '-' :: rest => unsignedNumeral? true rest
  | text => unsignedNumeral? false text

/-- The least and the greatest number of digits before the point without an exponent. -/
def positionalRange : Int × Int := (-4, 16)

/-- The text of digits times a power of ten: without an exponent if the number of digits before the
point is in range. -/
def positionalOrScientific (x : Binary64.DecimalFloat) : List Char :=
  let shown := digits x.digits
  let whole : Int := shown.length + x.exponent
  if positionalRange.1 ≤ whole ∧ whole ≤ positionalRange.2 then
    if 0 ≤ x.exponent then x.positional ++ ['.', '0'] else x.positional
  else
    shown.take 1 ++ (if shown.length = 1 then [] else '.' :: shown.drop 1) ++
      'e' :: integerText (whole - 1)

/-- The text of a float. What is not finite is null. -/
def floatText (x : Binary64) : List Char :=
  if x.isFinite then
    (if x.negative then ['-'] else []) ++
      (if x.magnitude = 0 then ['0', '.', '0'] else positionalOrScientific x.shortest)
  else
    ['n', 'u', 'l', 'l']

end GridQuery.Json
