import GridQuery.Number.Integer

/-!
# Decimal numbers

Signed decimal numbers with a coefficient of 96 bits and up to 28 decimal places. A decimal
remembers its number of places, so `1.1` and `1.10` are two decimals of one value. Decimals are
ordered by value: each one is a whole number of the smallest unit, ten to the power of minus 28.
-/

namespace GridQuery.Number

def powerOfTen (exponent : Nat) : Nat :=
  Nat.pow 10 exponent

/-- The coefficients of decimals are below this number, two to the power of 96. -/
def coefficientBound : Nat :=
  79228162514264337593543950336

/-- The greatest number of decimal places. -/
def maxScale : Nat := 28

/-- A decimal number: the coefficient divided by ten to the power of the scale, with a sign. -/
structure Decimal where
  negative : Bool
  coefficient : Nat
  scale : Nat
  coefficient_lt : coefficient < coefficientBound
  scale_le : scale ≤ maxScale
deriving DecidableEq

namespace Decimal

/-- The decimal of the given parts, when they are in range. -/
def ofParts? (negative : Bool) (coefficient scale : Nat) : Option Decimal :=
  if range : coefficient < coefficientBound ∧ scale ≤ maxScale then
    some ⟨negative, coefficient, scale, range.1, range.2⟩
  else
    none

/-- Zero, without decimal places. -/
def zero : Decimal :=
  ⟨false, 0, 0, by decide, by decide⟩

/-- A 64-bit integer as a decimal without decimal places. -/
def ofInt64 (n : Int64) : Decimal :=
  ⟨n.toInt < 0, n.toInt.natAbs, 0,
    by
      have low := n.le_toInt
      have high := n.toInt_lt
      simp only [coefficientBound]
      omega,
    by decide⟩

/-- The coefficient with its sign. -/
def signedCoefficient (d : Decimal) : Int :=
  if d.negative then -(d.coefficient : Int) else d.coefficient

/-- The value of a decimal, counted in units of ten to the power of minus 28. -/
def units (d : Decimal) : Int :=
  d.signedCoefficient * (powerOfTen (maxScale - d.scale) : Int)

/-- The value of a decimal as a rational number. -/
def toRat (d : Decimal) : Rat :=
  (d.signedCoefficient : Rat) / ((powerOfTen d.scale : Nat) : Rat)

/-- The order of decimals, by value. -/
def order (left right : Decimal) : Ordering :=
  compare left.units right.units

/-- Whether two decimals have the same value. -/
def same (left right : Decimal) : Bool :=
  left.units == right.units

/-- The part of the coefficient before the decimal point. -/
def wholePart (d : Decimal) : Nat :=
  d.coefficient / powerOfTen d.scale

/-- The part of the coefficient after the decimal point. -/
def fractionPart (d : Decimal) : Nat :=
  d.coefficient % powerOfTen d.scale

def isWhole (d : Decimal) : Bool :=
  d.fractionPart == 0

/-- The value without its fraction, when it fits in 64 bits. -/
def toInt64? (d : Decimal) : Option Int64 :=
  signedWord? (if d.negative then -(d.wholePart : Int) else d.wholePart)

/-- The text of a decimal: all its places are written, and the sign even before a zero. -/
def text (d : Decimal) : List Char :=
  (if d.negative then ['-'] else []) ++ digits d.wholePart ++
    (if d.scale = 0 then [] else '.' :: paddedDigits d.scale d.fractionPart)

end Decimal

end GridQuery.Number
