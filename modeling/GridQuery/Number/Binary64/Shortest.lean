import GridQuery.Number.Binary64.Basic
import GridQuery.Number.Digits

/-!
# The shortest decimal digits of a binary float

A float is written with the fewest decimal digits that read back as the same float. They are found
on the coarsest grid of powers of ten that has a point in the interval of numbers rounding to the
float; of two points the nearer one is taken, and of two equally near the greater one.
-/

namespace GridQuery.Number.Binary64

/-- The numbers that round to a finite float that is not zero. All members count the same unit,
`scaleUp / scaleDown`. -/
structure RoundingInterval where
  low : Nat
  value : Nat
  high : Nat
  /-- Whether the ends belong to the interval. -/
  closed : Bool
  scaleUp : Nat
  scaleDown : Nat

/-- The interval of a float. Its lower half is narrower at a power of two. -/
def roundingInterval (x : Binary64) : RoundingInterval :=
  let significand := x.significand
  let atPowerOfTwo := significand == leastNormal && 1 < x.exponentBits
  { low := if atPowerOfTwo then 4 * significand - 1 else 4 * significand - 2
    value := 4 * significand
    high := 4 * significand + 2
    closed := significand % 2 == 0
    scaleUp := 1 <<< x.doublings
    scaleDown := 1 <<< 1076 }

/-- Decimal digits read as a whole number, times a power of ten. -/
structure DecimalFloat where
  digits : Nat
  exponent : Int

/-- The numerator and denominator of a power of ten. -/
def tenPower (exponent : Int) : Nat × Nat :=
  if 0 ≤ exponent then (Nat.pow 10 exponent.toNat, 1) else (1, Nat.pow 10 (-exponent).toNat)

/-- The point of the grid of `ten to the power of exponent` that is in the interval and nearest to
the float. -/
def gridPoint? (interval : RoundingInterval) (exponent : Int) : Option Nat :=
  let (numerator, denominator) := tenPower exponent
  -- the float is `scaled / cell` grid cells away from zero
  let weight := interval.scaleUp * denominator
  let cell := interval.scaleDown * numerator
  let scaled := interval.value * weight
  let below := scaled / cell
  let inside (point : Nat) : Bool :=
    let position := point * cell
    if interval.closed then
      interval.low * weight ≤ position && position ≤ interval.high * weight
    else
      interval.low * weight < position && position < interval.high * weight
  let nearerAbove : Bool := cell ≤ 2 * (scaled - below * cell)
  match inside below, inside (below + 1) with
  | false, false => none
  | true, false => some below
  | false, true => some (below + 1)
  | true, true => some (if nearerAbove then below + 1 else below)

/-- Tries grids from the given one on, each ten times finer, at most `steps` of them. -/
def coarsestPoint (interval : RoundingInterval) : Nat → Int → DecimalFloat
  | 0, exponent => ⟨0, exponent⟩
  | steps + 1, exponent =>
      match gridPoint? interval exponent with
      | some digits => ⟨digits, exponent⟩
      | none => coarsestPoint interval steps (exponent - 1)

/-- The shortest digits of the size of a finite float that is not zero. The first grid is coarser
than the float, and seventeen digits always suffice. -/
def shortest (x : Binary64) : DecimalFloat :=
  let binaryExponent : Int := (Nat.log2 x.units : Int) - 1074
  coarsestPoint x.roundingInterval 24 (binaryExponent * 30103 / 100000 + 2)

/-- The text of a sequence of digits times a power of ten, without an exponent. -/
def DecimalFloat.positional (x : DecimalFloat) : List Char :=
  let shown := Number.digits x.digits
  if 0 ≤ x.exponent then
    shown ++ List.replicate x.exponent.toNat '0'
  else
    let places := (-x.exponent).toNat
    let padded := List.replicate (places + 1 - shown.length) '0' ++ shown
    padded.take (padded.length - places) ++ '.' :: padded.drop (padded.length - places)

/-- The text of a float: the shortest digits, never with an exponent, and no fraction for whole
numbers. -/
def text (x : Binary64) : List Char :=
  if x.isNaN then
    ['N', 'a', 'N']
  else
    (if x.negative then ['-'] else []) ++
      (if x.magnitude = 0 then
        ['0']
      else if x.isFinite then
        x.shortest.positional
      else
        ['i', 'n', 'f'])

end GridQuery.Number.Binary64
