import GridQuery.Number.Decimal.Basic
import GridQuery.Number.Binary64.Rounding

/-!
# Between decimals and binary floats

A decimal becomes a float in a few rounded steps, which do not always end at the nearest float. A
float becomes a decimal by exact rescaling as far as 96 bits allow; then decimal places are dropped,
each rounding half up, until the coefficient has no more digits than the float could carry.
-/

namespace GridQuery.Number

/-- The whole number nearest to a number that is not negative, a tie going up. -/
def roundHalfUp (x : Rat) : Nat :=
  (x + 1 / 2).floor.toNat

namespace Decimal

/-- The decimal as a float. The whole part and the fraction are converted and added as floats, and
the sum is rounded to the places of the decimal, again as a float. -/
def toBinary64 (d : Decimal) : Binary64 :=
  if d.scale = 0 then
    Binary64.ofInt d.signedCoefficient
  else
    let shift := Binary64.nearest ((powerOfTen d.scale : Nat) : Rat)
    let whole := Binary64.nearest (d.wholePart : Rat)
    let fraction := Binary64.nearest (Binary64.nearest (d.fractionPart : Rat) / shift)
    if fraction = 0 then
      Binary64.ofSize d.negative whole
    else
      let sum := Binary64.nearest (whole + fraction)
      let rounded := Binary64.nearest ((roundHalfUp (Binary64.nearest (sum * shift)) : Nat) : Rat)
      Binary64.ofSize d.negative (Binary64.nearest (rounded / shift))

end Decimal

namespace Binary64

/-- Takes factors one half out of a number, given as a coefficient with decimal places, one factor at
a time: an even coefficient is halved, an odd one is multiplied by five as long as 96 bits allow, and
else cut. Of the places, one for each factor is there at first. -/
def halve (bits places : Nat) : Nat → Nat × Nat
  | 0 => (bits, places)
  | halvings + 1 =>
      if bits % 2 = 0 then
        halve (bits / 2) (places - 1) halvings
      else if bits * 5 < coefficientBound then
        halve (bits * 5) places halvings
      else
        halve (bits / 2) (places - 1) halvings

/-- A coefficient without its last digit, rounded half up. -/
def dropDigit (bits : Nat) : Nat :=
  bits / 10 + (if 5 ≤ bits % 10 then 1 else 0)

/-- Drops `count` decimal places, each rounding half up. A coefficient that reaches zero stays
zero. -/
def dropPlaces (bits : Nat) : Nat → Nat
  | 0 => bits
  | count + 1 => if bits / 10 = 0 then 0 else dropPlaces (dropDigit bits) count

/-- Drops decimal places until the coefficient has at most the bits of a fraction. -/
def dropExcess (bits : Nat) : Nat → Nat × Nat
  | 0 => (bits, 0)
  | places + 1 =>
      if leastNormal ≤ bits then dropExcess (dropDigit bits) places else (bits, places + 1)

/-- Drops decimal places that are zero. -/
def dropZeros (bits : Nat) : Nat → Nat × Nat
  | 0 => (bits, 0)
  | places + 1 => if bits % 10 = 0 then dropZeros (bits / 10) places else (bits, places + 1)

/-- A significand halved a number of times, as a coefficient and its decimal places. -/
def halved (significand halvings : Nat) : Nat × Nat :=
  let (bits, places) := halve significand halvings halvings
  let bits := dropPlaces bits (places - maxScale)
  let (bits, places) := dropExcess bits (if bits = 0 then 0 else min places maxScale)
  dropZeros bits places

/-- The float as a decimal, when it is finite and not too large. A whole number of at least the
precision of floats is taken as it is. The sign of a zero is kept. -/
def toDecimal? (x : Binary64) : Option Decimal :=
  if !x.isFinite then
    none
  else if x.magnitude = 0 then
    Decimal.ofParts? x.negative 0 0
  else if 1074 ≤ x.doublings then
    Decimal.ofParts? x.negative (x.significand <<< (x.doublings - 1074)) 0
  else
    let (bits, places) := halved x.significand (1074 - x.doublings)
    Decimal.ofParts? x.negative bits places

end Binary64

end GridQuery.Number
