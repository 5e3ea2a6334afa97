import GridQuery.Number.Binary64.Basic

/-!
# Rounding to binary floats

The nearest float of a rational number, a tie going to the even neighbour. Results of exact
arithmetic on floats are rounded the same way.
-/

namespace GridQuery.Number

/-- The whole number nearest to a quotient, a tie going to the even one. -/
def roundHalfEven (numerator denominator : Nat) : Nat :=
  let quotient := numerator / denominator
  let rest := numerator % denominator
  if 2 * rest < denominator then
    quotient
  else if denominator < 2 * rest then
    quotient + 1
  else
    quotient + quotient % 2

namespace Binary64

/-- How many binary digits of a number of units lie beyond a precision. -/
def excessBits (precision count : Nat) : Nat :=
  Nat.log2 count + 1 - precision

/-- A size that is not negative, rounded to a number of significant bits: the significand and how
often it is doubled, in units of two to the power of minus `places`. -/
def roundSize (precision places : Nat) (size : Rat) : Nat × Nat :=
  let numerator := size.num.natAbs <<< places
  let excess := excessBits precision (numerator / size.den)
  (roundHalfEven numerator (size.den <<< excess), excess)

/-- The float nearest to a size, with a sign. -/
def ofSize (negative : Bool) (size : Rat) : Binary64 :=
  let (significand, doublings) := roundSize 53 1074 size
  ofMagnitude negative (min (doublings * leastNormal + significand) infiniteMagnitude)

/-- The float nearest to a rational number. -/
def ofRat (x : Rat) : Binary64 :=
  ofSize (x < 0) x

/-- The value of the float nearest to a size that is not too large for one. -/
def nearest (size : Rat) : Rat :=
  let (significand, doublings) := roundSize 53 1074 size
  ((significand <<< doublings : Nat) : Rat) / (((1 : Nat) <<< 1074 : Nat) : Rat)

/-- The float nearest to an integer. -/
def ofInt (n : Int) : Binary64 :=
  ofSize (n < 0) (n.natAbs : Rat)

/-- The float nearest to a size among those of single precision, which have 24 significant bits. -/
def ofSizeSingle (negative : Bool) (size : Rat) : Binary64 :=
  let (significand, doublings) := roundSize 24 149 size
  if 0x7F800000 ≤ doublings * 0x800000 + significand then
    infinity negative
  else
    ofSize negative (((significand <<< doublings : Nat) : Rat) / (((1 : Nat) <<< 149 : Nat) : Rat))

/-- The float of single precision nearest to a rational number. -/
def ofRatSingle (x : Rat) : Binary64 :=
  ofSizeSingle (x < 0) x

/-- Whether a float is one of single precision too. -/
def isSingle (x : Binary64) : Bool :=
  !x.isFinite || x == ofSizeSingle x.negative ((x.units : Rat) / (((1 : Nat) <<< 1074 : Nat) : Rat))

end Binary64

end GridQuery.Number
