/-!
# Binary floats

Binary floating-point numbers of 64 bits: a sign and a magnitude, which is the number made of the
exponent and fraction bits. Magnitudes grow with the value they stand for, so both orders of floats
are orders of whole numbers: the total order of all floats, and the partial order in which a NaN is
comparable to nothing and the two zeros are equal.
-/

namespace GridQuery.Number

/-- A binary float: its sign and its other 63 bits as a whole number. -/
structure Binary64 where
  negative : Bool
  magnitude : Nat
  magnitude_lt : magnitude < 0x8000000000000000
deriving DecidableEq

namespace Binary64

/-- The magnitude of the infinities. Greater magnitudes are no numbers. -/
def infiniteMagnitude : Nat := 0x7FF0000000000000

/-- The least magnitude with a full fraction. -/
def leastNormal : Nat := 0x10000000000000

/-- The float of a sign and a magnitude, cut to 63 bits. -/
def ofMagnitude (negative : Bool) (magnitude : Nat) : Binary64 :=
  ⟨negative, magnitude % 0x8000000000000000, Nat.mod_lt _ (by decide)⟩

def zero (negative : Bool) : Binary64 :=
  ofMagnitude negative 0

def infinity (negative : Bool) : Binary64 :=
  ofMagnitude negative infiniteMagnitude

/-- The quiet NaN of a sign. -/
def nan (negative : Bool) : Binary64 :=
  ofMagnitude negative 0x7FF8000000000000

def isNaN (x : Binary64) : Bool :=
  infiniteMagnitude < x.magnitude

def isFinite (x : Binary64) : Bool :=
  x.magnitude < infiniteMagnitude

/-- The magnitude with its sign. The two zeros agree. -/
def signedMagnitude (x : Binary64) : Int :=
  if x.negative then -(x.magnitude : Int) else x.magnitude

/-- The place of a float in the total order. -/
def rank (x : Binary64) : Int :=
  if x.negative then -(x.magnitude : Int) - 1 else x.magnitude

/-- The total order of floats: negative NaN, numbers from the least to the greatest with `-0` before
`0`, NaN. -/
def totalOrder (left right : Binary64) : Ordering :=
  compare left.rank right.rank

/-- The order of floats as numbers. A NaN is comparable to nothing. -/
def partialOrder? (left right : Binary64) : Option Ordering :=
  if left.isNaN || right.isNaN then
    none
  else
    some (compare left.signedMagnitude right.signedMagnitude)

/-- Whether two floats are equal as numbers. -/
def same (left right : Binary64) : Bool :=
  left.partialOrder? right == some .eq

/-- The exponent bits. -/
def exponentBits (x : Binary64) : Nat :=
  x.magnitude / leastNormal

/-- The fraction, with the leading bit that normal numbers do not store. -/
def significand (x : Binary64) : Nat :=
  if x.exponentBits = 0 then x.magnitude else x.magnitude % leastNormal + leastNormal

/-- How often the significand is doubled, counted from the least exponent. -/
def doublings (x : Binary64) : Nat :=
  x.exponentBits - 1

/-- The number of smallest units, two to the power of minus 1074, in the size of a finite float. -/
def units (x : Binary64) : Nat :=
  x.significand <<< x.doublings

/-- The exact value of a finite float. -/
def toRat? (x : Binary64) : Option Rat :=
  if x.isFinite then
    let size := (x.units : Rat) / (((1 : Nat) <<< 1074 : Nat) : Rat)
    some (if x.negative then -size else size)
  else
    none

end Binary64

end GridQuery.Number
