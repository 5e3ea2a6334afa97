import GridQuery.Number.Digits

/-!
# Integers of 64 bits

The readers of machine integers. A text that writes a number out of range is refused.
-/

namespace GridQuery.Number

/-- The integer as a signed word, when it fits. -/
def signedWord? (n : Int) : Option Int64 :=
  if -9223372036854775808 ≤ n ∧ n ≤ 9223372036854775807 then some (Int64.ofInt n) else none

/-- The number as an unsigned word, when it fits. -/
def unsignedWord? (n : Nat) : Option UInt64 :=
  if n < 18446744073709551616 then some (UInt64.ofNat n) else none

def readSigned? (text : List Char) : Option Int64 :=
  (integer? text).bind signedWord?

/-- Reads an unsigned word. A minus is refused, even before a zero. -/
def readUnsigned? (text : List Char) : Option UInt64 :=
  (unsigned? text).bind unsignedWord?

def signedText (n : Int64) : List Char :=
  integerText n.toInt

def unsignedText (n : UInt64) : List Char :=
  digits n.toNat

end GridQuery.Number
