/-!
# Runs of decimal digits

Natural numbers as runs of ASCII digits, and the signed numbers made of a sign and such a run.
-/

namespace GridQuery.Number

/-- The decimal digits of a natural number, without leading zeros. -/
def digits (n : Nat) : List Char :=
  Nat.toDigits 10 n

/-- The decimal digits of a natural number, with zeros in front up to a given width. -/
def paddedDigits (width n : Nat) : List Char :=
  List.replicate (width - (digits n).length) '0' ++ digits n

/-- The number that a run of digits stands for. -/
def digitsValue (text : List Char) : Nat :=
  Nat.ofDigitChars 10 text 0

/-- The number that a digit stands for. -/
def digit? (c : Char) : Option Nat :=
  if c.isDigit then some (c.toNat - '0'.toNat) else none

/-- Reads one or more digits. -/
def natural? (text : List Char) : Option Nat :=
  if !text.isEmpty && text.all Char.isDigit then some (digitsValue text) else none

/-- Reads one or more digits, which a plus may precede. -/
def unsigned? : List Char → Option Nat
  | '+' :: rest => natural? rest
  | text => natural? text

/-- Reads one or more digits, which a plus or a minus may precede. -/
def integer? : List Char → Option Int
  | '-' :: rest => (natural? rest).map fun n => -(n : Int)
  | '+' :: rest => (natural? rest).map Int.ofNat
  | text => (natural? text).map Int.ofNat

/-- The decimal digits of an integer, after a minus when it is negative. -/
def integerText (n : Int) : List Char :=
  if n < 0 then '-' :: digits n.natAbs else digits n.natAbs

@[simp] theorem digitsValue_digits (n : Nat) : digitsValue (digits n) = n := by
  simp [digitsValue, digits, Nat.ofDigitChars_ten_toDigits]

theorem digits_ne_nil (n : Nat) : digits n ≠ [] :=
  Nat.toDigits_ne_nil

theorem all_isDigit_digits (n : Nat) : (digits n).all Char.isDigit := by
  simp only [List.all_eq_true]
  intro c member
  exact Nat.isDigit_of_mem_toDigits (by decide) (by decide) member

theorem natural?_digits (n : Nat) : natural? (digits n) = some n := by
  have nonempty : (digits n).isEmpty = false := by
    simpa [List.isEmpty_eq_false_iff] using digits_ne_nil n
  simp [natural?, nonempty, all_isDigit_digits]

end GridQuery.Number
