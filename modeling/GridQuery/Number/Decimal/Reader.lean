import GridQuery.Number.Decimal.Basic

/-!
# Reading decimals

Decimal numerals are digits with at most one point among them; an underscore may stand anywhere
after the first digit. Digits that do not fit are rounded away, half up, once the scale or the
coefficient is full; before the point there is nothing to round, and such a numeral is refused. A
numeral may also be followed by an exponent of ten.
-/

namespace GridQuery.Number.Decimal

/-- What has been read of a numeral so far. -/
structure Progress where
  coefficient : Nat
  scale : Nat
  /-- Whether the point has been read. -/
  pointed : Bool
  /-- Whether a digit has been read. -/
  started : Bool

/-- Coefficients from here on are wide. -/
def wideCoefficient : Nat := 1844674407370954906

/-- Whether a character may follow the place where a numeral is rounded. -/
def isRoundedAway (c : Char) : Bool :=
  c.isDigit || c == '_'

/-- Rounds a full coefficient on the next digit. When the rounded coefficient does not fit, one more
place is given up. -/
def roundOn (coefficient scale digit : Nat) : Option (Nat × Nat) :=
  if digit < 5 then
    some (coefficient, scale)
  else if coefficient + 1 < coefficientBound then
    some (coefficient + 1, scale)
  else if scale = 0 then
    none
  else
    some ((coefficient + 5) / 10, scale - 1)

/-- Rounds a full coefficient on the characters that follow it. Only the first of them counts, and an
underscore there counts as zero. -/
def roundAt (coefficient scale : Nat) (text : List Char) : Option (Nat × Nat) :=
  if text.all isRoundedAway then
    roundOn coefficient scale ((text.head?.bind digit?).getD 0)
  else
    none

/-- What a full scale makes of the characters that follow. A wide coefficient is rounded on the first
digit, whatever underscores precede it. -/
def finishFull (wide : Bool) (coefficient scale : Nat) (text : List Char) : Option (Nat × Nat) :=
  roundAt coefficient scale (if wide then text.dropWhile (· == '_') else text)

/-- Reads the rest of an unsigned numeral: its coefficient and its scale. -/
def readMagnitude (progress : Progress) : List Char → Option (Nat × Nat)
  | [] => if progress.started then some (progress.coefficient, progress.scale) else none
  | c :: rest =>
      match digit? c with
      | some digit =>
          let coefficient := progress.coefficient * 10 + digit
          let scale := if progress.pointed then progress.scale + 1 else 0
          if coefficientBound ≤ coefficient then
            if progress.pointed then
              roundAt progress.coefficient progress.scale (c :: rest)
            else
              none
          else if progress.pointed && maxScale ≤ scale then
            finishFull (wideCoefficient ≤ progress.coefficient) coefficient scale rest
          else
            readMagnitude ⟨coefficient, scale, progress.pointed, true⟩ rest
      | none =>
          if c == '.' && !progress.pointed then
            readMagnitude { progress with pointed := true } rest
          else if c == '_' && progress.started then
            readMagnitude progress rest
          else
            none

/-- The decimal of a sign, a coefficient and a scale. A zero has no sign. -/
def ofMagnitude? (negative : Bool) (magnitude : Nat × Nat) : Option Decimal :=
  ofParts? (negative && magnitude.1 != 0) magnitude.1 magnitude.2

/-- Reads a decimal numeral, which a sign may precede. -/
def readPlain? : List Char → Option Decimal
  | '-' :: rest => (readMagnitude ⟨0, 0, false, false⟩ rest).bind (ofMagnitude? true)
  | '+' :: rest => (readMagnitude ⟨0, 0, false, false⟩ rest).bind (ofMagnitude? false)
  | text => (readMagnitude ⟨0, 0, false, false⟩ text).bind (ofMagnitude? false)

/-- Removes `count` digits from the end of a coefficient, rounding half up on the last of them. -/
def dropDigits (coefficient count : Nat) : Nat :=
  if count = 0 then
    coefficient
  else
    let kept := coefficient / powerOfTen (count - 1)
    if 5 ≤ kept % 10 then kept / 10 + 1 else kept / 10

/-- The decimal divided by a power of ten. Places beyond the last are rounded away. -/
def shiftDown? (d : Decimal) (exponent : Nat) : Option Decimal :=
  if maxScale < exponent then
    none
  else if d.scale + exponent ≤ maxScale then
    ofParts? d.negative d.coefficient (d.scale + exponent)
  else
    ofParts? d.negative (dropDigits d.coefficient (d.scale + exponent - maxScale)) maxScale

/-- The decimal multiplied by a power of ten. Places left over are kept; a whole number has none. -/
def shiftUp? (d : Decimal) (exponent : Nat) : Option Decimal :=
  if exponent ≤ d.scale then
    ofParts? d.negative d.coefficient (d.scale - exponent)
  else if maxScale < exponent then
    none
  else
    ofParts? d.negative (d.coefficient * powerOfTen (exponent - d.scale)) 0

/-- Whether a character introduces an exponent. -/
def isExponentMark (c : Char) : Bool :=
  c == 'e' || c == 'E'

/-- Reads the unsigned digits of an exponent, which must fit in 32 bits. -/
def exponent? (text : List Char) : Option Nat :=
  (unsigned? text).filter (· < 4294967296)

/-- Reads a numeral followed by an exponent of ten. -/
def readScientific? (text : List Char) : Option Decimal :=
  match text.span (!isExponentMark ·) with
  | (_, []) => none
  | (base, _ :: exponent) =>
      (readPlain? base).bind fun d =>
        match exponent with
        | '-' :: digits => (exponent? digits).bind d.shiftDown?
        | _ => (exponent? exponent).bind d.shiftUp?

/-- Reads a decimal numeral with or without an exponent. -/
def read? (text : List Char) : Option Decimal :=
  (readPlain? text).or (readScientific? text)

end GridQuery.Number.Decimal
