/-!
# UTF-8

Texts as bytes. Reading bytes never fails: the replacement character stands for every piece that cannot
be part of a text, where a piece is a beginning of some character that is not continued, or a byte that
begins none.
-/

namespace GridQuery.Text

def utf8Bytes (text : List Char) : List UInt8 :=
  text.flatMap String.utf8EncodeChar

/-- Stands for bytes that are no text. -/
def replacementChar : Char := '\uFFFD'

/-- A character of which some bytes have been read. -/
structure PartialChar where
  /-- The bits read so far. -/
  bits : Nat
  /-- The number of bytes still to come. -/
  missing : Nat
  /-- The least next byte. -/
  low : Nat
  /-- The greatest next byte. -/
  high : Nat
deriving DecidableEq

/-- The character that a first byte begins, if it takes more bytes than one. Where the first byte leaves
characters to be written shorter, surrogates, or numbers that are too large, the second byte is
limited. -/
def beginChar? (byte : Nat) : Option PartialChar :=
  if 0xC2 ≤ byte ∧ byte ≤ 0xDF then
    some ⟨byte - 0xC0, 1, 0x80, 0xBF⟩
  else if 0xE0 ≤ byte ∧ byte ≤ 0xEF then
    some ⟨byte - 0xE0, 2, if byte = 0xE0 then 0xA0 else 0x80, if byte = 0xED then 0x9F else 0xBF⟩
  else if 0xF0 ≤ byte ∧ byte ≤ 0xF4 then
    some ⟨byte - 0xF0, 3, if byte = 0xF0 then 0x90 else 0x80, if byte = 0xF4 then 0x8F else 0xBF⟩
  else
    none

/-- What a byte at the beginning of a character gives: a text, or a character that is not yet
complete. -/
def readFirstByte (byte : Nat) : List Char × Option PartialChar :=
  if byte < 0x80 then
    ([Char.ofNat byte], none)
  else
    match beginChar? byte with
    | some begun => ([], some begun)
    | none => ([replacementChar], none)

/-- What a byte gives after the beginning of a character. -/
def readNextByte (begun : PartialChar) (byte : Nat) : List Char × Option PartialChar :=
  if begun.low ≤ byte ∧ byte ≤ begun.high then
    let bits := begun.bits * 64 + (byte - 0x80)
    if begun.missing ≤ 1 then
      ([Char.ofNat bits], none)
    else
      ([], some ⟨bits, begun.missing - 1, 0x80, 0xBF⟩)
  else
    let (text, next) := readFirstByte byte
    (replacementChar :: text, next)

/-- The text of bytes after the beginning of a character. -/
def textOfBytesAfter (begun : Option PartialChar) : List UInt8 → List Char
  | [] => if begun = none then [] else [replacementChar]
  | byte :: bytes =>
      let (text, next) :=
        match begun with
        | none => readFirstByte byte.toNat
        | some begun => readNextByte begun byte.toNat
      text ++ textOfBytesAfter next bytes

def textOfBytes (bytes : List UInt8) : List Char :=
  textOfBytesAfter none bytes

end GridQuery.Text
