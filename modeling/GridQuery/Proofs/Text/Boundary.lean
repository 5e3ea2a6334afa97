import Mathlib.Data.List.Infix
import GridQuery.Proofs.Text.ByteLength
import GridQuery.Proofs.Text.Utf8

/-!
# Cutting texts between characters

A text that is cut to a number of bytes, one character after the other, is the
text cut among its UTF-8 bytes, at the last position that splits no character.
Going back from the limit byte by byte finds this position and never passes the
start of the text.
-/

namespace GridQuery.Text

/-- Whether a byte goes on with a character that an earlier byte begins. -/
def continuesChar (byte : UInt8) : Bool :=
  0x80 ≤ byte.toNat && byte.toNat < 0xC0

/-- Whether a position among bytes splits no character: it is the end, or the
byte there begins one. -/
def isBoundary (bytes : List UInt8) (position : Nat) : Bool :=
  match bytes[position]? with
  | some byte => !continuesChar byte
  | none => position == bytes.length

/-- The last boundary up to a position, by going back byte by byte.  There is
none if the start is passed. -/
def boundaryUpTo? (bytes : List UInt8) : Nat → Option Nat
  | 0 => if isBoundary bytes 0 then some 0 else none
  | position + 1 =>
      if isBoundary bytes (position + 1) then
        some (position + 1)
      else
        boundaryUpTo? bytes position

/-- The bytes up to a position, which must be a boundary. -/
def bytesBefore? (bytes : List UInt8) (position : Nat) : Option (List UInt8) :=
  if isBoundary bytes position then some (bytes.take position) else none

/-- All bytes if they fit in a limit, and else those before the last boundary up
to it. -/
def cutBytes? (limit : Nat) (bytes : List UInt8) : Option (List UInt8) :=
  if bytes.length ≤ limit then
    some bytes
  else
    (boundaryUpTo? bytes limit).bind (bytesBefore? bytes)

theorem utf8Bytes_append (left right : List Char) :
    utf8Bytes (left ++ right) = utf8Bytes left ++ utf8Bytes right :=
  List.flatMap_append

theorem utf8Bytes_cons (c : Char) (rest : List Char) :
    utf8Bytes (c :: rest) = String.utf8EncodeChar c ++ utf8Bytes rest :=
  List.flatMap_cons

theorem take_utf8Bytes {start text : List Char} (begins : start <+: text) :
    (utf8Bytes text).take (byteLength start) = utf8Bytes start := by
  obtain ⟨rest, rfl⟩ := begins
  rw [utf8Bytes_append, byteLength_eq_length_utf8Bytes, List.take_left]

theorem exists_encoded_eq (c : Char) :
    ∃ first others, String.utf8EncodeChar c = first :: others ∧
      continuesChar first = false ∧
      ∀ byte ∈ others, continuesChar byte = true := by
  have bound : c.val.toNat < 0x110000 := by
    have valid := c.valid
    simp only [UInt32.isValidChar, Nat.isValidChar] at valid
    omega
  fun_cases String.utf8EncodeChar c
  all_goals
    refine ⟨_, _, rfl, ?_, ?_⟩ <;>
      simp [continuesChar] <;> omega

theorem isBoundary_zero (text : List Char) :
    isBoundary (utf8Bytes text) 0 = true := by
  cases text with
  | nil => rfl
  | cons c rest =>
      obtain ⟨first, others, encoded, begins, -⟩ := exists_encoded_eq c
      rw [utf8Bytes_cons, encoded]
      simp [isBoundary, begins]

/-- A position behind the first byte of a character splits it. -/
theorem isBoundary_within {c : Char} {rest : List Char} {position : Nat}
    (behind : 0 < position) (inside : position < c.utf8Size) :
    isBoundary (utf8Bytes (c :: rest)) position = false := by
  obtain ⟨first, others, encoded, -, continued⟩ := exists_encoded_eq c
  obtain ⟨offset, rfl⟩ := Nat.exists_eq_add_one.mpr behind
  have listed : offset < others.length := by
    have length := String.length_utf8EncodeChar c
    rw [encoded, List.length_cons] at length
    omega
  have byte : (utf8Bytes (c :: rest))[offset + 1]? = some others[offset] := by
    rw [utf8Bytes_cons, encoded, List.cons_append, List.getElem?_cons_succ,
      List.getElem?_append_left listed, List.getElem?_eq_getElem listed]
  simp only [isBoundary, byte]
  rw [continued _ (List.getElem_mem listed)]
  rfl

theorem isBoundary_beyond (c : Char) (rest : List Char) (position : Nat) :
    isBoundary (utf8Bytes (c :: rest)) (c.utf8Size + position) =
      isBoundary (utf8Bytes rest) position := by
  have length := String.length_utf8EncodeChar c
  have byte : (utf8Bytes (c :: rest))[c.utf8Size + position]? =
      (utf8Bytes rest)[position]? := by
    rw [utf8Bytes_cons, List.getElem?_append_right (by omega), length,
      Nat.add_sub_cancel_left]
  have all : (utf8Bytes (c :: rest)).length =
      c.utf8Size + (utf8Bytes rest).length := by
    rw [utf8Bytes_cons, List.length_append, length]
  simp only [isBoundary, byte, all]
  cases (utf8Bytes rest)[position]? with
  | some next => rfl
  | none => simp

/-- The boundaries of a text are the ends of its beginnings. -/
theorem isBoundary_iff {text : List Char} {position : Nat} :
    isBoundary (utf8Bytes text) position = true ↔
      ∃ start, start <+: text ∧ byteLength start = position := by
  induction text generalizing position with
  | nil =>
      constructor
      · intro boundary
        have atStart : position = 0 := beq_iff_eq.mp boundary
        exact ⟨[], List.prefix_rfl, atStart.symm⟩
      · rintro ⟨start, begins, rfl⟩
        rw [List.prefix_nil.mp begins]
        rfl
  | cons c rest induction =>
      by_cases atStart : position = 0
      · subst atStart
        simp only [isBoundary_zero, true_iff]
        exact ⟨[], List.nil_prefix, rfl⟩
      by_cases inside : position < c.utf8Size
      · rw [isBoundary_within (Nat.pos_of_ne_zero atStart) inside]
        constructor
        · intro boundary
          cases boundary
        · rintro ⟨start, begins, length⟩
          rcases List.prefix_cons_iff.mp begins with rfl | ⟨others, rfl, -⟩
          · exact absurd length.symm atStart
          · rw [byteLength] at length
            omega
      obtain ⟨offset, rfl⟩ := Nat.exists_eq_add_of_le (Nat.le_of_not_lt inside)
      rw [isBoundary_beyond, induction]
      constructor
      · rintro ⟨start, begins, rfl⟩
        exact ⟨c :: start, List.cons_prefix_cons.mpr ⟨rfl, begins⟩, rfl⟩
      · rintro ⟨start, begins, length⟩
        rcases List.prefix_cons_iff.mp begins with rfl | ⟨others, rfl, later⟩
        · exact absurd length.symm atStart
        · exact ⟨others, later, Nat.add_left_cancel length⟩

theorem boundaryUpTo?_eq_some {bytes : List UInt8} {limit position : Nat}
    (boundary : isBoundary bytes position = true) (le : position ≤ limit)
    (last : ∀ later, isBoundary bytes later = true → later ≤ limit →
      later ≤ position) :
    boundaryUpTo? bytes limit = some position := by
  induction limit with
  | zero =>
      obtain rfl := Nat.le_zero.mp le
      exact if_pos boundary
  | succ limit induction =>
      rw [boundaryUpTo?]
      by_cases here : isBoundary bytes (limit + 1) = true
      · have same : limit + 1 = position :=
          Nat.le_antisymm (last _ here (Nat.le_refl _)) le
        rw [if_pos here, same]
      · have before : position ≤ limit := by
          apply Nat.le_of_lt_succ
          apply Nat.lt_of_le_of_ne le
          intro same
          exact here (same ▸ boundary)
        rw [if_neg here]
        apply induction before
        intro later laterBoundary within
        exact last later laterBoundary (Nat.le_succ_of_le within)

theorem le_byteLength_takeBytes {text : List Char} {limit position : Nat}
    (boundary : isBoundary (utf8Bytes text) position = true)
    (within : position ≤ limit) :
    position ≤ byteLength (takeBytes limit text) := by
  obtain ⟨start, begins, rfl⟩ := isBoundary_iff.mp boundary
  exact byteLength_le_of_prefix (prefix_takeBytes begins within)

/-- Going back from the limit ends at the last boundary within it. -/
theorem cutBytes?_utf8Bytes (limit : Nat) (text : List Char) :
    cutBytes? limit (utf8Bytes text) =
      some (utf8Bytes (takeBytes limit text)) := by
  unfold cutBytes?
  rw [← byteLength_eq_length_utf8Bytes]
  by_cases fits : byteLength text ≤ limit
  · rw [if_pos fits, takeBytes_of_fits fits]
  · have begins := takeBytes_prefix limit text
    have boundary : isBoundary (utf8Bytes text)
        (byteLength (takeBytes limit text)) = true :=
      isBoundary_iff.mpr ⟨_, begins, rfl⟩
    have found := boundaryUpTo?_eq_some boundary
      (byteLength_takeBytes_le limit text)
      (fun _ => le_byteLength_takeBytes)
    rw [if_neg fits, found, Option.bind_some, bytesBefore?, if_pos boundary,
      take_utf8Bytes begins]

end GridQuery.Text
