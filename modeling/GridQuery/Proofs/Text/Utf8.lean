import Mathlib.Data.Char
import GridQuery.Proofs.Text.Order
import GridQuery.Text.ByteLength
import GridQuery.Text.Utf8

/-!
# The order of bytes

Texts are ordered by their code points as they are by their UTF-8 bytes: the
first byte of a character tells how long it is, longer characters have greater
first bytes, and the bytes of characters of one length are digits of their code
points.
-/

namespace GridQuery.Text

/-- The order of strings by their UTF-8 bytes. -/
def byteOrder (left right : String) : Ordering :=
  compare (utf8Bytes left.toList) (utf8Bytes right.toList)

theorem compare_bytes_eq_lt_iff {first second : UInt8}
    {left right : List UInt8} :
    compare (first :: left) (second :: right) = .lt ↔
      first.toNat < second.toNat ∨
        first.toNat = second.toNat ∧ compare left right = .lt := by
  rw [List.compare_cons_cons, Ordering.then_eq_lt, Std.compare_eq_lt,
    Std.compare_eq_iff_eq, UInt8.lt_iff_toNat_lt, ← UInt8.toNat_inj]

theorem compare_append_left (shared left right : List UInt8) :
    compare (shared ++ left) (shared ++ right) = compare left right := by
  induction shared with
  | nil => rfl
  | cons byte shared induction =>
      have tie : compare byte byte = .eq := Std.ReflCmp.compare_self
      rw [List.cons_append, List.cons_append, List.compare_cons_cons, tie,
        induction]
      rfl

section Characters

variable {c d : Char} (left right : List UInt8)

theorem compare_encoded_of_lt (before : c < d) :
    compare (String.utf8EncodeChar c ++ left)
      (String.utf8EncodeChar d ++ right) = .lt := by
  have less : c.val.toNat < d.val.toNat := before
  have bound : d.val.toNat < 0x110000 := by
    have valid := d.valid
    simp only [UInt32.isValidChar, Nat.isValidChar] at valid
    omega
  fun_cases String.utf8EncodeChar c <;> fun_cases String.utf8EncodeChar d <;>
    simp (disch := omega) only [List.cons_append, compare_bytes_eq_lt_iff,
      UInt8.toNat_ofNat', Nat.mod_eq_of_lt] <;>
    omega

/-- The bytes behind two characters matter only if the characters are the
same. -/
theorem compare_encoded (c d : Char) :
    compare (String.utf8EncodeChar c ++ left)
        (String.utf8EncodeChar d ++ right) =
      (compare c d).then (compare left right) := by
  rcases lt_trichotomy c d with before | rfl | after
  · rw [compare_encoded_of_lt left right before, compare_lt_iff_lt.mpr before]
    rfl
  · rw [compare_append_left, compare_eq_iff_eq.mpr rfl]
    rfl
  · have turned : compare (String.utf8EncodeChar c ++ left)
          (String.utf8EncodeChar d ++ right) =
        (compare (String.utf8EncodeChar d ++ right)
          (String.utf8EncodeChar c ++ left)).swap := Std.OrientedCmp.eq_swap
    rw [turned, compare_encoded_of_lt right left after,
      compare_gt_iff_gt.mpr after]
    rfl

end Characters

theorem exists_utf8Bytes_cons (c : Char) (text : List Char) :
    ∃ byte bytes, utf8Bytes (c :: text) = byte :: bytes := by
  obtain ⟨byte, bytes, encoded⟩ :=
    List.exists_cons_of_ne_nil (String.utf8EncodeChar_ne_nil (c := c))
  exact ⟨byte, bytes ++ utf8Bytes text, by simp [utf8Bytes, encoded]⟩

theorem compare_utf8Bytes (left right : List Char) :
    compare (utf8Bytes left) (utf8Bytes right) = order left right := by
  induction left generalizing right with
  | nil =>
      cases right with
      | nil => rfl
      | cons d right =>
          obtain ⟨byte, bytes, encoded⟩ := exists_utf8Bytes_cons d right
          rw [encoded]
          rfl
  | cons c left induction =>
      cases right with
      | nil =>
          obtain ⟨byte, bytes, encoded⟩ := exists_utf8Bytes_cons c left
          rw [encoded]
          rfl
      | cons d right =>
          calc compare (utf8Bytes (c :: left)) (utf8Bytes (d :: right))
              = (compare c d).then
                  (compare (utf8Bytes left) (utf8Bytes right)) :=
                compare_encoded (utf8Bytes left) (utf8Bytes right) c d
            _ = (compare c d).then (order left right) := by rw [induction]
            _ = order (c :: left) (d :: right) :=
                List.compare_cons_cons.symm

theorem byteOrder_eq_stringOrder (left right : String) :
    byteOrder left right = stringOrder left right :=
  compare_utf8Bytes left.toList right.toList

theorem byteLength_eq_length_utf8Bytes (text : List Char) :
    byteLength text = (utf8Bytes text).length := by
  induction text with
  | nil => rfl
  | cons c text induction => simp [byteLength, utf8Bytes, induction]

end GridQuery.Text
