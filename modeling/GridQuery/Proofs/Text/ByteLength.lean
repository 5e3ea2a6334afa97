import GridQuery.Text.ByteLength

/-!
# Beginnings that fit in a number of bytes

A text cut to a number of bytes is the longest of its beginnings that fit.
Cutting leaves nothing only of an empty text, if a character fits, and a text
that goes on after another one still does so when both are cut.
-/

namespace GridQuery.Text

theorem takeBytes_eq_nil_iff {limit : Nat} {text : List Char}
    (room : 4 ≤ limit) : takeBytes limit text = [] ↔ text = [] := by
  cases text with
  | nil => simp [takeBytes]
  | cons c rest =>
      have fits : c.utf8Size ≤ limit := Nat.le_trans c.utf8Size_le_four room
      simp [takeBytes, fits]

theorem takeBytes_prefix_takeBytes {left right : List Char}
    (start : left <+: right) (limit : Nat) :
    takeBytes limit left <+: takeBytes limit right := by
  induction left generalizing right limit with
  | nil => exact List.nil_prefix
  | cons c left induction =>
      obtain ⟨rest, rfl⟩ := start
      rw [List.cons_append, takeBytes, takeBytes]
      split
      · exact List.cons_prefix_cons.mpr
          ⟨rfl, induction (List.prefix_append left rest) _⟩
      · exact List.prefix_rfl

theorem takeBytes_prefix (limit : Nat) (text : List Char) :
    takeBytes limit text <+: text := by
  induction text generalizing limit with
  | nil => exact List.prefix_rfl
  | cons c rest induction =>
      rw [takeBytes]
      split
      · exact List.cons_prefix_cons.mpr ⟨rfl, induction _⟩
      · exact List.nil_prefix

theorem byteLength_takeBytes_le (limit : Nat) (text : List Char) :
    byteLength (takeBytes limit text) ≤ limit := by
  induction text generalizing limit with
  | nil => exact Nat.zero_le limit
  | cons c rest induction =>
      rw [takeBytes]
      split
      · have others := induction (limit - c.utf8Size)
        rw [byteLength]
        omega
      · exact Nat.zero_le limit

theorem takeBytes_of_fits {limit : Nat} {text : List Char}
    (fits : byteLength text ≤ limit) : takeBytes limit text = text := by
  induction text generalizing limit with
  | nil => rfl
  | cons c rest induction =>
      rw [byteLength] at fits
      rw [takeBytes, if_pos (by omega), induction (by omega)]

theorem byteLength_le_of_prefix {start text : List Char}
    (begins : start <+: text) : byteLength start ≤ byteLength text := by
  induction start generalizing text with
  | nil => exact Nat.zero_le _
  | cons c start induction =>
      obtain ⟨rest, rfl⟩ := begins
      exact Nat.add_le_add_left (induction (List.prefix_append start rest)) _

theorem prefix_takeBytes {limit : Nat} {start text : List Char}
    (begins : start <+: text) (fits : byteLength start ≤ limit) :
    start <+: takeBytes limit text := by
  have cut := takeBytes_prefix_takeBytes begins limit
  rwa [takeBytes_of_fits fits] at cut

end GridQuery.Text
