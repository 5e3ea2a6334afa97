import Mathlib.Data.List.Basic
import GridQuery.Text.Ascii

/-!
# Texts that differ in the case of ASCII letters

Putting two texts in upper case makes them equal exactly if putting them in
lower case does.  So a search that compares upper case forms finds the
occurrences that differ from what is searched at most in the case of ASCII
letters.
-/

namespace GridQuery.Text

theorem toNat_toLower (c : Char) :
    c.toLower.toNat =
      if 65 ≤ c.toNat ∧ c.toNat ≤ 90 then c.toNat + 32 else c.toNat := by
  have first : 'A'.val.toNat = 65 := rfl
  have last : 'Z'.val.toNat = 90 := rfl
  have distance : ('a'.val - 'A'.val).toNat = 32 := rfl
  delta Char.toLower
  simp only [ge_iff_le, UInt32.le_iff_toNat_le, Char.toNat]
  split
  · rw [if_pos (by omega), UInt32.toNat_add]
    omega
  · rw [if_neg (by omega)]

theorem toNat_toUpper (c : Char) :
    c.toUpper.toNat =
      if 97 ≤ c.toNat ∧ c.toNat ≤ 122 then c.toNat - 32 else c.toNat := by
  have first : 'a'.val.toNat = 97 := rfl
  have last : 'z'.val.toNat = 122 := rfl
  have distance : ('A'.val - 'a'.val).toNat = 4294967264 := rfl
  delta Char.toUpper
  simp only [UInt32.le_iff_toNat_le, Char.toNat]
  split
  · rw [if_pos (by omega), UInt32.toNat_add]
    omega
  · rw [if_neg (by omega)]

theorem toLower_eq_iff_toUpper_eq {c d : Char} :
    c.toLower = d.toLower ↔ c.toUpper = d.toUpper := by
  rw [← Char.toNat_inj, ← Char.toNat_inj, toNat_toLower, toNat_toLower,
    toNat_toUpper, toNat_toUpper]
  split <;> split <;> split <;> split <;> omega

theorem sameIgnoringCase_iff {left right : List Char} :
    sameIgnoringCase left right = true ↔ upper left = upper right := by
  rw [sameIgnoringCase, beq_iff_eq, upper, upper]
  induction left generalizing right with
  | nil => cases right <;> simp
  | cons c left induction =>
      cases right with
      | nil => simp
      | cons d right =>
          simp [toLower_eq_iff_toUpper_eq, induction]

/-- A text occurs in another one, the case of ASCII letters left aside. -/
def OccursIgnoringCase (needle text : List Char) : Prop :=
  ∃ run, run <:+: text ∧ sameIgnoringCase run needle = true

theorem upper_infix_upper_iff {needle text : List Char} :
    upper needle <:+: upper text ↔ OccursIgnoringCase needle text := by
  simp only [OccursIgnoringCase, sameIgnoringCase_iff]
  rw [show upper text = text.map Char.toUpper from rfl, List.infix_map_iff]
  constructor
  · rintro ⟨run, within, equal⟩
    exact ⟨run, within, equal.symm⟩
  · rintro ⟨run, within, equal⟩
    exact ⟨run, within, equal.symm⟩

end GridQuery.Text
