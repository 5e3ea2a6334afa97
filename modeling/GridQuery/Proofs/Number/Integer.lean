import GridQuery.Proofs.Number.Decimal
import GridQuery.Proofs.Text.Blank

/-!
# Reading integers that are written in digits

The digits of a number have neither a sign nor blanks in them, so that every
reader of integers takes them as they are and reads the number.
-/

namespace GridQuery.Number

theorem isDigit_of_mem_digits {n : Nat} {c : Char} (member : c ∈ digits n) :
    c.isDigit = true :=
  List.all_eq_true.mp (all_isDigit_digits n) c member

theorem head_digits (n : Nat) :
    ∃ c rest, digits n = c :: rest ∧ c.isDigit = true := by
  obtain ⟨c, rest, shape⟩ := List.exists_cons_of_ne_nil (digits_ne_nil n)
  have member : c ∈ digits n := by simp [shape]
  exact ⟨c, rest, shape, isDigit_of_mem_digits member⟩

theorem integer?_digits (n : Nat) : integer? (digits n) = some (n : Int) := by
  obtain ⟨c, rest, shape, isDigit⟩ := head_digits n
  have read := natural?_digits n
  rw [shape] at read ⊢
  unfold integer?
  split
  · rename_i minus
    cases minus
    cases isDigit
  · rename_i plus
    cases plus
    cases isDigit
  · rw [read]
    rfl

theorem unsigned?_digits (n : Nat) : unsigned? (digits n) = some n := by
  obtain ⟨c, rest, shape, isDigit⟩ := head_digits n
  have read := natural?_digits n
  rw [shape] at read ⊢
  unfold unsigned?
  split
  · rename_i plus
    cases plus
    cases isDigit
  · exact read

theorem readUnsigned?_digits (word : UInt64) :
    readUnsigned? (digits word.toNat) = some word := by
  have fits : word.toNat < 18446744073709551616 := word.toNat_lt
  rw [readUnsigned?, unsigned?_digits, Option.bind_some, unsignedWord?,
    if_pos fits, UInt64.ofNat_toNat]

theorem toInt_readSigned?_digits {n : Nat} (fits : n < 2 ^ 63) :
    (readSigned? (digits n)).map (·.toInt) = some (n : Int) := by
  have range : -9223372036854775808 ≤ (n : Int) ∧
      (n : Int) ≤ 9223372036854775807 := by omega
  have word : signedWord? n = some (Int64.ofInt n) := if_pos range
  rw [readSigned?, integer?_digits, Option.bind_some, word, Option.map_some,
    signedWord?_eq_some_iff.mp word]

theorem isBlank_eq_false_of_isDigit {c : Char} (digit : c.isDigit = true) :
    Text.isBlank c = false := by
  have range : 48 ≤ c.toNat ∧ c.toNat ≤ 57 := by
    simpa [Char.isDigit, UInt32.le_iff_toNat_le] using digit
  simp only [Text.isBlank, Bool.or_eq_false_iff, Bool.and_eq_false_iff,
    decide_eq_false_iff_not, beq_eq_false_iff_ne]
  omega

theorem solid_digits (n : Nat) : Text.Solid (digits n) :=
  Text.solid_of_forall_not_isBlank (digits_ne_nil n)
    fun _ member => isBlank_eq_false_of_isDigit (isDigit_of_mem_digits member)

end GridQuery.Number
