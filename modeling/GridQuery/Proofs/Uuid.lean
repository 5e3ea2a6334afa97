import Mathlib.Algebra.Group.Nat.Defs
import GridQuery.Proofs.Text.Blank
import GridQuery.Uuid

/-!
# Reading identifiers back from their text

Hexadecimal digits are read as the number they were written for, and hyphens
between the groups of digits are taken out where they were put in.  So an
identifier is read from its own text.
-/

namespace GridQuery.Uuid

theorem hexDigit?_hexChar : ∀ n < 16, hexDigit? (hexChar n) = some n := by
  decide

theorem length_hexDigits (count n : Nat) : (hexDigits count n).length = count := by
  induction count generalizing n with
  | zero => rfl
  | succ count induction =>
      rw [hexDigits, List.length_append, induction, List.length_singleton]

theorem exists_of_mem_hexDigits {count n : Nat} {c : Char}
    (member : c ∈ hexDigits count n) : ∃ digit < 16, c = hexChar digit := by
  induction count generalizing n with
  | zero => cases member
  | succ count induction =>
      rw [hexDigits, List.mem_append, List.mem_singleton] at member
      rcases member with higher | last
      · exact induction higher
      · exact ⟨n % 16, Nat.mod_lt n (by decide), last⟩

theorem isBlank_hexChar : ∀ n < 16, Text.isBlank (hexChar n) = false := by
  decide

theorem hexValue?_append (read : Nat) (left right : List Char) :
    hexValue? read (left ++ right) =
      (hexValue? read left).bind fun read => hexValue? read right := by
  induction left generalizing read with
  | nil => rfl
  | cons c left induction =>
      rw [List.cons_append, hexValue?, hexValue?]
      cases hexDigit? c with
      | none => rfl
      | some digit => exact induction (16 * read + digit)

theorem hexValue?_hexDigits (count n read : Nat) :
    hexValue? read (hexDigits count n) =
      some (16 ^ count * read + n % 16 ^ count) := by
  induction count generalizing n read with
  | zero => simp [hexDigits, hexValue?, Nat.mod_one]
  | succ count induction =>
      have last : hexDigit? (hexChar (n % 16)) = some (n % 16) :=
        hexDigit?_hexChar _ (Nat.mod_lt n (by decide))
      rw [hexDigits, hexValue?_append, induction, Option.bind_some, hexValue?,
        last, Option.bind_some, hexValue?, Nat.pow_succ', Nat.mod_mul,
        Nat.mul_assoc]
      congr 1
      omega

theorem readDigits?_hexDigits (u : Uuid) :
    readDigits? (hexDigits 32 u.value) = some u := by
  have value : 16 ^ 32 * 0 + u.value % 16 ^ 32 = u.value := by
    rw [Nat.mul_zero, Nat.zero_add]
    exact Nat.mod_eq_of_lt u.value_lt
  have same : ofNat u.value = u := by
    obtain ⟨value, value_lt⟩ := u
    simp only [ofNat, Nat.mod_eq_of_lt value_lt]
  rw [readDigits?, if_pos (length_hexDigits 32 _), hexValue?_hexDigits, value,
    Option.map_some, same]

theorem dropHyphens?_joined {first second third fourth fifth : List Char}
    (lengths : [first, second, third, fourth, fifth].map List.length =
      [8, 4, 4, 4, 12]) :
    dropHyphens? (first ++ '-' :: second ++ '-' :: third ++ '-' :: fourth ++
        '-' :: fifth) =
      some (first ++ second ++ third ++ fourth ++ fifth) := by
  simp only [List.map_cons, List.map_nil, List.cons.injEq, and_true] at lengths
  obtain ⟨l1, l2, l3, l4, l5⟩ := lengths
  simp (disch := omega) [dropHyphens?, List.take_append, List.drop_append,
    List.drop_eq_nil_of_le, List.take_of_length_le, l1, l2, l3, l4, l5]

theorem exists_groups (u : Uuid) :
    ∃ first second third fourth fifth : List Char,
      [first, second, third, fourth, fifth].map List.length =
          [8, 4, 4, 4, 12] ∧
        hexDigits 32 u.value = first ++ second ++ third ++ fourth ++ fifth ∧
        u.text = first ++ '-' :: second ++ '-' :: third ++ '-' :: fourth ++
          '-' :: fifth := by
  have length := length_hexDigits 32 u.value
  have joined (start count : Nat) :
      ((hexDigits 32 u.value).drop start).take count ++
          (hexDigits 32 u.value).drop (start + count) =
        (hexDigits 32 u.value).drop start := by
    rw [← List.drop_drop, List.take_append_drop]
  refine ⟨_, _, _, _, _, ?_, ?_, rfl⟩
  · simp [length]
  · simp only [List.append_assoc]
    rw [joined 16 4, joined 12 4, joined 8 4, List.take_append_drop]

theorem read?_text (u : Uuid) : read? u.text = some u := by
  obtain ⟨first, second, third, fourth, fifth, lengths, digits, shape⟩ :=
    exists_groups u
  have groups : readGroups? u.text = some u := by
    rw [readGroups?, shape, dropHyphens?_joined lengths, Option.bind_some,
      ← digits, readDigits?_hexDigits]
  have length : u.text.length = 36 := by
    simp only [List.map_cons, List.map_nil, List.cons.injEq, and_true] at lengths
    simp [shape, lengths]
  rw [read?, length]
  exact groups

theorem solid_text (u : Uuid) : Text.Solid u.text := by
  obtain ⟨first, second, third, fourth, fifth, -, digits, shape⟩ :=
    exists_groups u
  apply Text.solid_of_forall_not_isBlank
  · simp [shape]
  · intro c member
    have digit_or_hyphen : c ∈ hexDigits 32 u.value ∨ c = '-' := by
      rw [digits]
      rw [shape] at member
      simp only [List.mem_append, List.mem_cons] at member ⊢
      grind
    rcases digit_or_hyphen with digit | hyphen
    · obtain ⟨n, small, rfl⟩ := exists_of_mem_hexDigits digit
      exact isBlank_hexChar n small
    · rw [hyphen]
      rfl

end GridQuery.Uuid
