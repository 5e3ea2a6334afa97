import GridQuery.Proofs.Text.Ascii
import GridQuery.Proofs.Text.Blank
import GridQuery.Text.Lowercase

/-!
# Lower case and the case of ASCII letters

The case of ASCII letters leaves no trace in the lower case form of a text, not
even in the forms of other characters.  What becomes of a capital sigma depends
on the characters around it, but only on their being cased or case-ignorable,
and both cases of a letter are cased.
-/

namespace GridQuery.Text

theorem toLower_eq_or (c : Char) :
    c.toLower = c ∨
      65 ≤ c.toNat ∧ c.toNat ≤ 90 ∧ c.toLower.toNat = c.toNat + 32 := by
  by_cases capital : 65 ≤ c.toNat ∧ c.toNat ≤ 90
  · exact .inr ⟨capital.1, capital.2, by rw [toNat_toLower, if_pos capital]⟩
  · exact .inl (Char.toNat_inj.mp (by rw [toNat_toLower, if_neg capital]))

section Characters

variable (c : Char)

theorem isBlank_toLower : isBlank c.toLower = isBlank c := by
  rcases toLower_eq_or c with same | ⟨lower, upper, code⟩
  · rw [same]
  · rw [Bool.eq_iff_iff]
    simp only [isBlank, code, Bool.or_eq_true, Bool.and_eq_true,
      decide_eq_true_eq, beq_iff_eq]
    omega

theorem isCaseIgnorable_toLower :
    isCaseIgnorable c.toLower = isCaseIgnorable c := by
  have apart : ∀ run ∈ ignorableRuns,
      (run.2 < 65 ∨ 90 < run.1) ∧ (run.2 < 97 ∨ 122 < run.1) := by
    decide +kernel
  rcases toLower_eq_or c with same | ⟨lower, upper, code⟩
  · rw [same]
  · rw [Bool.eq_iff_iff]
    simp only [isCaseIgnorable, inRuns, List.any_eq_true, Bool.and_eq_true,
      decide_eq_true_eq, code]
    constructor
    · rintro ⟨run, member, within⟩
      have := apart run member
      omega
    · rintro ⟨run, member, within⟩
      have := apart run member
      omega

theorem isCased_toLower : isCased c.toLower = isCased c := by
  rcases toLower_eq_or c with same | ⟨lower, upper, code⟩
  · rw [same]
  · have cased {d : Char} (run : Nat × Nat) (listed : run ∈ casedRuns)
        (within : run.1 ≤ d.toNat ∧ d.toNat ≤ run.2) : isCased d = true :=
      List.any_eq_true.mpr ⟨run, listed, by simpa using within⟩
    have capital : isCased c = true :=
      cased (0x41, 0x5A) (by decide) ⟨lower, upper⟩
    have small : isCased c.toLower = true :=
      cased (0x61, 0x7A) (by decide) ⟨by omega, by omega⟩
    rw [capital, small]

theorem lowercaseChar_toLower : lowercaseChar c.toLower = lowercaseChar c := by
  rcases toLower_eq_or c with same | ⟨lower, upper, code⟩
  · rw [same]
  · have idempotent : c.toLower.toLower = c.toLower :=
      (toLower_eq_or c.toLower).resolve_right (by omega)
    rw [lowercaseChar, if_pos (by omega), lowercaseChar, if_pos (by omega),
      idempotent]

theorem toLower_eq_sigma_iff : c.toLower = 'Σ' ↔ c = 'Σ' := by
  rcases toLower_eq_or c with same | ⟨lower, upper, code⟩
  · rw [same]
  · have sigma : 'Σ'.toNat = 931 := rfl
    rw [← Char.toNat_inj, ← Char.toNat_inj, code, sigma]
    omega

end Characters

theorem dropWhile_map_toLower {p : Char → Bool}
    (same : ∀ c : Char, p c.toLower = p c) (text : List Char) :
    (text.map Char.toLower).dropWhile p =
      (text.dropWhile p).map Char.toLower := by
  have both : p ∘ Char.toLower = p := funext same
  rw [List.dropWhile_map, both]

theorem trim_map_toLower (text : List Char) :
    trim (text.map Char.toLower) = (trim text).map Char.toLower := by
  simp only [trim, trimStart, trimEnd, dropWhile_map_toLower isBlank_toLower,
    ← List.map_reverse]

theorem meetsCased_map_toLower (text : List Char) :
    meetsCased (text.map Char.toLower) = meetsCased text := by
  rw [meetsCased, meetsCased, dropWhile_map_toLower isCaseIgnorable_toLower]
  cases text.dropWhile isCaseIgnorable with
  | nil => rfl
  | cons c rest => exact isCased_toLower c

theorem lowercaseAfter_map_toLower (before text : List Char) :
    lowercaseAfter (before.map Char.toLower) (text.map Char.toLower) =
      lowercaseAfter before text := by
  induction text generalizing before with
  | nil => rfl
  | cons c rest induction =>
      have later := induction (c :: before)
      rw [List.map_cons] at later ⊢
      simp only [lowercaseAfter, toLower_eq_sigma_iff, meetsCased_map_toLower,
        lowercaseChar_toLower, later]

/-- Texts that differ at most in the case of ASCII letters have one lower case
form. -/
theorem lowercase_eq_of_sameIgnoringCase {left right : List Char}
    (same : sameIgnoringCase left right = true) :
    lowercase left = lowercase right := by
  have form (text : List Char) :
      lowercase (text.map Char.toLower) = lowercase text :=
    lowercaseAfter_map_toLower [] text
  rw [← form left, eq_of_beq same, form right]

theorem sameIgnoringCase_trim {left right : List Char}
    (same : sameIgnoringCase left right = true) :
    sameIgnoringCase (trim left) (trim right) = true := by
  rw [sameIgnoringCase, beq_iff_eq, ← trim_map_toLower, ← trim_map_toLower,
    eq_of_beq same]

end GridQuery.Text
