import GridQuery.Proofs.Text.Lowercase

/-!
# Lower case and blanks

Blanks have no case.  Lower case leaves them where they are, makes none of
other characters and looks at nothing beyond them, so that a text may be put in
lower case before it is trimmed as well as afterwards.
-/

namespace GridQuery.Text

/-- The runs of blanks. -/
def blankRuns : List (Nat × Nat) :=
  [(9, 13), (0x20, 0x20), (0x85, 0x85), (0xA0, 0xA0), (0x1680, 0x1680),
    (0x2000, 0x200A), (0x2028, 0x2029), (0x202F, 0x202F), (0x205F, 0x205F),
    (0x3000, 0x3000)]

theorem isBlank_iff_blankRuns {c : Char} :
    isBlank c = true ↔
      ∃ run ∈ blankRuns, run.1 ≤ c.toNat ∧ c.toNat ≤ run.2 := by
  simp only [isBlank, blankRuns, Bool.or_eq_true, Bool.and_eq_true,
    decide_eq_true_eq, beq_iff_eq, List.exists_mem_cons_iff,
    List.not_mem_nil, false_and, exists_false, or_false]
  omega

theorem inRuns_eq_false_of_isBlank {c : Char} {runs : List (Nat × Nat)}
    (blank : isBlank c = true)
    (apart : ∀ run ∈ runs, ∀ blanks ∈ blankRuns,
      run.2 < blanks.1 ∨ blanks.2 < run.1) :
    inRuns runs c.toNat = false := by
  obtain ⟨blanks, listed, within⟩ := isBlank_iff_blankRuns.mp blank
  apply List.any_eq_false.mpr
  intro run member
  have := apart run member blanks listed
  simp only [Bool.and_eq_true, decide_eq_true_eq]
  omega

section Blanks

variable {c : Char} (blank : isBlank c = true)

include blank

theorem isCaseIgnorable_of_isBlank : isCaseIgnorable c = false :=
  inRuns_eq_false_of_isBlank blank (by decide +kernel)

theorem isCased_of_isBlank : isCased c = false :=
  inRuns_eq_false_of_isBlank blank (by decide +kernel)

theorem lowercaseChar_of_isBlank : lowercaseChar c = [c] := by
  have apart : ∀ run ∈ lowercaseRuns, ∀ blanks ∈ blankRuns,
      run.last < blanks.1 ∨ blanks.2 < run.first := by
    decide +kernel
  have notCapital : ¬ (65 ≤ c.toNat ∧ c.toNat ≤ 90) := by
    simp only [isBlank, Bool.or_eq_true, Bool.and_eq_true,
      decide_eq_true_eq, beq_iff_eq] at blank
    omega
  have small : c.toLower = c :=
    Char.toNat_inj.mp (by rw [toNat_toLower, if_neg notCapital])
  have notDotted : c ≠ 'İ' := by
    intro dotted
    rw [dotted] at blank
    cases blank
  have uncovered : lowercaseRuns.find? (·.covers c.toNat) = none := by
    obtain ⟨blanks, listed, within⟩ := isBlank_iff_blankRuns.mp blank
    apply List.find?_eq_none.mpr
    intro run member
    have := apart run member blanks listed
    simp only [CaseRun.covers, Bool.and_eq_true, decide_eq_true_eq]
    omega
  rw [lowercaseChar, small, if_neg notDotted, uncovered]
  exact ite_self [c]

theorem meetsCased_cons_of_isBlank (rest : List Char) :
    meetsCased (c :: rest) = false := by
  simp [meetsCased, isCaseIgnorable_of_isBlank blank,
    isCased_of_isBlank blank]

theorem ne_sigma_of_isBlank : c ≠ 'Σ' := by
  intro sigma
  rw [sigma] at blank
  cases blank

end Blanks

theorem isBlank_ofNat {code : Nat}
    (apart : ∀ run ∈ blankRuns, code < run.1 ∨ run.2 < code) :
    isBlank (Char.ofNat code) = false := by
  rw [Bool.eq_false_iff]
  intro blank
  obtain ⟨run, listed, within⟩ := isBlank_iff_blankRuns.mp blank
  have positive : ∀ run ∈ blankRuns, 0 < run.1 := by decide
  by_cases valid : code.isValidChar
  · rw [Char.ofNat, dif_pos valid] at within
    have low : run.1 ≤ code := within.1
    have high : code ≤ run.2 := within.2
    have := apart run listed
    omega
  -- What is no code point gives the character with the code 0.
  · rw [Char.ofNat, dif_neg valid] at within
    exact Nat.not_le_of_gt (positive run listed) within.1

theorem isBlank_of_mem_lowercaseChar {c d : Char}
    (visible : isBlank c = false) (member : d ∈ lowercaseChar c) :
    isBlank d = false := by
  have apart : ∀ run ∈ lowercaseRuns, ∀ blanks ∈ blankRuns,
      run.image + (run.last - run.first) < blanks.1 ∨
        blanks.2 < run.image := by
    decide +kernel
  unfold lowercaseChar at member
  split at member
  · rw [List.mem_singleton.mp member, isBlank_toLower]
    exact visible
  split at member
  · rcases List.mem_cons.mp member with first | second
    · rw [first]
      rfl
    · rw [List.mem_singleton.mp second]
      rfl
  split at member
  · rename_i run found
    have covered : run.covers c.toNat = true :=
      List.find?_some (p := fun run : CaseRun => run.covers c.toNat) found
    simp only [CaseRun.covers, Bool.and_eq_true, decide_eq_true_eq] at covered
    rw [List.mem_singleton.mp member]
    apply isBlank_ofNat
    intro blanks listed
    have := apart run (List.mem_of_find?_eq_some found) blanks listed
    omega
  · rw [List.mem_singleton.mp member]
    exact visible

theorem lowercaseChar_ne_nil (c : Char) : lowercaseChar c ≠ [] := by
  unfold lowercaseChar
  split
  · simp
  split
  · simp
  split <;> simp

/-- Lower case goes on behind the form of the first character, which is not
empty and has no blank unless the character is one. -/
theorem exists_form (before : List Char) {c : Char}
    (visible : isBlank c = false) (rest : List Char) :
    ∃ form, lowercaseAfter before (c :: rest) =
        form ++ lowercaseAfter (c :: before) rest ∧
      form ≠ [] ∧ ∀ d ∈ form, isBlank d = false := by
  rw [lowercaseAfter]
  split
  · refine ⟨[if meetsCased before && !meetsCased rest then 'ς' else 'σ'], rfl,
      by simp, ?_⟩
    intro d member
    rw [List.mem_singleton.mp member]
    split <;> rfl
  · exact ⟨lowercaseChar c, rfl, lowercaseChar_ne_nil c,
      fun d member => isBlank_of_mem_lowercaseChar visible member⟩

theorem exists_last_lowercaseAfter (before rest : List Char) {c : Char}
    (visible : isBlank c = false) :
    ∃ front d, lowercaseAfter before (rest ++ [c]) = front ++ [d] ∧
      isBlank d = false := by
  induction rest generalizing before with
  | nil =>
      obtain ⟨form, shape, nonempty, noBlank⟩ := exists_form before visible []
      obtain ⟨front, d, rfl⟩ :=
        (List.eq_nil_or_concat form).resolve_left nonempty
      refine ⟨front, d, ?_, noBlank d (by simp)⟩
      simpa [lowercaseAfter] using shape
  | cons first rest induction =>
      obtain ⟨front, d, shape, noBlank⟩ := induction (first :: before)
      rw [List.cons_append, lowercaseAfter, shape]
      split
      · exact ⟨_ :: front, d, rfl, noBlank⟩
      · exact ⟨lowercaseChar first ++ front, d,
          (List.append_assoc _ _ _).symm, noBlank⟩

theorem Solid.lowercase {text : List Char} (solid : Solid text) :
    Solid (lowercase text) := by
  constructor
  · obtain ⟨c, rest, rfl, visible⟩ := solid.head
    obtain ⟨form, shape, nonempty, noBlank⟩ := exists_form [] visible rest
    obtain ⟨d, others, rfl⟩ := List.exists_cons_of_ne_nil nonempty
    exact ⟨d, _, shape, noBlank d List.mem_cons_self⟩
  · obtain ⟨rest, c, rfl, visible⟩ := solid.last
    exact exists_last_lowercaseAfter [] rest visible

/-- Of what stands in front, it matters only whether a cased character is met
in it. -/
theorem lowercaseAfter_congr {before other : List Char}
    (same : meetsCased before = meetsCased other) (text : List Char) :
    lowercaseAfter before text = lowercaseAfter other text := by
  induction text generalizing before other with
  | nil => rfl
  | cons c text induction =>
      have next : meetsCased (c :: before) = meetsCased (c :: other) := by
        by_cases ignorable : isCaseIgnorable c = true
        · simpa [meetsCased, ignorable] using same
        · simp [meetsCased, ignorable]
      rw [lowercaseAfter, lowercaseAfter, same, induction next]

theorem lowercaseAfter_of_blank (before : List Char) {blanks : List Char}
    (blank : Blank blanks) : lowercaseAfter before blanks = blanks := by
  induction blanks generalizing before with
  | nil => rfl
  | cons c blanks induction =>
      obtain ⟨isBlank, blanksBlank⟩ := List.forall_mem_cons.mp blank
      rw [lowercaseAfter, if_neg (ne_sigma_of_isBlank isBlank),
        lowercaseChar_of_isBlank isBlank, induction (c :: before) blanksBlank]
      rfl

theorem lowercaseAfter_blank_append {blanks : List Char}
    (blank : Blank blanks) (text : List Char) :
    lowercaseAfter [] (blanks ++ text) =
      blanks ++ lowercaseAfter [] text := by
  induction blanks with
  | nil => rfl
  | cons c blanks induction =>
      obtain ⟨isBlank, blanksBlank⟩ := List.forall_mem_cons.mp blank
      have same : meetsCased [c] = meetsCased [] :=
        meetsCased_cons_of_isBlank isBlank []
      rw [List.cons_append, lowercaseAfter,
        if_neg (ne_sigma_of_isBlank isBlank),
        lowercaseChar_of_isBlank isBlank, lowercaseAfter_congr same,
        induction blanksBlank]
      rfl

theorem meetsCased_append_blank (text : List Char) {blanks : List Char}
    (blank : Blank blanks) : meetsCased (text ++ blanks) = meetsCased text := by
  induction text with
  | nil =>
      cases blanks with
      | nil => rfl
      | cons c blanks =>
          exact meetsCased_cons_of_isBlank (blank c List.mem_cons_self) blanks
  | cons c text induction =>
      by_cases ignorable : isCaseIgnorable c = true
      · simpa [meetsCased, ignorable] using induction
      · simp [meetsCased, ignorable]

theorem lowercaseAfter_append_blank (before text : List Char)
    {blanks : List Char} (blank : Blank blanks) :
    lowercaseAfter before (text ++ blanks) =
      lowercaseAfter before text ++ blanks := by
  induction text generalizing before with
  | nil => exact lowercaseAfter_of_blank before blank
  | cons c text induction =>
      rw [List.cons_append, lowercaseAfter, lowercaseAfter, induction,
        meetsCased_append_blank text blank]
      split
      · rfl
      · exact (List.append_assoc _ _ _).symm

theorem lowercase_surrounded {before after : List Char}
    (beforeBlank : Blank before) (afterBlank : Blank after)
    (text : List Char) :
    lowercase (before ++ text ++ after) =
      before ++ lowercase text ++ after := by
  rw [lowercase, lowercaseAfter_append_blank _ _ afterBlank,
    lowercaseAfter_blank_append beforeBlank]
  rfl

theorem trim_lowercase (text : List Char) :
    trim (lowercase text) = lowercase (trim text) := by
  rcases blank_or_exists_solid text with
    blank | ⟨before, core, after, rfl, beforeBlank, afterBlank, solid⟩
  · rw [lowercase, lowercaseAfter_of_blank [] blank,
      trim_eq_nil_of_blank blank]
    rfl
  · rw [lowercase_surrounded beforeBlank afterBlank,
      solid.lowercase.trim_surrounded beforeBlank afterBlank,
      solid.trim_surrounded beforeBlank afterBlank]

/-- Only a text without blanks around it has the lower case form of its
trimmed text. -/
theorem lowercase_trim_eq_iff {text : List Char} :
    lowercase (trim text) = lowercase text ↔ trim text = text := by
  constructor
  · intro same
    rcases blank_or_exists_solid text with
      blank | ⟨before, core, after, rfl, beforeBlank, afterBlank, solid⟩
    · rw [trim_eq_nil_of_blank blank] at same ⊢
      exact same.trans (lowercaseAfter_of_blank [] blank)
    · rw [solid.trim_surrounded beforeBlank afterBlank,
        lowercase_surrounded beforeBlank afterBlank] at same
      have lengths := congrArg List.length same
      simp only [List.length_append] at lengths
      have nothingBefore : before = [] := List.length_eq_zero_iff.mp (by omega)
      have nothingAfter : after = [] := List.length_eq_zero_iff.mp (by omega)
      rw [nothingBefore, nothingAfter]
      simpa using solid.trim_eq
  · intro trimmed
    rw [trimmed]

end GridQuery.Text
