import GridQuery.Text.Occurrence
import GridQuery.Text.Pattern

/-!
# Escaped texts in patterns

An escaped text stands for itself alone: its items ask for its characters one
by one, whatever marks the text contains.  A percent sign before or after it
lifts the demand that the text begin or end there.  The matcher is first
described by the ways of cutting a text in two, and every shape of pattern
follows from that.
-/

namespace GridQuery.Text

/-- The three passes over a text act on each character by itself: the
backslash that a pass adds is not touched by the later ones. -/
theorem escapePattern_cons (c : Char) (text : List Char) :
    escapePattern (c :: text) =
      (if isPatternMark c then ['\\', c] else [c]) ++ escapePattern text := by
  by_cases backslash : c = '\\'
  · subst c
    simp [escapePattern, escapeMark, isPatternMark]
  · by_cases percent : c = '%'
    · subst c
      simp [escapePattern, escapeMark, isPatternMark]
    · by_cases underscore : c = '_'
      · subst c
        simp [escapePattern, escapeMark, isPatternMark]
      · simp [escapePattern, escapeMark, isPatternMark, backslash, percent,
          underscore]

theorem patternItems_cons_of_not_mark
    {c : Char} (plain : isPatternMark c = false) (rest : List Char) :
    patternItems (c :: rest) = .exactly c :: patternItems rest := by
  simp only [isPatternMark, Bool.or_eq_false_iff, beq_eq_false_iff_ne] at plain
  obtain ⟨⟨backslash, percent⟩, underscore⟩ := plain
  simp [patternItems, backslash]

/-- The items of an escaped text ask for its characters one by one, and leave
what follows it untouched. -/
theorem patternItems_escapePattern_append (text rest : List Char) :
    patternItems (escapePattern text ++ rest) =
      text.map .exactly ++ patternItems rest := by
  induction text with
  | nil => rfl
  | cons c text induction =>
      rw [escapePattern_cons]
      by_cases mark : isPatternMark c = true
      · simp [mark, patternItems, induction]
      · have plain : isPatternMark c = false := by simpa using mark
        simp [plain, patternItems_cons_of_not_mark plain, induction]

/-- Any number of characters may be skipped before the test succeeds. -/
theorem anyTail_eq_true_iff {test : List Char → Bool} {text : List Char} :
    anyTail test text = true ↔
      ∃ skipped rest, text = skipped ++ rest ∧ test rest = true := by
  induction text with
  | nil =>
      constructor
      · intro accepted
        exact ⟨[], [], rfl, accepted⟩
      · rintro ⟨skipped, rest, split, accepted⟩
        obtain ⟨rfl, rfl⟩ := List.append_eq_nil_iff.mp split.symm
        exact accepted
  | cons c text induction =>
      rw [anyTail, Bool.or_eq_true, induction]
      constructor
      · rintro (here | ⟨skipped, rest, rfl, accepted⟩)
        · exact ⟨[], c :: text, rfl, here⟩
        · exact ⟨c :: skipped, rest, rfl, accepted⟩
      · rintro ⟨skipped, rest, split, accepted⟩
        cases skipped with
        | nil =>
            have same : c :: text = rest := split
            exact Or.inl (same ▸ accepted)
        | cons head skipped =>
            injection split with _ split
            exact Or.inr ⟨skipped, rest, split, accepted⟩

/-- Characters asked for one by one must begin the text. -/
theorem fitsItems_exactly_append_iff
    {value text : List Char} {items : List PatternItem} :
    fitsItems (value.map .exactly ++ items) text = true ↔
      ∃ rest, text = value ++ rest ∧ fitsItems items rest = true := by
  induction value generalizing text with
  | nil => simp
  | cons c value induction =>
      cases text with
      | nil => simp [fitsItems]
      | cons d text =>
          simp only [List.map_cons, List.cons_append, fitsItems,
            Bool.and_eq_true, beq_iff_eq, induction, List.cons.injEq]
          constructor
          · rintro ⟨rfl, rest, rfl, fits⟩
            exact ⟨rest, ⟨rfl, rfl⟩, fits⟩
          · rintro ⟨rest, ⟨rfl, rfl⟩, fits⟩
            exact ⟨rfl, rest, rfl, fits⟩

theorem fitsItems_anyText (text : List Char) :
    fitsItems [.anyText] text = true := by
  rw [fitsItems, anyTail_eq_true_iff]
  exact ⟨text, [], by simp, rfl⟩

theorem contains_eq_true_iff {needle text : List Char} :
    contains needle text = true ↔ needle <:+: text := by
  induction text with
  | nil => simp [contains]
  | cons c text induction =>
      rw [contains, Bool.or_eq_true, induction, List.isPrefixOf_iff_prefix,
        List.infix_cons_iff]

theorem fits_escapePattern_anyText (value text : List Char) :
    fits (escapePattern value ++ ['%']) text = value.isPrefixOf text := by
  rw [Bool.eq_iff_iff, fits, patternItems_escapePattern_append,
    fitsItems_exactly_append_iff, List.isPrefixOf_iff_prefix]
  constructor
  · rintro ⟨rest, rfl, _⟩
    exact List.prefix_append value rest
  · rintro ⟨rest, rfl⟩
    exact ⟨rest, rfl, fitsItems_anyText rest⟩

theorem fits_anyText_escapePattern (value text : List Char) :
    fits ('%' :: escapePattern value) text = value.isSuffixOf text := by
  have items : patternItems ('%' :: escapePattern value) =
      .anyText :: value.map .exactly ++ patternItems [] := by
    simpa [patternItems] using patternItems_escapePattern_append value []
  rw [Bool.eq_iff_iff, fits, items, List.cons_append, fitsItems,
    anyTail_eq_true_iff, List.isSuffixOf_iff_suffix]
  constructor
  · rintro ⟨skipped, rest, rfl, fits⟩
    obtain ⟨after, rfl, ended⟩ := fitsItems_exactly_append_iff.mp fits
    have nothing : after = [] := by simpa [patternItems, fitsItems] using ended
    subst after
    simp
  · rintro ⟨skipped, rfl⟩
    exact ⟨skipped, value, rfl,
      fitsItems_exactly_append_iff.mpr ⟨[], by simp, rfl⟩⟩

theorem fits_anyText_escapePattern_anyText (value text : List Char) :
    fits ('%' :: (escapePattern value ++ ['%'])) text = contains value text := by
  have items : patternItems ('%' :: (escapePattern value ++ ['%'])) =
      .anyText :: (value.map .exactly ++ [.anyText]) := by
    simpa [patternItems] using patternItems_escapePattern_append value ['%']
  rw [Bool.eq_iff_iff, fits, items, fitsItems, anyTail_eq_true_iff,
    contains_eq_true_iff]
  constructor
  · rintro ⟨skipped, rest, rfl, fits⟩
    obtain ⟨after, rfl, _⟩ := fitsItems_exactly_append_iff.mp fits
    exact ⟨skipped, after, by simp⟩
  · rintro ⟨skipped, after, rfl⟩
    exact ⟨skipped, value ++ after, by simp,
      fitsItems_exactly_append_iff.mpr ⟨after, rfl, fitsItems_anyText after⟩⟩

end GridQuery.Text
