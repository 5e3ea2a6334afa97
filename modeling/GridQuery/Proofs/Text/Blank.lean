import GridQuery.Text.Blank

/-!
# Texts between blanks

Trimming takes a text out of the blanks around it.  A text that begins and ends
with other characters is what it leaves, whatever blanks are inside.
-/

namespace GridQuery.Text

/-- Whether a text consists of blanks alone. -/
def Blank (text : List Char) : Prop :=
  ∀ c ∈ text, isBlank c = true

instance (text : List Char) : Decidable (Blank text) :=
  List.decidableBAll (fun c => isBlank c = true) text

theorem blank_nil : Blank [] := by
  simp [Blank]

/-- The text neither begins nor ends with a blank, and it is not empty. -/
structure Solid (text : List Char) : Prop where
  head : ∃ c rest, text = c :: rest ∧ isBlank c = false
  last : ∃ rest c, text = rest ++ [c] ∧ isBlank c = false

namespace Solid

variable {left middle right text before after : List Char}

theorem ne_nil (solid : Solid text) : text ≠ [] := by
  obtain ⟨c, rest, rfl, -⟩ := solid.head
  simp

theorem append (leftSolid : Solid left) (rightSolid : Solid right)
    (middle : List Char) : Solid (left ++ middle ++ right) := by
  obtain ⟨first, leftRest, rfl, firstVisible⟩ := leftSolid.head
  obtain ⟨rightRest, last, rfl, lastVisible⟩ := rightSolid.last
  exact ⟨⟨first, _, rfl, firstVisible⟩,
    ⟨first :: leftRest ++ middle ++ rightRest, last, by simp, lastVisible⟩⟩

theorem trim_surrounded (solid : Solid text) (beforeBlank : Blank before)
    (afterBlank : Blank after) : trim (before ++ text ++ after) = text := by
  have start : trimStart (before ++ text ++ after) = text ++ after := by
    obtain ⟨c, rest, rfl, visible⟩ := solid.head
    rw [trimStart, List.append_assoc,
      List.dropWhile_append_of_pos beforeBlank]
    simp [visible]
  obtain ⟨rest, c, rfl, visible⟩ := solid.last
  have afterBlank : ∀ c ∈ after.reverse, isBlank c = true := by
    simpa [Blank] using afterBlank
  rw [trim, start, trimEnd, List.reverse_append,
    List.dropWhile_append_of_pos afterBlank]
  simp [visible]

theorem trim_eq (solid : Solid text) : trim text = text := by
  simpa using solid.trim_surrounded blank_nil blank_nil

end Solid

/-- A text is blank, or it is a solid one with blanks around it. -/
theorem blank_or_exists_solid (text : List Char) :
    Blank text ∨ ∃ before core after, text = before ++ core ++ after ∧
      Blank before ∧ Blank after ∧ Solid core := by
  induction text with
  | nil => exact .inl (by simp [Blank])
  | cons c text induction =>
      by_cases visible : isBlank c = false
      · refine .inr ?_
        rcases induction with
          blank | ⟨before, core, after, rfl, -, afterBlank, solid⟩
        · exact ⟨[], [c], text, rfl, by simp [Blank], blank,
            ⟨c, [], rfl, visible⟩, ⟨[], c, rfl, visible⟩⟩
        · obtain ⟨rest, last, rfl, lastVisible⟩ := solid.last
          exact ⟨[], c :: before ++ (rest ++ [last]), after, by simp,
            by simp [Blank], afterBlank, ⟨c, _, rfl, visible⟩,
            ⟨c :: before ++ rest, last, by simp, lastVisible⟩⟩
      · have blankHead : isBlank c = true := by simpa using visible
        rcases induction with
          blank | ⟨before, core, after, rfl, beforeBlank, afterBlank, solid⟩
        · exact .inl (List.forall_mem_cons.mpr ⟨blankHead, blank⟩)
        · exact .inr ⟨c :: before, core, after, by simp,
            List.forall_mem_cons.mpr ⟨blankHead, beforeBlank⟩, afterBlank,
            solid⟩

theorem trim_eq_nil_of_blank {text : List Char} (blank : Blank text) :
    trim text = [] := by
  have start : trimStart text = [] :=
    calc
      trimStart text = (text ++ []).dropWhile isBlank := by
        rw [List.append_nil, trimStart]
      _ = [] := List.dropWhile_append_of_pos blank
  rw [trim, start]
  rfl

theorem trim_eq_nil_iff {text : List Char} : trim text = [] ↔ Blank text := by
  constructor
  · intro nothing
    rcases blank_or_exists_solid text with
      blank | ⟨before, core, after, rfl, beforeBlank, afterBlank, solid⟩
    · exact blank
    · rw [solid.trim_surrounded beforeBlank afterBlank] at nothing
      exact absurd nothing solid.ne_nil
  · exact trim_eq_nil_of_blank

theorem trim_surrounded_of_blank {before after : List Char}
    (beforeBlank : Blank before) (afterBlank : Blank after)
    (text : List Char) : trim (before ++ text ++ after) = trim text := by
  rcases blank_or_exists_solid text with
    blank | ⟨inner, core, outer, rfl, innerBlank, outerBlank, solid⟩
  · have whole : Blank (before ++ text ++ after) := by
      simpa [Blank, or_imp, forall_and] using ⟨beforeBlank, blank, afterBlank⟩
    rw [trim_eq_nil_of_blank blank, trim_eq_nil_of_blank whole]
  · have start : Blank (before ++ inner) :=
      List.forall_mem_append.mpr ⟨beforeBlank, innerBlank⟩
    have finish : Blank (outer ++ after) :=
      List.forall_mem_append.mpr ⟨outerBlank, afterBlank⟩
    rw [solid.trim_surrounded innerBlank outerBlank]
    simpa using solid.trim_surrounded start finish

/-- Trimming keeps a text at the beginning of another one: the blanks at its
end are either inside the other text, or at its end as well. -/
theorem trim_prefix_trim {left right : List Char} (start : left <+: right) :
    trim left <+: trim right := by
  obtain ⟨rest, rfl⟩ := start
  rcases blank_or_exists_solid left with
    blank | ⟨before, core, after, rfl, beforeBlank, afterBlank, solid⟩
  · rw [trim_eq_nil_of_blank blank]
    exact List.nil_prefix
  rw [solid.trim_surrounded beforeBlank afterBlank, List.append_assoc]
  rcases blank_or_exists_solid (after ++ rest) with
    blank | ⟨between, core', after', shape, -, afterBlank', solid'⟩
  · have whole := solid.trim_surrounded beforeBlank blank
    exact ⟨[], (List.append_nil core).trans whole.symm⟩
  · have whole := (solid.append solid' between).trim_surrounded beforeBlank
      afterBlank'
    rw [shape]
    simp only [List.append_assoc] at whole ⊢
    rw [whole]
    exact List.prefix_append core _

theorem trim_sublist (text : List Char) : (trim text).Sublist text := by
  rcases blank_or_exists_solid text with
    blank | ⟨before, core, after, rfl, beforeBlank, afterBlank, solid⟩
  · rw [trim_eq_nil_of_blank blank]
    exact List.nil_sublist text
  · rw [solid.trim_surrounded beforeBlank afterBlank, List.append_assoc]
    exact (List.sublist_append_left core after).trans
      (List.sublist_append_right before _)

/-- Trimming texts that are joined trims the first at its start and the last
at its end, unless one of them is blank. -/
theorem exists_trim_joined {left right : List Char}
    (leftWritten : trim left ≠ [])
    (rightWritten : trim right ≠ []) (separator : List Char) :
    ∃ first last, trim (left ++ separator ++ right) =
        first ++ separator ++ last ∧
      (first ⊆ left ∧ trim first = trim left) ∧
      (last ⊆ right ∧ trim last = trim right) := by
  rcases blank_or_exists_solid left with
    blank | ⟨before, core, after, rfl, beforeBlank, afterBlank, solid⟩
  · exact absurd (trim_eq_nil_of_blank blank) leftWritten
  rcases blank_or_exists_solid right with
    blank | ⟨before', core', after', rfl, beforeBlank', afterBlank', solid'⟩
  · exact absurd (trim_eq_nil_of_blank blank) rightWritten
  have joined := (solid.append solid' (after ++ separator ++ before'))
    |>.trim_surrounded beforeBlank afterBlank'
  refine ⟨core ++ after, before' ++ core', ?_, ⟨?_, ?_⟩, ?_, ?_⟩
  · simpa using joined
  · simp
  · rw [solid.trim_surrounded beforeBlank afterBlank]
    simpa using solid.trim_surrounded blank_nil afterBlank
  · simp
  · rw [solid'.trim_surrounded beforeBlank' afterBlank']
    simpa using solid'.trim_surrounded beforeBlank' blank_nil

theorem trim_joined_ne_nil {left right : List Char}
    (leftWritten : trim left ≠ [])
    (rightWritten : trim right ≠ []) (separator : List Char) :
    trim (left ++ separator ++ right) ≠ [] := by
  obtain ⟨first, last, joined, ⟨-, firstTrim⟩, -⟩ :=
    exists_trim_joined leftWritten rightWritten separator
  rw [joined]
  intro empty
  have nothing : first = [] := (List.append_eq_nil_iff.mp
    (List.append_eq_nil_iff.mp empty).1).1
  rw [nothing, trim_nil] at firstTrim
  exact leftWritten firstTrim.symm

theorem solid_iff {text : List Char} :
    Solid text ↔ text ≠ [] ∧ trim text = text := by
  constructor
  · intro solid
    exact ⟨solid.ne_nil, solid.trim_eq⟩
  · rintro ⟨nonempty, trimmed⟩
    rcases blank_or_exists_solid text with
      blank | ⟨before, core, after, rfl, beforeBlank, afterBlank, solid⟩
    · exact absurd (trimmed.symm.trans (trim_eq_nil_of_blank blank)) nonempty
    · rw [solid.trim_surrounded beforeBlank afterBlank] at trimmed
      exact trimmed ▸ solid

theorem trim_trim (text : List Char) : trim (trim text) = trim text := by
  rcases blank_or_exists_solid text with
    blank | ⟨before, core, after, rfl, beforeBlank, afterBlank, solid⟩
  · rw [trim_eq_nil_of_blank blank]
    rfl
  · rw [solid.trim_surrounded beforeBlank afterBlank, solid.trim_eq]

theorem trim_eq_of_forall_not_isBlank {text : List Char}
    (visible : ∀ c ∈ text, isBlank c = false) : trim text = text := by
  have start (list : List Char) (listed : ∀ c ∈ list, c ∈ text) :
      list.dropWhile isBlank = list := by
    cases list with
    | nil => rfl
    | cons c rest => simp [visible c (listed c List.mem_cons_self)]
  rw [trim, trimStart, start text (fun _ member => member), trimEnd,
    start text.reverse (fun _ member => List.mem_reverse.mp member),
    List.reverse_reverse]

theorem solid_of_forall_not_isBlank {text : List Char} (nonempty : text ≠ [])
    (visible : ∀ c ∈ text, isBlank c = false) : Solid text :=
  solid_iff.mpr ⟨nonempty, trim_eq_of_forall_not_isBlank visible⟩

theorem filter_trim {passes : Char → Bool}
    (noBlank : ∀ c, isBlank c = true → passes c = false) (text : List Char) :
    (trim text).filter passes = text.filter passes := by
  have blank {part : List Char} (partBlank : Blank part) :
      part.filter passes = [] := by
    rw [List.filter_eq_nil_iff]
    intro c member
    simp [noBlank c (partBlank c member)]
  rcases blank_or_exists_solid text with
    textBlank | ⟨before, core, after, rfl, beforeBlank, afterBlank, solid⟩
  · rw [trim_eq_nil_of_blank textBlank, blank textBlank, List.filter_nil]
  · rw [solid.trim_surrounded beforeBlank afterBlank, List.filter_append,
      List.filter_append, blank beforeBlank, blank afterBlank,
      List.nil_append, List.append_nil]

theorem trimmed_eq_empty_iff {text : String} :
    trimmed text = "" ↔ trim text.toList = [] := by
  rw [← String.toList_inj, toList_trimmed]
  rfl

end GridQuery.Text
