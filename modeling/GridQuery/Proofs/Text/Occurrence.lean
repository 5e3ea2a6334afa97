import GridQuery.Text.Occurrence

/-!
# Joined texts and their pieces

A text begins or ends with another one exactly if it is put together from that
one and what is left.  Pieces joined by a separator come apart again into the
same pieces, if none of them has a character of the separator in it.
-/

namespace GridQuery.Text

theorem dropStart?_eq_some_iff {start text rest : List Char} :
    dropStart? start text = some rest ↔ text = start ++ rest := by
  unfold dropStart?
  constructor
  · intro found
    split at found
    · rename_i begins
      cases found
      obtain ⟨rest, rfl⟩ := List.isPrefixOf_iff_prefix.mp begins
      simp
    · cases found
  · rintro rfl
    have begins : start.isPrefixOf (start ++ rest) = true :=
      List.isPrefixOf_iff_prefix.mpr (List.prefix_append start rest)
    simp [begins]

theorem dropTail?_eq_some_iff {tail text rest : List Char} :
    dropTail? tail text = some rest ↔ text = rest ++ tail := by
  unfold dropTail?
  constructor
  · intro found
    split at found
    · rename_i ends
      cases found
      obtain ⟨rest, rfl⟩ := List.isSuffixOf_iff_suffix.mp ends
      simp
    · cases found
  · rintro rfl
    have ends : tail.isSuffixOf (rest ++ tail) = true :=
      List.isSuffixOf_iff_suffix.mpr (List.suffix_append rest tail)
    simp [ends]

/-- Texts that have a mark in them begin alike up to the first one. -/
theorem append_cons_inj {mark : Char} {left right after after' : List Char}
    (leftFree : mark ∉ left) (rightFree : mark ∉ right) :
    left ++ mark :: after = right ++ mark :: after' ↔
      left = right ∧ after = after' := by
  constructor
  · intro same
    induction left generalizing right with
    | nil =>
        cases right with
        | nil => exact ⟨rfl, (List.cons.inj same).2⟩
        | cons c right =>
            obtain ⟨rfl, -⟩ := List.cons.inj same
            exact absurd List.mem_cons_self rightFree
    | cons c left induction =>
        cases right with
        | nil =>
            obtain ⟨rfl, -⟩ := List.cons.inj same
            exact absurd List.mem_cons_self leftFree
        | cons d right =>
            obtain ⟨rfl, rest⟩ := List.cons.inj same
            have ⟨restLeft, restAfter⟩ := induction
              (fun member => leftFree (List.mem_cons_of_mem c member))
              (fun member => rightFree (List.mem_cons_of_mem c member)) rest
            exact ⟨by rw [restLeft], restAfter⟩
  · rintro ⟨rfl, rfl⟩
    rfl

/-- A piece has no character of a separator. -/
def Avoids (separator piece : List Char) : Prop :=
  ∀ c ∈ separator, c ∉ piece

instance (separator piece : List Char) : Decidable (Avoids separator piece) :=
  List.decidableBAll (fun c => c ∉ piece) separator

theorem avoids_nil (separator : List Char) : Avoids separator [] := by
  simp [Avoids]

theorem Avoids.subset {separator piece part : List Char}
    (avoids : Avoids separator piece) (within : part ⊆ piece) :
    Avoids separator part := by
  intro c member inPart
  exact avoids c member (within inPart)

section Splitting

variable {separator piece rest : List Char}

theorem avoids_cons {c : Char} (avoids : Avoids separator (c :: piece)) :
    c ∉ separator ∧ Avoids separator piece := by
  constructor
  · intro member
    exact avoids c member List.mem_cons_self
  · intro d member inPiece
    exact avoids d member (List.mem_cons_of_mem c inPiece)

theorem isPrefixOf_cons_of_not_mem {c : Char} (nonempty : separator ≠ [])
    (absent : c ∉ separator) : separator.isPrefixOf (c :: rest) = false := by
  cases separator with
  | nil => exact absurd rfl nonempty
  | cons mark separator =>
      have different : mark ≠ c := fun same => absent (by simp [same])
      simp [List.isPrefixOf, different]

/-- The characters of an occurrence already seen are passed over. -/
theorem pieces_append_of_length (seen rest : List Char) :
    pieces separator seen.length (seen ++ rest) =
      pieces separator 0 rest := by
  induction seen with
  | nil => rfl
  | cons c seen induction => exact induction

theorem pieces_piece (nonempty : separator ≠ [])
    (avoids : Avoids separator piece) :
    pieces separator 0 piece = [piece] := by
  induction piece with
  | nil => rfl
  | cons c piece induction =>
      obtain ⟨absent, avoidsRest⟩ := avoids_cons avoids
      rw [pieces, isPrefixOf_cons_of_not_mem nonempty absent,
        induction avoidsRest]
      rfl

theorem pieces_piece_append (nonempty : separator ≠ [])
    (avoids : Avoids separator piece) (rest : List Char) :
    pieces separator 0 (piece ++ (separator ++ rest)) =
      piece :: pieces separator 0 rest := by
  induction piece with
  | nil =>
      obtain ⟨mark, marks, rfl⟩ := List.exists_cons_of_ne_nil nonempty
      have begins : (mark :: marks).isPrefixOf (mark :: (marks ++ rest)) =
          true :=
        List.isPrefixOf_iff_prefix.mpr (List.prefix_append (mark :: marks) rest)
      have passed : (mark :: marks).length - 1 = marks.length := by simp
      rw [List.nil_append, List.cons_append, pieces, if_pos begins, passed,
        pieces_append_of_length]
  | cons c piece induction =>
      obtain ⟨absent, avoidsRest⟩ := avoids_cons avoids
      rw [List.cons_append, pieces,
        isPrefixOf_cons_of_not_mem nonempty absent, induction avoidsRest]
      rfl

theorem splitOn_eq_pieces (nonempty : separator ≠ []) (text : List Char) :
    splitOn separator text = pieces separator 0 text := by
  cases separator with
  | nil => exact absurd rfl nonempty
  | cons mark marks => rfl

theorem splitOn_intercalate (nonempty : separator ≠ [])
    {joined : List (List Char)} (somePiece : joined ≠ [])
    (avoid : ∀ piece ∈ joined, Avoids separator piece) :
    splitOn separator (separator.intercalate joined) = joined := by
  rw [splitOn_eq_pieces nonempty]
  induction joined with
  | nil => exact absurd rfl somePiece
  | cons first others induction =>
      obtain ⟨avoidsFirst, avoidOthers⟩ := List.forall_mem_cons.mp avoid
      cases others with
      | nil =>
          simpa [List.intercalate] using pieces_piece nonempty avoidsFirst
      | cons second others =>
          rw [List.intercalate_cons_cons, List.append_assoc,
            pieces_piece_append nonempty avoidsFirst,
            induction (by simp) avoidOthers]

theorem splitOn_two {first last : List Char} (nonempty : separator ≠ [])
    (firstAvoids : Avoids separator first)
    (lastAvoids : Avoids separator last) :
    splitOn separator (first ++ separator ++ last) = [first, last] := by
  have avoid : ∀ piece ∈ [first, last], Avoids separator piece := by
    simp [firstAvoids, lastAvoids]
  simpa [List.intercalate] using
    splitOn_intercalate nonempty (List.cons_ne_nil _ _) avoid

theorem length_le_countP_of_occurs {text : List Char}
    (occurs : separator <:+: text) :
    separator.length ≤ text.countP (· ∈ separator) := by
  have own : separator.countP (· ∈ separator) = separator.length :=
    List.countP_eq_length.mpr (by simp)
  rw [← own]
  exact occurs.sublist.countP_le

/-- A separator does not occur in a text that has too few of its characters. -/
theorem splitOn_of_countP_lt {text : List Char}
    (few : text.countP (· ∈ separator) < separator.length) :
    splitOn separator text = [text] := by
  have nonempty : separator ≠ [] := by
    rintro rfl
    simp at few
  rw [splitOn_eq_pieces nonempty]
  induction text with
  | nil => rfl
  | cons c rest induction =>
      have fewer : rest.countP (· ∈ separator) < separator.length :=
        Nat.lt_of_le_of_lt (List.sublist_cons_self c rest).countP_le few
      have elsewhere : ¬ separator.isPrefixOf (c :: rest) = true := by
        intro begins
        have occurs := (List.isPrefixOf_iff_prefix.mp begins).isInfix
        exact Nat.not_lt.mpr (length_le_countP_of_occurs occurs) few
      rw [pieces, if_neg elsewhere, induction fewer]
      rfl

end Splitting

end GridQuery.Text
