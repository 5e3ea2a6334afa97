import GridQuery.Proofs.Number.Integer
import GridQuery.Number.Decimal.Reader

/-!
# Reading numbers back from their text

An integer is read from its own text.  So is a decimal, up to the sign of a
zero: its digits never exceed the coefficients and the places that the reader
has room for, so that nothing is rounded, not even at the last place.
-/

namespace GridQuery.Number

theorem integer?_integerText (n : Int) : integer? (integerText n) = some n := by
  unfold integerText
  split
  · rename_i negative
    have value : -(n.natAbs : Int) = n := by omega
    rw [integer?, natural?_digits]
    exact congrArg some value
  · rw [integer?_digits, Option.some.injEq]
    omega

theorem readSigned?_signedText (n : Int64) :
    readSigned? (signedText n) = some n := by
  rw [readSigned?, signedText, integer?_integerText, Option.bind_some]
  exact signedWord?_eq_some_iff.mpr rfl

theorem le_ofDigitChars (text : List Char) (start : Nat) :
    start ≤ Nat.ofDigitChars 10 text start := by
  rw [Nat.ofDigitChars_eq_ofDigitChars_zero]
  have positive : 0 < 10 ^ text.length := by positivity
  exact Nat.le_add_right_of_le (Nat.le_mul_of_pos_left start positive)

theorem ofDigitChars_digits (n start : Nat) :
    Nat.ofDigitChars 10 (digits n) start =
      10 ^ (digits n).length * start + n := by
  rw [Nat.ofDigitChars_eq_ofDigitChars_zero]
  exact congrArg _ (digitsValue_digits n)

theorem isDigit_of_mem_paddedDigits {width n : Nat} {c : Char}
    (member : c ∈ paddedDigits width n) : c.isDigit = true := by
  rcases List.mem_append.mp member with zero | digit
  · rw [List.eq_of_mem_replicate zero]
    rfl
  · exact isDigit_of_mem_digits digit

/-- Whether a character is a digit or a minus. -/
def writesIntegers (c : Char) : Bool :=
  c.isDigit || c == '-'

theorem writesIntegers_of_isDigit {c : Char} (isDigit : c.isDigit = true) :
    writesIntegers c = true := by
  rw [writesIntegers, isDigit, Bool.true_or]

theorem isBlank_eq_false_of_writesIntegers {c : Char}
    (writes : writesIntegers c = true) : Text.isBlank c = false := by
  rcases Bool.or_eq_true_iff.mp writes with isDigit | minus
  · exact isBlank_eq_false_of_isDigit isDigit
  · rw [beq_iff_eq.mp minus]
    rfl

theorem writesIntegers_of_mem_integerText {n : Int} {c : Char}
    (member : c ∈ integerText n) : writesIntegers c = true := by
  unfold integerText at member
  split at member
  · rcases List.mem_cons.mp member with minus | digit
    · rw [minus]
      rfl
    · exact writesIntegers_of_isDigit (isDigit_of_mem_digits digit)
  · exact writesIntegers_of_isDigit (isDigit_of_mem_digits member)

theorem length_paddedDigits {width n : Nat} (positive : 0 < width)
    (fits : n < 10 ^ width) : (paddedDigits width n).length = width := by
  have short : (digits n).length ≤ width :=
    (Nat.length_toDigits_le_iff (by omega) positive).mpr fits
  rw [paddedDigits, List.length_append, List.length_replicate]
  omega

theorem ofDigitChars_paddedDigits (width n start : Nat) :
    Nat.ofDigitChars 10 (paddedDigits width n) start =
      10 ^ (paddedDigits width n).length * start + n := by
  rw [paddedDigits, Nat.ofDigitChars_append, Nat.ofDigitChars_replicate_zero,
    ofDigitChars_digits, List.length_append, List.length_replicate, pow_add]
  ring

namespace Decimal

variable {text rest : List Char} {coefficient scale : Nat} {started : Bool}

/-- Digits before the point are all taken up, if their number fits. -/
theorem readMagnitude_whole (allDigits : ∀ c ∈ text, c.isDigit = true)
    (fits : Nat.ofDigitChars 10 text coefficient < coefficientBound) :
    readMagnitude ⟨coefficient, 0, false, started⟩ (text ++ rest) =
      readMagnitude ⟨Nat.ofDigitChars 10 text coefficient, 0, false,
        started || !text.isEmpty⟩ rest := by
  induction text generalizing coefficient started with
  | nil => simp
  | cons c text induction =>
      obtain ⟨isDigit, restDigits⟩ := List.forall_mem_cons.mp allDigits
      rw [Nat.ofDigitChars_cons, Nat.mul_comm] at fits
      have room := lt_of_le_of_lt (le_ofDigitChars text _) fits
      rw [List.cons_append, readMagnitude]
      simp only [digit?, isDigit, if_true]
      rw [if_neg (Nat.not_le_of_lt room)]
      simp only [Bool.false_and, Bool.false_eq_true, if_false]
      rw [induction restDigits fits, Nat.ofDigitChars_cons, Nat.mul_comm]
      simp

/-- Digits after the point are all taken up, if their number fits and there
are places enough for them. -/
theorem readMagnitude_fraction (allDigits : ∀ c ∈ text, c.isDigit = true)
    (fits : Nat.ofDigitChars 10 text coefficient < coefficientBound)
    (places : scale + text.length ≤ maxScale) :
    readMagnitude ⟨coefficient, scale, true, true⟩ text =
      some (Nat.ofDigitChars 10 text coefficient, scale + text.length) := by
  induction text generalizing coefficient scale with
  | nil => rfl
  | cons c text induction =>
      obtain ⟨isDigit, restDigits⟩ := List.forall_mem_cons.mp allDigits
      rw [Nat.ofDigitChars_cons, Nat.mul_comm] at fits ⊢
      rw [List.length_cons] at places ⊢
      have room := lt_of_le_of_lt (le_ofDigitChars text _) fits
      rw [readMagnitude]
      simp only [digit?, isDigit, if_true]
      rw [if_neg (Nat.not_le_of_lt room)]
      by_cases full : maxScale ≤ scale + 1
      · have finished : text = [] := List.length_eq_zero_iff.mp (by omega)
        subst finished
        simp [full, finishFull, roundAt, roundOn]
      · have restPlaces : scale + 1 + text.length ≤ maxScale := by omega
        simp only [full, Bool.true_and, decide_false, Bool.false_eq_true,
          if_false]
        rw [induction restDigits fits restPlaces, Nat.add_right_comm,
          Nat.add_assoc]

/-- The text of the part after the point, with the point. -/
def fractionText (d : Decimal) : List Char :=
  if d.scale = 0 then [] else '.' :: paddedDigits d.scale d.fractionPart

theorem text_eq (d : Decimal) :
    d.text = (if d.negative then ['-'] else []) ++
      (digits d.wholePart ++ d.fractionText) := by
  rw [text, List.append_assoc, fractionText]

theorem writesIntegers_or_point_of_mem_text {d : Decimal} {c : Char}
    (member : c ∈ d.text) : writesIntegers c = true ∨ c = '.' := by
  rw [text_eq, List.mem_append, List.mem_append] at member
  rcases member with sign | whole | fraction
  · split at sign
    · rw [List.mem_singleton.mp sign]
      exact .inl rfl
    · cases sign
  · exact .inl (writesIntegers_of_isDigit (isDigit_of_mem_digits whole))
  · unfold fractionText at fraction
    split at fraction
    · cases fraction
    · rcases List.mem_cons.mp fraction with point | digit
      · exact .inr point
      · exact .inl
          (writesIntegers_of_isDigit (isDigit_of_mem_paddedDigits digit))

theorem readMagnitude_digits (d : Decimal) :
    readMagnitude ⟨0, 0, false, false⟩ (digits d.wholePart ++ d.fractionText) =
      some (d.coefficient, d.scale) := by
  have wholeValue : Nat.ofDigitChars 10 (digits d.wholePart) 0 = d.wholePart :=
    digitsValue_digits d.wholePart
  have wholeFits : d.wholePart < coefficientBound :=
    lt_of_le_of_lt (Nat.div_le_self _ _) d.coefficient_lt
  have written : (digits d.wholePart).isEmpty = false := by
    simpa [List.isEmpty_eq_false_iff] using digits_ne_nil d.wholePart
  rw [readMagnitude_whole (fun c => isDigit_of_mem_digits)
    (wholeValue.symm ▸ wholeFits), wholeValue, written]
  unfold fractionText
  split
  · rename_i unscaled
    have whole : d.wholePart = d.coefficient := by
      rw [wholePart, unscaled]
      exact Nat.div_one d.coefficient
    rw [whole, unscaled]
    rfl
  · rename_i scaled
    have length : (paddedDigits d.scale d.fractionPart).length = d.scale :=
      length_paddedDigits (Nat.pos_of_ne_zero scaled)
        (Nat.mod_lt _ (powerOfTen_pos d.scale))
    have value : Nat.ofDigitChars 10 (paddedDigits d.scale d.fractionPart)
        d.wholePart = d.coefficient := by
      rw [ofDigitChars_paddedDigits, length]
      exact Nat.div_add_mod d.coefficient (powerOfTen d.scale)
    have places : 0 + (paddedDigits d.scale d.fractionPart).length ≤
        maxScale := by
      rw [length, Nat.zero_add]
      exact d.scale_le
    have read := readMagnitude_fraction
      (fun c => isDigit_of_mem_paddedDigits)
      (value.symm ▸ d.coefficient_lt) places
    rw [value, length, Nat.zero_add] at read
    exact read

theorem readPlain?_text (d : Decimal) :
    readPlain? d.text = ofMagnitude? d.negative (d.coefficient, d.scale) := by
  have magnitude := readMagnitude_digits d
  rw [text_eq]
  cases d.negative with
  | true =>
      rw [if_pos rfl, List.singleton_append, readPlain?, magnitude,
        Option.bind_some]
  | false =>
      obtain ⟨c, rest, digitsShape, isDigit⟩ := head_digits d.wholePart
      rw [digitsShape] at magnitude ⊢
      simp only [Bool.false_eq_true, if_false, List.nil_append,
        List.cons_append] at magnitude ⊢
      unfold readPlain?
      split
      · rename_i minus
        cases minus
        cases isDigit
      · rename_i plus
        cases plus
        cases isDigit
      · rw [magnitude, Option.bind_some]

/-- A decimal as its text is read: a zero has lost its sign. -/
def withoutZeroSign (d : Decimal) : Decimal :=
  { d with negative := d.negative && d.coefficient != 0 }

theorem signedCoefficient_withoutZeroSign (d : Decimal) :
    d.withoutZeroSign.signedCoefficient = d.signedCoefficient := by
  unfold signedCoefficient withoutZeroSign
  by_cases zero : d.coefficient = 0
  · simp [zero]
  · simp [zero]

theorem toRat_withoutZeroSign (d : Decimal) :
    d.withoutZeroSign.toRat = d.toRat := by
  rw [toRat, signedCoefficient_withoutZeroSign]
  rfl

theorem read?_text (d : Decimal) : read? d.text = some d.withoutZeroSign := by
  have range : d.coefficient < coefficientBound ∧ d.scale ≤ maxScale :=
    ⟨d.coefficient_lt, d.scale_le⟩
  rw [read?, readPlain?_text, ofMagnitude?, ofParts?, dif_pos range]
  rfl

end Decimal

end GridQuery.Number
