import GridQuery.Number.Conversion
import GridQuery.Proofs.Number.Rounding

/-!
# Decimals as rational numbers

The order of decimals is that of their exact values, a decimal is a 64-bit
integer exactly if the conversion to one says so, and every decimal has a
finite float, however many roundings lead there.
-/

namespace GridQuery.Number

theorem cast_powerOfTen (exponent : Nat) :
    ((powerOfTen exponent : Nat) : Rat) = 10 ^ exponent := by
  rw [powerOfTen, Nat.pow_eq]
  push_cast
  rfl

theorem powerOfTen_pos (exponent : Nat) : 0 < powerOfTen exponent := by
  rw [powerOfTen, Nat.pow_eq]
  positivity

theorem signedWord?_eq_some_iff {n : Int} {word : Int64} :
    signedWord? n = some word ↔ word.toInt = n := by
  have low := word.le_toInt
  have high := word.toInt_lt
  unfold signedWord?
  split
  · rename_i range
    rw [Option.some.injEq]
    constructor
    · rintro rfl
      exact Int64.toInt_ofInt_of_le (by omega) (by omega)
    · rintro rfl
      exact Int64.ofInt_toInt word
  · constructor
    · intro impossible
      cases impossible
    · rintro rfl
      omega

namespace Decimal

theorem toRat_mul_powerOfTen (d : Decimal) :
    d.toRat * 10 ^ d.scale = d.signedCoefficient := by
  rw [toRat, cast_powerOfTen]
  field_simp

theorem units_eq (d : Decimal) : (d.units : Rat) = d.toRat * 10 ^ maxScale := by
  have split : maxScale = d.scale + (maxScale - d.scale) :=
    (Nat.add_sub_cancel' d.scale_le).symm
  calc
    (d.units : Rat) =
        d.signedCoefficient * 10 ^ (maxScale - d.scale) := by
      rw [units]
      push_cast
      rw [← cast_powerOfTen]
    _ = d.toRat * (10 ^ d.scale * 10 ^ (maxScale - d.scale)) := by
      rw [← toRat_mul_powerOfTen, mul_assoc]
    _ = d.toRat * 10 ^ maxScale := by rw [← pow_add, ← split]

theorem units_lt_units_iff {left right : Decimal} :
    left.units < right.units ↔ left.toRat < right.toRat := by
  have unit : (0 : Rat) < 10 ^ maxScale := by positivity
  rw [← @Int.cast_lt Rat, units_eq, units_eq, mul_lt_mul_iff_left₀ unit]

theorem toRat_ofInt64 (n : Int64) : (ofInt64 n).toRat = n.toInt := by
  have signed : (ofInt64 n).signedCoefficient = n.toInt := by
    simp only [signedCoefficient, ofInt64, decide_eq_true_eq]
    split <;> omega
  have unscaled : (ofInt64 n).scale = 0 := rfl
  rw [toRat, signed, unscaled, cast_powerOfTen]
  simp

/-- The part before the point, with the sign, is a coefficient on its own. -/
theorem signedCoefficient_eq_of_coefficient_eq {d : Decimal} {whole : Nat}
    (coefficient : d.coefficient = whole * powerOfTen d.scale) :
    d.signedCoefficient =
      (if d.negative then -(whole : Int) else whole) * powerOfTen d.scale := by
  rw [signedCoefficient, coefficient]
  split
  · push_cast
    ring
  · push_cast
    ring

theorem toRat_eq_of_toInt64? {d : Decimal} {n : Int64}
    (isWhole : d.isWhole = true) (converted : d.toInt64? = some n) :
    d.toRat = n.toInt := by
  have noFraction : d.coefficient % powerOfTen d.scale = 0 := by
    simpa [Decimal.isWhole, fractionPart] using isWhole
  have coefficient : d.coefficient = d.wholePart * powerOfTen d.scale :=
    (Nat.div_mul_cancel (Nat.dvd_of_mod_eq_zero noFraction)).symm
  have signed := signedCoefficient_eq_of_coefficient_eq coefficient
  rw [← signedWord?_eq_some_iff.mp converted] at signed
  rw [toRat, signed, cast_powerOfTen]
  push_cast
  rw [cast_powerOfTen]
  field_simp

theorem toInt64?_eq_some_of_toRat_eq {d : Decimal} {n : Int64}
    (equal : d.toRat = n.toInt) :
    d.isWhole = true ∧ d.toInt64? = some n := by
  have signed : d.signedCoefficient = n.toInt * powerOfTen d.scale := by
    have rational := toRat_mul_powerOfTen d
    rw [equal, ← cast_powerOfTen] at rational
    exact_mod_cast rational.symm
  have coefficient : d.coefficient = n.toInt.natAbs * powerOfTen d.scale := by
    have sizes := congrArg Int.natAbs signed
    rw [Int.natAbs_mul, Int.natAbs_natCast] at sizes
    rw [← sizes, signedCoefficient]
    split <;> omega
  have whole : d.wholePart = n.toInt.natAbs := by
    rw [wholePart, coefficient, Nat.mul_div_cancel _ (powerOfTen_pos d.scale)]
  have signedWhole : n.toInt =
      if d.negative then -(d.wholePart : Int) else d.wholePart := by
    have product := signedCoefficient_eq_of_coefficient_eq coefficient
    rw [signed, ← whole] at product
    have positive := powerOfTen_pos d.scale
    exact Int.eq_of_mul_eq_mul_right (by omega) product
  constructor
  · simp [isWhole, fractionPart, coefficient]
  · exact signedWord?_eq_some_iff.mpr signedWhole

theorem coefficient_le_pow (d : Decimal) :
    (d.coefficient : Rat) ≤ 2 ^ 96 := by
  have bound := d.coefficient_lt
  simp only [coefficientBound] at bound
  have natural : d.coefficient ≤ 2 ^ 96 := by omega
  exact_mod_cast natural

end Decimal

theorem roundHalfUp_le {x : Rat} (nonneg : 0 ≤ x) :
    (roundHalfUp x : Rat) ≤ x + 1 := by
  have floor_nonneg : 0 ≤ (x + 1 / 2).floor := by
    rw [Rat.le_floor_iff]
    push_cast
    linarith
  have cast : ((roundHalfUp x : Int) : Rat) = ((x + 1 / 2).floor : Rat) := by
    rw [roundHalfUp, Int.toNat_of_nonneg floor_nonneg]
  have floor_le : ((x + 1 / 2).floor : Rat) ≤ x + 1 / 2 :=
    Rat.floor_le _
  have natural : ((roundHalfUp x : Int) : Rat) = (roundHalfUp x : Rat) :=
    Int.cast_natCast _
  linarith

namespace Binary64

theorem nearest_le_pow {size : Rat} {exponent : Nat} (nonneg : 0 ≤ size)
    (bounded : size ≤ 2 ^ exponent) : nearest size ≤ 2 ^ (exponent + 2) := by
  have rounded := nearest_le nonneg
  have unit : (1 : Rat) ≤ 2 ^ exponent := one_le_pow₀ (by norm_num)
  rw [pow_add]
  linarith

/-- The last steps of a conversion: the parts are added, and the sum is
rounded on the scale that they were on. -/
theorem rescaled_le {shift whole fraction : Rat}
    (shift_ge : 1 ≤ shift) (shift_le : shift ≤ 2 ^ 98)
    (whole_nonneg : 0 ≤ whole) (whole_le : whole ≤ 2 ^ 98)
    (fraction_nonneg : 0 ≤ fraction) (fraction_le : fraction ≤ 2 ^ 100) :
    nearest (nearest
      ((roundHalfUp (nearest (nearest (whole + fraction) * shift)) : Nat) :
        Rat) / shift) ≤ 2 ^ 208 := by
  have sum_le : nearest (whole + fraction) ≤ 2 ^ 103 :=
    nearest_le_pow (add_nonneg whole_nonneg fraction_nonneg) (by linarith)
  have sum_nonneg := nearest_nonneg (whole + fraction)
  generalize nearest (whole + fraction) = sum at sum_le sum_nonneg ⊢
  have product_nonneg : 0 ≤ sum * shift :=
    mul_nonneg sum_nonneg (by linarith)
  have product_le : sum * shift ≤ 2 ^ 201 :=
    calc
      sum * shift ≤ 2 ^ 103 * 2 ^ 98 :=
        mul_le_mul sum_le shift_le (by linarith) (by positivity)
      _ = 2 ^ 201 := by rw [← pow_add]
  have rounded_le : nearest (sum * shift) ≤ 2 ^ 203 :=
    nearest_le_pow product_nonneg product_le
  have up_le := roundHalfUp_le (nearest_nonneg (sum * shift))
  generalize roundHalfUp (nearest (sum * shift)) = up at up_le ⊢
  have up_le_pow : (up : Rat) ≤ 2 ^ 204 := by linarith
  have numerator_le := nearest_le_pow (Nat.cast_nonneg up) up_le_pow
  have numerator_nonneg := nearest_nonneg (up : Rat)
  exact nearest_le_pow (div_nonneg numerator_nonneg (by linarith))
    (le_trans (div_le_self numerator_nonneg shift_ge) numerator_le)

end Binary64

namespace Decimal

open Binary64 in
/-- Every decimal has a finite float: no step of the conversion goes beyond
some two hundred binary digits. -/
theorem isFinite_toBinary64 (d : Decimal) : d.toBinary64.isFinite = true := by
  have atMost {n : Nat} (part : n ≤ d.coefficient) : (n : Rat) ≤ 2 ^ 96 :=
    le_trans (by exact_mod_cast part) d.coefficient_le_pow
  have wide {size : Rat} {exponent : Nat} (bounded : size ≤ 2 ^ exponent)
      (small : exponent ≤ 1000) : size ≤ 2 ^ 1000 :=
    le_trans bounded (pow_le_pow_right₀ (by norm_num) small)
  unfold toBinary64
  split
  · have size : d.signedCoefficient.natAbs ≤ d.coefficient := by
      rw [signedCoefficient]
      split <;> omega
    exact isFinite_ofSize _ (Nat.cast_nonneg _) (wide (atMost size) (by omega))
  · dsimp only
    have power : ((powerOfTen d.scale : Nat) : Rat) ≤ 2 ^ 96 := by
      rw [cast_powerOfTen]
      calc
        (10 : Rat) ^ d.scale ≤ 10 ^ 28 :=
          pow_le_pow_right₀ (by norm_num) d.scale_le
        _ ≤ 2 ^ 96 := by norm_num
    have shift_le := nearest_le_pow (Nat.cast_nonneg _) power
    have shift_ge : 1 ≤ nearest ((powerOfTen d.scale : Nat) : Rat) := by
      apply one_le_nearest
      exact_mod_cast powerOfTen_pos d.scale
    have whole_le : nearest (d.wholePart : Rat) ≤ 2 ^ 98 :=
      nearest_le_pow (Nat.cast_nonneg _) (atMost (Nat.div_le_self _ _))
    have part_le : nearest (d.fractionPart : Rat) ≤ 2 ^ 98 :=
      nearest_le_pow (Nat.cast_nonneg _) (atMost (Nat.mod_le _ _))
    have whole_nonneg := nearest_nonneg (d.wholePart : Rat)
    have part_nonneg := nearest_nonneg (d.fractionPart : Rat)
    generalize nearest ((powerOfTen d.scale : Nat) : Rat) = shift
      at shift_le shift_ge ⊢
    generalize nearest (d.wholePart : Rat) = whole
      at whole_le whole_nonneg ⊢
    generalize nearest (d.fractionPart : Rat) = part
      at part_le part_nonneg ⊢
    have fraction_le : nearest (part / shift) ≤ 2 ^ 100 :=
      nearest_le_pow (div_nonneg part_nonneg (by linarith))
        (le_trans (div_le_self part_nonneg shift_ge) part_le)
    have fraction_nonneg := nearest_nonneg (part / shift)
    generalize nearest (part / shift) = fraction
      at fraction_le fraction_nonneg ⊢
    split
    · exact isFinite_ofSize _ whole_nonneg (wide whole_le (by omega))
    · exact isFinite_ofSize _ (nearest_nonneg _)
        (wide (rescaled_le shift_ge shift_le whole_nonneg whole_le
          fraction_nonneg fraction_le) (by omega))

theorem exists_toRat?_toBinary64 (d : Decimal) :
    ∃ value, d.toBinary64.toRat? = some value := by
  rw [Binary64.toRat?, if_pos d.isFinite_toBinary64]
  exact ⟨_, rfl⟩

end Decimal

end GridQuery.Number
