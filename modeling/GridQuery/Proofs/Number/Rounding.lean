import GridQuery.Number.Binary64.Rounding
import Mathlib.Algebra.Order.Field.Rat
import Mathlib.Data.Nat.Cast.Order.Field
import Mathlib.Tactic.FieldSimp
import Mathlib.Tactic.Linarith
import Mathlib.Tactic.NormNum
import Mathlib.Tactic.Ring

/-!
# How far rounding goes

Rough bounds on the sizes that rounding to floats can give, which are all that
it takes to keep the steps of a conversion away from infinity: a rounded size
is at most twice the size and a bit, sizes from one on stay there, and a size
that is not astronomic has a finite float.
-/

namespace GridQuery.Number

theorem le_roundHalfEven (numerator denominator : Nat) :
    numerator / denominator ≤ roundHalfEven numerator denominator := by
  simp only [roundHalfEven]
  split
  · exact Nat.le_refl _
  · split <;> omega

theorem roundHalfEven_le (numerator denominator : Nat) :
    roundHalfEven numerator denominator ≤ numerator / denominator + 1 := by
  simp only [roundHalfEven]
  split
  · omega
  · split <;> omega

namespace Binary64

/-- The whole units of two to the power of minus `places` in a size. -/
def wholeUnits (places : Nat) (size : Rat) : Nat :=
  (size.num.natAbs <<< places) / size.den

theorem roundSize_snd (precision places : Nat) (size : Rat) :
    (roundSize precision places size).2 =
      excessBits precision (wholeUnits places size) := rfl

/-- The significand of a rounded size is the quotient or the next number. -/
theorem roundSize_fst_bounds (precision places : Nat) (size : Rat) :
    wholeUnits places size /
        2 ^ excessBits precision (wholeUnits places size) ≤
      (roundSize precision places size).1 ∧
    (roundSize precision places size).1 ≤
      wholeUnits places size /
        2 ^ excessBits precision (wholeUnits places size) + 1 := by
  have quotient (excess : Nat) :
      (size.num.natAbs <<< places) / (size.den <<< excess) =
        wholeUnits places size / 2 ^ excess := by
    rw [wholeUnits, Nat.shiftLeft_eq size.den, Nat.div_div_eq_div_mul]
  constructor
  · rw [← quotient]
    exact le_roundHalfEven _ _
  · rw [← quotient]
    exact roundHalfEven_le _ _

theorem div_pow_excessBits_lt (precision count : Nat) :
    count / 2 ^ excessBits precision count < 2 ^ precision := by
  rw [Nat.div_lt_iff_lt_mul (Nat.two_pow_pos _), ← Nat.pow_add]
  calc
    count < 2 ^ (Nat.log2 count + 1) := Nat.lt_log2_self
    _ ≤ 2 ^ (precision + excessBits precision count) :=
      Nat.pow_le_pow_right (by decide) (by
        simp only [excessBits]
        omega)

theorem roundSize_fst_le (precision places : Nat) (size : Rat) :
    (roundSize precision places size).1 ≤ 2 ^ precision := by
  have upper := (roundSize_fst_bounds precision places size).2
  have quotient :=
    div_pow_excessBits_lt precision (wholeUnits places size)
  omega

theorem pow_excessBits_le {precision count : Nat} (positive : 0 < precision)
    (nonzero : count ≠ 0) : 2 ^ excessBits precision count ≤ count :=
  calc
    2 ^ excessBits precision count ≤ 2 ^ Nat.log2 count :=
      Nat.pow_le_pow_right (by decide) (by
        simp only [excessBits]
        omega)
    _ ≤ count := Nat.log2_self_le nonzero

theorem roundSize_units_le {precision : Nat} (positive : 0 < precision)
    (places : Nat) (size : Rat) :
    (roundSize precision places size).1 <<<
        (roundSize precision places size).2 ≤
      2 * wholeUnits places size + 1 := by
  have upper := (roundSize_fst_bounds precision places size).2
  rw [roundSize_snd, Nat.shiftLeft_eq]
  generalize wholeUnits places size = count at upper ⊢
  by_cases zero : count = 0
  · have noExcess : excessBits precision count = 0 := by
      simp only [excessBits, zero, Nat.log2_zero]
      omega
    rw [noExcess] at upper ⊢
    omega
  · have excess := pow_excessBits_le positive zero
    calc
      (roundSize precision places size).1 * 2 ^ excessBits precision count
          ≤ (count / 2 ^ excessBits precision count + 1) *
            2 ^ excessBits precision count :=
        Nat.mul_le_mul_right _ upper
      _ = count / 2 ^ excessBits precision count *
            2 ^ excessBits precision count +
            2 ^ excessBits precision count := Nat.succ_mul _ _
      _ ≤ count + count :=
        Nat.add_le_add (Nat.div_mul_le_self _ _) excess
      _ ≤ 2 * count + 1 := by omega

theorem pow_le_roundSize_units {precision places exponent : Nat} {size : Rat}
    (positive : 0 < precision)
    (large : 2 ^ exponent ≤ wholeUnits places size) :
    2 ^ exponent ≤
      (roundSize precision places size).1 <<<
        (roundSize precision places size).2 := by
  have lower := (roundSize_fst_bounds precision places size).1
  rw [roundSize_snd, Nat.shiftLeft_eq]
  generalize wholeUnits places size = count at large lower ⊢
  have nonzero : count ≠ 0 := by
    have pow := Nat.two_pow_pos exponent
    omega
  have exponent_le : exponent ≤ Nat.log2 count :=
    (Nat.le_log2 nonzero).mpr large
  have excess_le : excessBits precision count ≤ Nat.log2 count := by
    simp only [excessBits]
    omega
  have quotient : 2 ^ (Nat.log2 count - excessBits precision count) ≤
      count / 2 ^ excessBits precision count := by
    rw [Nat.le_div_iff_mul_le (Nat.two_pow_pos _), ← Nat.pow_add,
      Nat.sub_add_cancel excess_le]
    exact Nat.log2_self_le nonzero
  calc
    2 ^ exponent ≤ 2 ^ Nat.log2 count :=
      Nat.pow_le_pow_right (by decide) exponent_le
    _ = 2 ^ (Nat.log2 count - excessBits precision count) *
          2 ^ excessBits precision count := by
      rw [← Nat.pow_add, Nat.sub_add_cancel excess_le]
    _ ≤ (roundSize precision places size).1 *
          2 ^ excessBits precision count :=
      Nat.mul_le_mul_right _ (Nat.le_trans quotient lower)

theorem natAbs_num_eq {size : Rat} (nonneg : 0 ≤ size) :
    (size.num.natAbs : Rat) = size * size.den := by
  have num_nonneg : 0 ≤ size.num := Rat.num_nonneg.mpr nonneg
  have cast : ((size.num.natAbs : Int) : Rat) = (size.num : Rat) := by
    rw [Int.natAbs_of_nonneg num_nonneg]
  rw [Rat.mul_den_eq_num, ← cast, Int.cast_natCast]

theorem wholeUnits_le {size : Rat} (nonneg : 0 ≤ size) (places : Nat) :
    (wholeUnits places size : Rat) ≤ size * 2 ^ places := by
  have den_ne : (size.den : Rat) ≠ 0 := by exact_mod_cast size.den_nz
  calc
    (wholeUnits places size : Rat)
        ≤ ((size.num.natAbs <<< places : Nat) : Rat) / size.den :=
      Nat.cast_div_le
    _ = size * size.den * 2 ^ places / size.den := by
      rw [Nat.shiftLeft_eq, ← natAbs_num_eq nonneg]
      push_cast
      rfl
    _ = size * 2 ^ places := by field_simp

theorem le_wholeUnits {size : Rat} {exponent places : Nat}
    (large : 2 ^ exponent ≤ size) :
    2 ^ (exponent + places) ≤ wholeUnits places size := by
  have positive : 0 < size :=
    lt_of_lt_of_le (by positivity) large
  have den_pos : (0 : Rat) < size.den := by exact_mod_cast size.den_pos
  rw [wholeUnits, Nat.le_div_iff_mul_le size.den_pos, Nat.shiftLeft_eq,
    Nat.pow_add, Nat.mul_right_comm]
  apply Nat.mul_le_mul_right
  have numerator : ((2 ^ exponent * size.den : Nat) : Rat) ≤
      ((size.num.natAbs : Nat) : Rat) := by
    rw [natAbs_num_eq positive.le]
    push_cast
    exact mul_le_mul_of_nonneg_right large den_pos.le
  exact_mod_cast numerator

theorem cast_shiftLeft_one (places : Nat) :
    (((1 : Nat) <<< places : Nat) : Rat) = 2 ^ places := by
  rw [Nat.shiftLeft_eq]
  push_cast
  ring

theorem roundSize_le {precision : Nat} (positive : 0 < precision)
    (places : Nat) {size : Rat} (nonneg : 0 ≤ size) :
    (((roundSize precision places size).1 <<<
        (roundSize precision places size).2 : Nat) : Rat) ≤
      (2 * size + 1) * 2 ^ places := by
  have units : (((roundSize precision places size).1 <<<
      (roundSize precision places size).2 : Nat) : Rat) ≤
        2 * (wholeUnits places size : Rat) + 1 := by
    exact_mod_cast roundSize_units_le positive places size
  have whole := wholeUnits_le nonneg places
  have unit : (1 : Rat) ≤ 2 ^ places := one_le_pow₀ (by norm_num)
  linarith

theorem pow_le_roundSize {precision : Nat} (positive : 0 < precision)
    (places : Nat) {size : Rat} (large : 1 ≤ size) :
    (2 : Rat) ^ places ≤ (((roundSize precision places size).1 <<<
      (roundSize precision places size).2 : Nat) : Rat) := by
  have whole : 2 ^ (0 + places) ≤ wholeUnits places size :=
    le_wholeUnits (by simpa using large)
  rw [Nat.zero_add] at whole
  exact_mod_cast pow_le_roundSize_units positive whole

theorem roundSize_snd_le {precision places exponent : Nat} {size : Rat}
    (nonneg : 0 ≤ size) (bounded : size ≤ 2 ^ exponent) :
    (roundSize precision places size).2 ≤
      exponent + places + 1 - precision := by
  have whole : wholeUnits places size ≤ 2 ^ (exponent + places) := by
    have cast : (wholeUnits places size : Rat) ≤ 2 ^ (exponent + places) :=
      calc
        (wholeUnits places size : Rat) ≤ size * 2 ^ places :=
          wholeUnits_le nonneg places
        _ ≤ 2 ^ exponent * 2 ^ places :=
          mul_le_mul_of_nonneg_right bounded (by positivity)
        _ = 2 ^ (exponent + places) := by rw [← pow_add]
    exact_mod_cast cast
  have log : Nat.log2 (wholeUnits places size) < exponent + places + 1 := by
    by_cases zero : wholeUnits places size = 0
    · rw [zero, Nat.log2_zero]
      omega
    · rw [Nat.log2_lt zero]
      exact Nat.lt_of_le_of_lt whole
        (Nat.pow_lt_pow_right (by decide) (Nat.lt_succ_self _))
  rw [roundSize_snd]
  simp only [excessBits]
  omega

theorem nearest_le {size : Rat} (nonneg : 0 ≤ size) :
    nearest size ≤ 2 * size + 1 := by
  simp only [nearest]
  rw [cast_shiftLeft_one, div_le_iff₀ (by positivity)]
  exact roundSize_le (by decide) 1074 nonneg

theorem nearest_nonneg (size : Rat) : 0 ≤ nearest size := by
  simp only [nearest]
  positivity

theorem one_le_nearest {size : Rat} (large : 1 ≤ size) :
    1 ≤ nearest size := by
  simp only [nearest]
  rw [cast_shiftLeft_one, le_div_iff₀ (by positivity), one_mul]
  exact pow_le_roundSize (by decide) 1074 large

/-- A size of at most two to the power of 1000 has a finite float. -/
theorem isFinite_ofSize (negative : Bool) {size : Rat} (nonneg : 0 ≤ size)
    (bounded : size ≤ 2 ^ 1000) : (ofSize negative size).isFinite = true := by
  have significand := roundSize_fst_le 53 1074 size
  have doublings : (roundSize 53 1074 size).2 ≤ 1000 + 1074 + 1 - 53 :=
    roundSize_snd_le nonneg bounded
  have magnitude : (ofSize negative size).magnitude =
      min ((roundSize 53 1074 size).2 * leastNormal +
        (roundSize 53 1074 size).1) infiniteMagnitude %
          0x8000000000000000 := rfl
  rw [isFinite, decide_eq_true_iff, magnitude]
  simp only [leastNormal, infiniteMagnitude]
  omega

end Binary64

end GridQuery.Number
