import PettyFlow.Foundation.DoubleText

/-! How far doubles are from the quotients they stand for, and products that round back to whole
numbers.
-/

namespace Foundation

/-- A quotient that is within a half of a whole number rounds to it. -/
theorem roundHalfEven_eq {num den whole : Nat} (above : 2 * whole * den < 2 * num + den)
    (below : 2 * num < 2 * whole * den + den)
    : roundHalfEven num den = whole := by
  have positive : 0 < den := by
    rcases Nat.eq_zero_or_pos den with rfl | positive
    · omega
    · exact positive
  have split := Nat.div_add_mod num den
  have small := Nat.mod_lt num positive
  unfold roundHalfEven
  dsimp only
  generalize num / den = quotient at *
  generalize num % den = rest at *
  rcases Nat.lt_trichotomy quotient whole with less | rfl | greater
  · have next : quotient + 1 = whole := by
      by_contra far
      have : (quotient + 2) * den ≤ whole * den := Nat.mul_le_mul_right den (by omega)
      nlinarith
    subst next
    rw [if_neg]
    intro half
    have : 2 * rest ≤ den := by omega
    nlinarith
  · rw [if_pos]
    left
    nlinarith
  · have : (whole + 1) * den ≤ quotient * den := Nat.mul_le_mul_right den greater
    nlinarith

namespace Double

/-- The number that a double is. -/
def value (x : Double) : ℚ := x.mantissa * 2 ^ x.exponent

/-- The double nearest to a product with a whole number. -/
def times (x : Double) (factor : Nat) : Double :=
  let (up, down) := powerOfTwo x.exponent
  nearest (x.mantissa * up * factor) down

/-- The whole number nearest to a double. -/
def rounded (x : Double) : Nat :=
  let (up, down) := powerOfTwo x.exponent
  roundHalfEven (x.mantissa * up) down

theorem powerOfTwo_pos (exponent : Int)
    : 0 < (powerOfTwo exponent).1 ∧ 0 < (powerOfTwo exponent).2 := by
  unfold powerOfTwo
  split
  · exact ⟨by positivity, Nat.one_pos⟩
  · exact ⟨Nat.one_pos, by positivity⟩

theorem powerOfTwo_div (exponent : Int)
    : ((powerOfTwo exponent).1 : ℚ) / (powerOfTwo exponent).2 = 2 ^ exponent := by
  unfold powerOfTwo
  split
  · rename_i nonneg
    obtain ⟨n, rfl⟩ := Int.eq_ofNat_of_zero_le nonneg
    simp
  · rename_i negative
    obtain ⟨n, same⟩ := Int.eq_ofNat_of_zero_le (show 0 ≤ -exponent by omega)
    obtain rfl : exponent = -(n : Int) := by omega
    simp

theorem value_eq (x : Double)
    : x.value = (x.mantissa * (powerOfTwo x.exponent).1 : ℕ) / ((powerOfTwo x.exponent).2 : ℚ) := by
  rw [value, ← powerOfTwo_div, Nat.cast_mul, mul_div_assoc]

theorem nearest_exponent (num den : Nat)
    : (nearest num den).exponent ≤ (num.log2 : Int) - den.log2 - 52 := by
  unfold nearest
  dsimp only
  split <;> omega

/-- A rounded quotient is off by one at most. -/
theorem roundHalfEven_error {num den : Nat} (positive : 0 < den)
    : |(roundHalfEven num den : ℚ) - num / den| ≤ 1 := by
  obtain ⟨low, high⟩ := roundHalfEven_bounds num den
  have floor : ((num / den : ℕ) : ℚ) ≤ num / den := Nat.cast_div_le
  have ceiling : (num : ℚ) / den < (num / den : ℕ) + 1 := by
    rw [div_lt_iff₀ (by exact_mod_cast positive), mul_comm]
    exact_mod_cast Nat.lt_mul_div_succ num positive
  have lowCast : ((num / den : ℕ) : ℚ) ≤ roundHalfEven num den := by exact_mod_cast low
  have highCast : (roundHalfEven num den : ℚ) ≤ (num / den : ℕ) + 1 := by exact_mod_cast high
  rw [abs_le]
  constructor <;> linarith

/-- The nearest double is off by one unit of its last place at most. -/
theorem nearest_error {num den : Nat} (positive : 0 < den)
    : |(nearest num den).value - num / den| ≤ 2 ^ (nearest num den).exponent := by
  obtain ⟨up, down⟩ := powerOfTwo_pos (nearest num den).exponent
  have scale := powerOfTwo_div (nearest num den).exponent
  have error := @roundHalfEven_error (num * (powerOfTwo (nearest num den).exponent).2)
    (den * (powerOfTwo (nearest num den).exponent).1) (Nat.mul_pos positive up)
  have mantissa
      : (nearest num den).mantissa
        = roundHalfEven (num * (powerOfTwo (nearest num den).exponent).2)
            (den * (powerOfTwo (nearest num den).exponent).1) :=
    rfl
  have inverse
      : ((powerOfTwo (nearest num den).exponent).2 : ℚ) / (powerOfTwo (nearest num den).exponent).1
        = (2 ^ (nearest num den).exponent)⁻¹ := by
    rw [← scale, inv_div]
  rw [← mantissa, Nat.cast_mul, Nat.cast_mul, mul_div_mul_comm, inverse] at error
  have unit : (0 : ℚ) < 2 ^ (nearest num den).exponent := by positivity
  calc
    |(nearest num den).value - num / den|
      = |((nearest num den).mantissa - num / den * (2 ^ (nearest num den).exponent)⁻¹ : ℚ)|
        * 2 ^ (nearest num den).exponent := by
      rw [← abs_of_pos unit, ← abs_mul, abs_of_pos unit, sub_mul, mul_assoc,
        inv_mul_cancel₀ unit.ne', mul_one, value]
    _ ≤ 1 * 2 ^ (nearest num den).exponent := by
      gcongr
    _ = 2 ^ (nearest num den).exponent := one_mul _

theorem log2_le_of_lt {num den bits : Nat} (small : num < 2 ^ bits * den)
    : num.log2 ≤ bits + den.log2 := by
  rcases Nat.eq_zero_or_pos num with rfl | some
  · exact Nat.zero_le _
  · have bound : num < 2 ^ (bits + den.log2 + 1) := by
      calc
        num < 2 ^ bits * den := small
        _ ≤ 2 ^ bits * 2 ^ (den.log2 + 1) := by
          gcongr
          exact Nat.lt_log2_self.le
        _ = 2 ^ (bits + den.log2 + 1) := by rw [← pow_add, add_assoc]
    exact Nat.lt_succ_iff.mp ((Nat.log2_lt some.ne').mpr bound)

/-- A nearest double of a bounded quotient is off by a bounded power of two at most. -/
theorem nearest_error_le {num den bits : Nat} (positive : 0 < den) (small : num < 2 ^ bits * den)
    : |(nearest num den).value - num / den| ≤ 2 ^ ((bits : Int) - 52) := by
  refine (nearest_error positive).trans (zpow_le_zpow_right₀ (by norm_num) ?_)
  have exponent := nearest_exponent num den
  have size := log2_le_of_lt small
  omega

/-- A double close to a whole number rounds to it. -/
theorem rounded_eq {x : Double} {whole : Nat} (close : |x.value - whole| < 1 / 2)
    : x.rounded = whole := by
  have positive : (0 : ℚ) < (powerOfTwo x.exponent).2 := by
    exact_mod_cast (powerOfTwo_pos x.exponent).2
  rw [value_eq, abs_lt, sub_lt_iff_lt_add, lt_sub_iff_add_lt, div_lt_iff₀ positive,
    lt_div_iff₀ positive] at close
  apply roundHalfEven_eq
  · have above : ((2 * whole * (powerOfTwo x.exponent).2 : ℕ) : ℚ)
        < (2 * (x.mantissa * (powerOfTwo x.exponent).1) + (powerOfTwo x.exponent).2 : ℕ) := by
      push_cast at close ⊢
      linarith
    exact_mod_cast above
  · have below : ((2 * (x.mantissa * (powerOfTwo x.exponent).1) : ℕ) : ℚ)
        < (2 * whole * (powerOfTwo x.exponent).2 + (powerOfTwo x.exponent).2 : ℕ) := by
      push_cast at close ⊢
      linarith
    exact_mod_cast below

/-- Hundredths below a hundred million, scaled by ten thousand, come out exactly. -/
theorem times_nearest_hundredths {cents : Nat} (bounded : cents < 10 ^ 8)
    : ((nearest cents 100).times 10000).rounded = 100 * cents := by
  have first := @nearest_error_le cents 100 20 (by decide) (by omega)
  have exact : (nearest cents 100).value * 10000
      = ((nearest cents 100).mantissa * (powerOfTwo (nearest cents 100).exponent).1 * 10000 : ℕ)
        / ((powerOfTwo (nearest cents 100).exponent).2 : ℚ) := by
    rw [value_eq, Nat.cast_mul _ 10000, mul_div_right_comm]
    rfl
  have size : (nearest cents 100).value * 10000 < 2 ^ 34 := by
    have cast : (cents : ℚ) < 10 ^ 8 := by exact_mod_cast bounded
    have upper := (abs_le.mp first).2
    norm_num at upper ⊢
    linarith
  have positive := (powerOfTwo_pos (nearest cents 100).exponent).2
  have second := @nearest_error_le
    ((nearest cents 100).mantissa * (powerOfTwo (nearest cents 100).exponent).1 * 10000)
    (powerOfTwo (nearest cents 100).exponent).2 34 positive (by
      rw [exact, div_lt_iff₀ (by exact_mod_cast positive)] at size
      exact_mod_cast size)
  rw [← exact] at second
  apply rounded_eq
  have product : (nearest cents 100).times 10000
      = nearest ((nearest cents 100).mantissa * (powerOfTwo (nearest cents 100).exponent).1 * 10000)
          (powerOfTwo (nearest cents 100).exponent).2 :=
    rfl
  rw [product]
  obtain ⟨low, high⟩ := abs_le.mp first
  obtain ⟨low', high'⟩ := abs_le.mp second
  rw [abs_lt]
  norm_num at *
  constructor <;> linarith

end Double

end Foundation
