import PettyFlow.Foundation.FloatErrors

/-! Quotients and square roots of doubles. -/

namespace Foundation

/-- The last place of the double nearest to a quotient is no larger than the quotient. -/
theorem Double.nearest_place_le {num den : Nat} (some : num ≠ 0)
    (positive : 0 < den)
    : (2 : ℚ) ^ (Double.nearest num den).exponent ≤ num / den := by
  have exponent := Double.nearest_exponent num den
  have low : ((2 ^ num.log2 : ℕ) : ℚ) ≤ num := by exact_mod_cast Nat.log2_self_le some
  have high : (den : ℚ) ≤ (2 ^ (den.log2 + 1) : ℕ) := by exact_mod_cast Nat.lt_log2_self.le
  calc
    (2 : ℚ) ^ (Double.nearest num den).exponent ≤ 2 ^ ((num.log2 : Int) - (den.log2 + 1 : ℕ)) :=
      zpow_le_zpow_right₀ one_le_two (by omega)
    _ = (2 ^ num.log2 : ℕ) / (2 ^ (den.log2 + 1) : ℕ) := by
      rw [zpow_sub₀ two_ne_zero, zpow_natCast, zpow_natCast]
      push_cast
      rfl
    _ ≤ num / den := by gcongr

namespace FloatValue

/-- The quotient by a number that is not zero. -/
def div : FloatValue → FloatValue → FloatValue
  | .nan, _ | _, .nan | .infinite _, .infinite _ => .nan
  | .infinite a, .finite b => .infinite (a != decide (b < 0))
  | .finite _, .infinite _ => .finite 0
  | .finite a, .finite b => nearest (a / b)

def isPositive : FloatValue → Bool
  | .finite value => 0 < value
  | .infinite negative => !negative
  | .nan => false

/-- The square root of a number that is not negative. The whole root has more bits than a double,
and an odd last bit stands for what it leaves.
-/
def sqrt : FloatValue → FloatValue
  | .finite value =>
      let num := value.num.natAbs * 4 ^ 600
      let root := Nat.sqrt (num / value.den)
      let left := if root * root * value.den = num then 0 else 1
      nearest ((2 * root + left : Nat) / 2 ^ 601)
  | .infinite _ => .infinite false
  | .nan => .nan

/-- What is no smaller than the least double is not rounded to zero. -/
theorem nearest_isZero {value : ℚ} (large : 2 ^ (-1074 : Int) ≤ |value|)
    : (nearest value).isZero = false := by
  have size := abs_eq value
  have den : (0 : ℚ) < value.den := by exact_mod_cast value.den_pos
  have some : value.num.natAbs ≠ 0 := by
    intro zero
    rw [size, zero, Nat.cast_zero, zero_div] at large
    exact absurd large (not_le.mpr (by positivity))
  have unit : 2 ^ max (-1074) (Double.nearest value.num.natAbs value.den).exponent ≤ |value| := by
    rcases max_choice (-1074) (Double.nearest value.num.natAbs value.den).exponent with same | same
    · rwa [same]
    · rw [same, size]
      exact Double.nearest_place_le some value.den_pos
  rw [nearest]
  dsimp only
  generalize max (-1074) (Double.nearest value.num.natAbs value.den).exponent = exponent at unit ⊢
  obtain ⟨up, down⟩ := Double.powerOfTwo_pos exponent
  have scale := Double.powerOfTwo_div exponent
  generalize Double.powerOfTwo exponent = power at *
  have upPositive : (0 : ℚ) < power.1 := by exact_mod_cast up
  have downPositive : (0 : ℚ) < power.2 := by exact_mod_cast down
  -- The quotient that is rounded is one at least
  have whole : value.den * power.1 ≤ value.num.natAbs * power.2 := by
    rw [← scale, size, div_le_div_iff₀ downPositive den] at unit
    rw [Nat.mul_comm value.den]
    exact_mod_cast unit
  have rounded := (roundHalfEven_bounds (value.num.natAbs * power.2) (value.den * power.1)).1
  have one := (Nat.one_le_div_iff (Nat.mul_pos value.den_pos up)).mpr whole
  have above : (0 : ℚ) < roundHalfEven (value.num.natAbs * power.2) (value.den * power.1) := by
    exact_mod_cast one.trans rounded
  have positive := div_pos (mul_pos above upPositive) downPositive
  split
  · rfl
  · split
    · exact decide_eq_false (neg_ne_zero.mpr positive.ne')
    · exact decide_eq_false positive.ne'

/-- The doubled whole root with its last bit is not zero. -/
theorem oddRoot_pos {num den : Nat} (some : num ≠ 0)
    : 1 ≤ 2 * Nat.sqrt (num / den)
        + if Nat.sqrt (num / den) * Nat.sqrt (num / den) * den = num then 0 else 1 := by
  split
  · rename_i exact
    have root : Nat.sqrt (num / den) ≠ 0 := by
      intro zero
      rw [zero, Nat.mul_zero, Nat.zero_mul] at exact
      exact some exact.symm
    omega
  · exact Nat.le_add_left 1 _

/-- A positive number has a root that is not zero. -/
theorem sqrt_isZero {x : FloatValue} (positive : x.isPositive = true) : x.sqrt.isZero = false := by
  cases x with
  | finite value =>
      have above : 0 < value.num := Rat.num_pos.mpr (of_decide_eq_true positive)
      have odd := @oddRoot_pos (value.num.natAbs * 4 ^ 600) value.den
        (mul_ne_zero (Int.natAbs_ne_zero.mpr above.ne') (by positivity))
      rw [sqrt]
      generalize 2 * Nat.sqrt (value.num.natAbs * 4 ^ 600 / value.den) + _ = root at odd ⊢
      apply nearest_isZero
      have large : (1 : ℚ) ≤ root := by exact_mod_cast odd
      rw [abs_of_nonneg (by positivity)]
      calc
        (2 : ℚ) ^ (-1074 : Int) ≤ 2 ^ (-601 : Int) := zpow_le_zpow_right₀ one_le_two (by norm_num)
        _ = 1 / 2 ^ 601 := by rw [zpow_neg, one_div, ← zpow_natCast]; rfl
        _ ≤ root / 2 ^ 601 := by gcongr
  | infinite negative => rfl
  | nan => rfl

end FloatValue

end Foundation
