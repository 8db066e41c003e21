import PettyFlow.Foundation.FloatValue

/-! Doubles are off by half a unit of their last place at most, and doubles near whole numbers
round to them.
-/

namespace Foundation

/-- A rounded quotient is off by a half at most. -/
theorem roundHalfEven_error {num den : Nat} (positive : 0 < den)
    : |(roundHalfEven num den : ℚ) - num / den| ≤ 1 / 2 := by
  have some : (0 : ℚ) < den := by exact_mod_cast positive
  have split : (den : ℚ) * (num / den : ℕ) + (num % den : ℕ) = num := by
    exact_mod_cast Nat.div_add_mod num den
  have quotient : (num : ℚ) / den = (num / den : ℕ) + (num % den : ℕ) / den := by
    rw [div_eq_iff some.ne', add_mul, div_mul_cancel₀ _ some.ne', mul_comm, split]
  have less : ((num % den : ℕ) : ℚ) / den < 1 := by
    rw [div_lt_one some]
    exact_mod_cast Nat.mod_lt num positive
  have nonneg : (0 : ℚ) ≤ (num % den : ℕ) / den := by positivity
  rw [quotient, abs_le]
  unfold roundHalfEven
  dsimp only
  split
  · rename_i down
    have low : ((num % den : ℕ) : ℚ) / den ≤ 1 / 2 := by
      rw [div_le_iff₀ some]
      have half : 2 * (num % den) ≤ den := by omega
      have cast : (2 : ℚ) * (num % den : ℕ) ≤ den := by exact_mod_cast half
      linarith
    constructor <;> linarith
  · rename_i up
    have high : (1 : ℚ) / 2 ≤ (num % den : ℕ) / den := by
      rw [le_div_iff₀ some]
      have half : den ≤ 2 * (num % den) := by omega
      have cast : (den : ℚ) ≤ 2 * (num % den : ℕ) := by exact_mod_cast half
      linarith
    push_cast
    constructor <;> linarith

/-- The last place of a double below a power of two. -/
theorem Double.nearest_exponent_le {num den bits : Nat} (positive : 0 < den)
    (small : num < 2 ^ bits * den)
    : (Double.nearest num den).exponent ≤ (bits : Int) - 53 := by
  have size := Double.log2_le_of_lt small
  unfold Double.nearest
  dsimp only
  split
  · push_cast at *
    omega
  · rename_i wide
    -- A quotient with as many bits as the bound would reach the bound
    by_contra far
    have exponent : (num.log2 : Int) - den.log2 - 52 = bits - 52 := by omega
    rw [exponent] at wide
    apply wide
    obtain ⟨up, down⟩ := Double.powerOfTwo_pos ((bits : Int) - 52)
    rw [Nat.div_lt_iff_lt_mul (Nat.mul_pos positive up)]
    have scale := Double.powerOfTwo_div ((bits : Int) - 52)
    have some : ((Double.powerOfTwo ((bits : Int) - 52)).2 : ℚ) ≠ 0 := by exact_mod_cast down.ne'
    rw [div_eq_iff some] at scale
    have shifted : (2 : ℚ) ^ 52 * 2 ^ ((bits : Int) - 52) = 2 ^ bits := by
      rw [← zpow_natCast, ← zpow_natCast, ← zpow_add₀ two_ne_zero]
      congr 1
      push_cast
      ring
    have power
        : 2 ^ 52 * (Double.powerOfTwo ((bits : Int) - 52)).1
          = 2 ^ bits * (Double.powerOfTwo ((bits : Int) - 52)).2 := by
      have cast
          : (2 : ℚ) ^ 52 * (Double.powerOfTwo ((bits : Int) - 52)).1
            = 2 ^ bits * (Double.powerOfTwo ((bits : Int) - 52)).2 := by
        rw [scale, ← mul_assoc, shifted]
      exact_mod_cast cast
    calc
      num * (Double.powerOfTwo ((bits : Int) - 52)).2
        < 2 ^ bits * den * (Double.powerOfTwo ((bits : Int) - 52)).2 :=
        Nat.mul_lt_mul_of_pos_right small down
      _ = den * (2 ^ bits * (Double.powerOfTwo ((bits : Int) - 52)).2) := by ring
      _ = 2 ^ 52 * (den * (Double.powerOfTwo ((bits : Int) - 52)).1) := by
        rw [← power]
        ring

/-- A double whose value is near a number of units has the text of that number. -/
theorem Double.fixed_eq {x : Double} {decimals units : Nat}
    (close : |x.value * 10 ^ decimals - units| < 1 / 2)
    : x.fixed decimals
      = s!"{units / 10 ^ decimals}." ++ zeroPadded decimals (units % 10 ^ decimals : Nat) := by
  have positive : (0 : ℚ) < (Double.powerOfTwo x.exponent).2 := by
    exact_mod_cast (Double.powerOfTwo_pos x.exponent).2
  rw [Double.value_eq, div_mul_eq_mul_div, abs_lt, sub_lt_iff_lt_add, lt_sub_iff_add_lt,
    div_lt_iff₀ positive, lt_div_iff₀ positive] at close
  have rounded
      : roundHalfEven (x.mantissa * (Double.powerOfTwo x.exponent).1 * 10 ^ decimals)
          (Double.powerOfTwo x.exponent).2
        = units := by
    apply roundHalfEven_eq
    · have above
          : ((2 * units * (Double.powerOfTwo x.exponent).2 : ℕ) : ℚ)
            < (2 * (x.mantissa * (Double.powerOfTwo x.exponent).1 * 10 ^ decimals)
                + (Double.powerOfTwo x.exponent).2 : ℕ) := by
        push_cast at close ⊢
        linarith
      exact_mod_cast above
    · have below
          : ((2 * (x.mantissa * (Double.powerOfTwo x.exponent).1 * 10 ^ decimals) : ℕ) : ℚ)
            < (2 * units * (Double.powerOfTwo x.exponent).2
                + (Double.powerOfTwo x.exponent).2 : ℕ) := by
        push_cast at close ⊢
        linarith
      exact_mod_cast below
  unfold Double.fixed
  dsimp only
  rw [rounded]

/-- A quotient with a double is off by one unit of the last place of its size. -/
theorem Double.divide_error {x : Double} {den bits : Nat} (positive : 0 < den)
    (small : x.value < 2 ^ bits * den)
    : |(x.divide den).value - x.value / den| ≤ 2 ^ ((bits : Int) - 52) := by
  have down := (Double.powerOfTwo_pos x.exponent).2
  have down' : (0 : ℚ) < (Double.powerOfTwo x.exponent).2 := by exact_mod_cast down
  have bounded
      : x.mantissa * (Double.powerOfTwo x.exponent).1
        < 2 ^ bits * (den * (Double.powerOfTwo x.exponent).2) := by
    rw [Double.value_eq, div_lt_iff₀ down', mul_assoc] at small
    exact_mod_cast small
  have error := Double.nearest_error_le (Nat.mul_pos positive down) bounded
  have quotient
      : ((x.mantissa * (Double.powerOfTwo x.exponent).1 : ℕ) : ℚ)
          / ((den * (Double.powerOfTwo x.exponent).2 : ℕ) : ℚ)
        = x.value / den := by
    rw [Double.value_eq, div_div, Nat.cast_mul den, mul_comm (den : ℚ)]
  rw [quotient] at error
  exact error

namespace FloatValue

/-- The double nearest to a value below a power of two is off by half a unit of the last place that
such values have.
-/
theorem nearest_error {value : ℚ} {bits : Nat} (small : |value| < 2 ^ bits) (range : bits ≤ 1023)
    : ∃ rounded,
        nearest value = .finite rounded ∧ |rounded - value| ≤ 2 ^ ((bits : Int) - 54) := by
  have size := abs_eq value
  have den : (0 : ℚ) < value.den := by exact_mod_cast value.den_pos
  have bounded : value.num.natAbs < 2 ^ bits * value.den := by
    rw [size, div_lt_iff₀ den] at small
    exact_mod_cast small
  obtain ⟨rounded, finite⟩ :=
    nearest_finite (small.trans_le (pow_le_pow_right₀ one_le_two range))
  refine ⟨rounded, finite, ?_⟩
  have place : max (-1074) (Double.nearest value.num.natAbs value.den).exponent
      ≤ (bits : Int) - 53 := by
    have exponent := Double.nearest_exponent_le value.den_pos bounded
    omega
  rw [nearest] at finite
  dsimp only at finite
  generalize max (-1074) (Double.nearest value.num.natAbs value.den).exponent = exponent at *
  obtain ⟨up, down⟩ := Double.powerOfTwo_pos exponent
  have scale := Double.powerOfTwo_div exponent
  generalize Double.powerOfTwo exponent = power at *
  have upPositive : (0 : ℚ) < power.1 := by exact_mod_cast up
  have downPositive : (0 : ℚ) < power.2 := by exact_mod_cast down
  have error := @Foundation.roundHalfEven_error (value.num.natAbs * power.2) _
    (Nat.mul_pos value.den_pos up)
  generalize (roundHalfEven (value.num.natAbs * power.2) (value.den * power.1) : ℚ) = whole at *
  have unit : (0 : ℚ) < 2 ^ exponent := by positivity
  -- Scaled back, the rounded quotient is the magnitude
  have magnitude : |whole * power.1 / power.2 - (|value|)| ≤ 2 ^ ((bits : Int) - 54) := by
    calc
      |whole * power.1 / power.2 - (|value|)|
        = |whole - ((value.num.natAbs * power.2 : ℕ) : ℚ) / ((value.den * power.1 : ℕ) : ℚ)|
          * 2 ^ exponent := by
        rw [← abs_of_pos unit, ← abs_mul, ← scale, size]
        push_cast
        congr 1
        field_simp
      _ ≤ 1 / 2 * 2 ^ exponent := by gcongr
      _ = 2 ^ (exponent - 1) := by
        rw [zpow_sub_one₀ two_ne_zero]
        ring
      _ ≤ 2 ^ ((bits : Int) - 54) := zpow_le_zpow_right₀ one_le_two (by omega)
  split at finite
  · cases finite
  · cases finite
    split
    · rename_i negative
      rw [abs_of_neg negative, sub_neg_eq_add] at magnitude
      rwa [neg_sub_left, abs_neg, add_comm]
    · rename_i nonneg
      rwa [abs_of_nonneg (not_lt.mp nonneg)] at magnitude

/-- The nearest double has a bit more than the value at most. -/
theorem nearest_size {value : ℚ} {bits : Nat} (small : |value| < 2 ^ bits) (range : bits ≤ 1023)
    : ∃ rounded, nearest value = .finite rounded ∧ |rounded| < 2 ^ (bits + 1) := by
  obtain ⟨rounded, finite, error⟩ := nearest_error small range
  refine ⟨rounded, finite, ?_⟩
  calc
    |rounded| ≤ |value| + |rounded - value| :=
      sub_le_iff_le_add'.mp (abs_sub_abs_le_abs_sub rounded value)
    _ < 2 ^ bits + 2 ^ bits := by
      refine add_lt_add_of_lt_of_le small (error.trans ?_)
      rw [← zpow_natCast]
      exact zpow_le_zpow_right₀ one_le_two (by omega)
    _ = 2 ^ (bits + 1) := by rw [← two_mul, ← pow_succ']

/-- The integer nearest to a value, the even one where two are equally near. -/
def round (value : ℚ) : Int :=
  let magnitude : Int := roundHalfEven value.num.natAbs value.den
  if value < 0 then -magnitude else magnitude

/-- A value near an integer rounds to it. -/
theorem round_eq {value : ℚ} {n : Int} (near : |value - n| < 1 / 2) : round value = n := by
  obtain ⟨low, high⟩ := abs_lt.mp near
  have size := abs_eq value
  have den : (0 : ℚ) < value.den := by exact_mod_cast value.den_pos
  have whole : ((n.natAbs : ℕ) : ℚ) = |(n : ℚ)| := by rw [Nat.cast_natAbs, Int.cast_abs]
  have close : |(|value|) - n.natAbs| < 1 / 2 := by
    rw [whole]
    exact (abs_abs_sub_abs_le_abs_sub value n).trans_lt near
  rw [size, abs_lt, sub_lt_iff_lt_add, lt_sub_iff_add_lt, div_lt_iff₀ den, lt_div_iff₀ den] at close
  have rounded : roundHalfEven value.num.natAbs value.den = n.natAbs := by
    apply roundHalfEven_eq
    · have above
          : ((2 * n.natAbs * value.den : ℕ) : ℚ) < (2 * value.num.natAbs + value.den : ℕ) := by
        push_cast
        linarith
      exact_mod_cast above
    · have below
          : ((2 * value.num.natAbs : ℕ) : ℚ) < (2 * n.natAbs * value.den + value.den : ℕ) := by
        push_cast
        linarith
      exact_mod_cast below
  rw [round, rounded]
  split
  · rename_i negative
    have sign : (n : ℚ) < 1 / 2 := by linarith
    have notPositive : n ≤ 0 := by
      by_contra positive
      have : (1 : ℚ) ≤ n := by exact_mod_cast Int.not_le.mp positive
      linarith
    omega
  · rename_i nonneg
    have notNegative : 0 ≤ n := by
      by_contra negative
      have : (n : ℚ) ≤ -1 := by exact_mod_cast Int.le_sub_one_of_lt (Int.not_le.mp negative)
      linarith
    omega

/-- Whole numbers below two to the fifty-third are doubles. -/
theorem nearest_int {n : Int} (small : n.natAbs < 2 ^ 53) : nearest n = .finite n := by
  have last : max (-1074) (Double.nearest n.natAbs 1).exponent ≤ 0 := by
    have exponent := @Double.nearest_exponent_le n.natAbs 1 53 one_pos (by rwa [Nat.mul_one])
    omega
  rw [nearest]
  dsimp only
  rw [Rat.num_intCast, Rat.den_intCast]
  generalize max (-1074) (Double.nearest n.natAbs 1).exponent = exponent at last
  -- The place is a fraction of one, of which a whole number has a whole number
  obtain ⟨places, whole⟩ : ∃ places, Double.powerOfTwo exponent = (1, 2 ^ places) := by
    unfold Double.powerOfTwo
    split
    · rename_i nonneg
      obtain rfl := le_antisymm last nonneg
      exact ⟨0, rfl⟩
    · exact ⟨_, rfl⟩
  have magnitude
      : (roundHalfEven (n.natAbs * 2 ^ places) (1 * 1) : ℚ) * (1 : ℕ) / ((2 ^ places : ℕ) : ℚ)
        = n.natAbs := by
    have exact : roundHalfEven (n.natAbs * 2 ^ places) (1 * 1) = n.natAbs * 2 ^ places := by
      simp [roundHalfEven, Nat.mod_one]
    rw [exact]
    push_cast
    field_simp
  rw [whole]
  dsimp only
  rw [magnitude, if_neg]
  · congr 1
    rw [Nat.cast_natAbs, Int.cast_abs]
    split
    · rename_i negative
      rw [abs_of_neg negative, neg_neg]
    · rename_i nonneg
      exact abs_of_nonneg (not_lt.mp nonneg)
  · rw [not_le]
    have bound : ((n.natAbs : ℕ) : ℚ) < 2 ^ 53 := by exact_mod_cast small
    exact bound.trans_le (pow_le_pow_right₀ one_le_two (by norm_num))

/-- Whole numbers are added up exactly where they are small together. -/
theorem foldl_add_ints (numbers : List Int)
    (small : (numbers.map Int.natAbs).sum < 2 ^ 53)
    : (numbers.map (fun n : Int => FloatValue.finite n)).foldl add (.finite 0)
      = .finite (numbers.sum : Int) := by
  induction numbers using List.reverseRecOn with
  | nil => rfl
  | append_singleton numbers n ih =>
      simp only [List.map_append, List.map_singleton, List.sum_append, List.sum_singleton] at small
      have sum : numbers.sum.natAbs ≤ (numbers.map Int.natAbs).sum := by
        clear ih small
        induction numbers with
        | nil => rfl
        | cons m rest ih =>
            rw [List.sum_cons, List.map_cons, List.sum_cons]
            omega
      rw [List.map_append, List.foldl_append, ih (by omega), List.map_singleton, List.foldl_cons,
        List.foldl_nil, add, ← Int.cast_add, nearest_int (by omega), List.sum_append,
        List.sum_singleton]

end FloatValue

end Foundation
