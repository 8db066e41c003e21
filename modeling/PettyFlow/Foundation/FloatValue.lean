import PettyFlow.Foundation.Doubles

/-! The double-precision values that number texts spell, their sums and products, and the texts that
formatting gives them.
-/

namespace Foundation

/-- What a floating-point number can be. -/
inductive FloatValue where
  | finite (value : ℚ)
  | infinite (negative : Bool)
  | nan

namespace FloatValue

/-- The double nearest to a value, on the grid of the subnormal ones at least, or infinity
beyond the largest.
-/
def nearest (value : ℚ) : FloatValue :=
  let num := value.num.natAbs
  let exponent := max (-1074) (Double.nearest num value.den).exponent
  let (up, down) := Double.powerOfTwo exponent
  let magnitude : ℚ := roundHalfEven (num * down) (value.den * up) * up / down
  if 2 ^ 1024 ≤ magnitude then .infinite (value < 0)
  else .finite (if value < 0 then -magnitude else magnitude)

/-- An integer as a double, if there is a finite one. -/
def ofInt? (n : Int) : Option FloatValue :=
  match nearest n with
  | .finite value => some (.finite value)
  | _ => none

def add : FloatValue → FloatValue → FloatValue
  | .nan, _ | _, .nan => .nan
  | .infinite a, .infinite b => if a = b then .infinite a else .nan
  | .infinite a, .finite _ | .finite _, .infinite a => .infinite a
  | .finite a, .finite b => nearest (a + b)

def mul : FloatValue → FloatValue → FloatValue
  | .nan, _ | _, .nan => .nan
  | .infinite a, .infinite b => .infinite (a != b)
  | .infinite a, .finite b | .finite b, .infinite a =>
      if b = 0 then .nan else .infinite (a != decide (b < 0))
  | .finite a, .finite b => nearest (a * b)

def le : FloatValue → FloatValue → Bool
  | .nan, _ | _, .nan => false
  | .infinite a, .infinite b => a || !b
  | .infinite a, .finite _ => a
  | .finite _, .infinite b => !b
  | .finite a, .finite b => a ≤ b

/-- A number is less than an integer; the integer is not converted. -/
def ltInt : FloatValue → Int → Bool
  | .finite value, n => value < n
  | .infinite negative, _ => negative
  | .nan, _ => false

def isZero : FloatValue → Bool
  | .finite value => value = 0
  | _ => false

/-- The text with a number of decimals. The sign is given, as a zero does not show it. -/
def fixed (decimals : Nat) (negative : Bool) (x : FloatValue) : String :=
  let magnitude :=
    match x with
    | .finite value =>
        let units := roundHalfEven (value.num.natAbs * 10 ^ decimals) value.den
        s!"{units / 10 ^ decimals}." ++ zeroPadded decimals (units % 10 ^ decimals : Nat)
    | .infinite _ => "inf"
    | .nan => "nan"
  (if negative then "-" else "") ++ magnitude

/-- The value of digits with a fraction and an exponent behind them. -/
def ofDecimal (text : List Char) : ℚ :=
  let whole := text.takeWhile Char.isDigit
  let rest := text.dropWhile Char.isDigit
  let (fraction, rest) :=
    match rest with
    | '.' :: rest => (rest.takeWhile Char.isDigit, rest.dropWhile Char.isDigit)
    | _ => ([], rest)
  let power : Int :=
    match rest with
    | _ :: '-' :: exponent => -(Nat.ofDigitChars 10 exponent 0)
    | _ :: '+' :: exponent => Nat.ofDigitChars 10 exponent 0
    | _ :: exponent => Nat.ofDigitChars 10 exponent 0
    | [] => 0
  Nat.ofDigitChars 10 (whole ++ fraction) 0 * (10 : ℚ) ^ (power - fraction.length)

/-- The value of a number's text. -/
def ofText (text : String) : FloatValue :=
  match text.toList with
  | ['N', 'a', 'N'] => .nan
  | 'I' :: _ => .infinite false
  | '-' :: 'I' :: _ => .infinite true
  | '-' :: magnitude => nearest (-ofDecimal magnitude)
  | magnitude => nearest (ofDecimal magnitude)

/-! ### Range -/

theorem abs_eq (value : ℚ) : |value| = value.num.natAbs / value.den := by
  rw [Nat.cast_natAbs, Int.cast_abs, ← Nat.abs_cast value.den, ← abs_div, Rat.num_div_den]

/-- A value well below the largest double has a finite nearest one. -/
theorem nearest_finite {value : ℚ} (small : |value| < 2 ^ 1023)
    : ∃ rounded, nearest value = .finite rounded := by
  have size := abs_eq value
  have positive : (0 : ℚ) < value.den := by exact_mod_cast value.den_pos
  have bits : value.num.natAbs < 2 ^ 1023 * value.den := by
    rw [size, div_lt_iff₀ positive] at small
    exact_mod_cast small
  rw [nearest]
  dsimp only
  rw [if_neg (not_le.mpr ?_)]
  · exact ⟨_, rfl⟩
  have last : max (-1074) (Double.nearest value.num.natAbs value.den).exponent ≤ 1022 := by
    have exponent := Double.nearest_exponent value.num.natAbs value.den
    have logs := Double.log2_le_of_lt bits
    omega
  generalize max (-1074) (Double.nearest value.num.natAbs value.den).exponent = exponent at *
  obtain ⟨up, down⟩ := Double.powerOfTwo_pos exponent
  have scale := Double.powerOfTwo_div exponent
  generalize Double.powerOfTwo exponent = power at *
  have upPositive : (0 : ℚ) < power.1 := by exact_mod_cast up
  have downPositive : (0 : ℚ) < power.2 := by exact_mod_cast down
  have error := (abs_le.mp (@Double.roundHalfEven_error (value.num.natAbs * power.2) _
    (Nat.mul_pos value.den_pos up))).2
  have unit : (2 : ℚ) ^ exponent < 2 ^ 1023 := by
    rw [← zpow_natCast]
    exact zpow_lt_zpow_right₀ (by norm_num) (Int.lt_add_one_of_le last)
  -- The rounded magnitude is off by one unit of the last place at most
  calc
    (roundHalfEven (value.num.natAbs * power.2) (value.den * power.1) : ℚ) * power.1 / power.2
      ≤ (((value.num.natAbs * power.2 : ℕ) : ℚ) / ((value.den * power.1 : ℕ) : ℚ) + 1)
        * power.1 / power.2 := by
      gcongr
      linarith
    _ = |value| + 2 ^ exponent := by
      rw [size, ← scale]
      push_cast
      field_simp
    _ < 2 ^ 1023 + 2 ^ 1023 := add_lt_add small unit
    _ = 2 ^ 1024 := by rw [← two_mul, ← pow_succ']

end FloatValue

end Foundation
