import PettyFlow.Foundation.Clock
import PettyFlow.Foundation.Values

/-! Amounts as decimal text, by way of double-precision floating point: the nearest double
of a quotient of integers, and its text with two decimals.
-/

namespace Foundation

/-- The integer nearest to a quotient, the even one where two are equally near. -/
def roundHalfEven (num den : Nat) : Nat :=
  let quotient := num / den
  let rest := num % den
  if 2 * rest < den ∨ (2 * rest = den ∧ quotient % 2 = 0) then quotient else quotient + 1

theorem roundHalfEven_bounds (num den : Nat)
    : num / den ≤ roundHalfEven num den ∧ roundHalfEven num den ≤ num / den + 1 := by
  simp only [roundHalfEven]
  split
  · exact ⟨le_rfl, Nat.le_succ _⟩
  · exact ⟨Nat.le_succ _, le_rfl⟩

/-- The value `mantissa * 2 ^ exponent`. -/
structure Double where
  mantissa : Nat
  exponent : Int
deriving DecidableEq

namespace Double

/-- A power of two with an integer exponent, as numerator and denominator. -/
def powerOfTwo (exponent : Int) : Nat × Nat :=
  if 0 ≤ exponent then (2 ^ exponent.toNat, 1) else (1, 2 ^ (-exponent).toNat)

/-- The double nearest to a positive quotient of normal range. -/
def nearest (num den : Nat) : Double :=
  let scaled (exponent : Int) : Nat × Nat :=
    let (up, down) := powerOfTwo exponent
    (num * down, den * up)
  let guess : Int := (num.log2 : Int) - den.log2 - 52
  let (n, d) := scaled guess
  let exponent := if n / d < 2 ^ 52 then guess - 1 else guess
  let (n, d) := scaled exponent
  ⟨roundHalfEven n d, exponent⟩

/-- The double nearest to a positive quotient, if it does not overflow. -/
def nearest? (num den : Nat) : Option Double :=
  let double := nearest num den
  if (double.mantissa.log2 : Int) + double.exponent < 1024 then some double else none

def divide (x : Double) (den : Nat) : Double :=
  let (up, down) := powerOfTwo x.exponent
  nearest (x.mantissa * up) (den * down)

/-- A quotient scaled by about its own size is a number of at most 54 bits. -/
theorem scaled_lt {num den : Nat} (positive : 0 < den) {exponent : Int}
    (large : (num.log2 : Int) - den.log2 - 53 ≤ exponent)
    : num * (powerOfTwo exponent).2 < 2 ^ 54 * (den * (powerOfTwo exponent).1) := by
  have above : num < 2 ^ (num.log2 + 1) := Nat.lt_log2_self
  have below : 2 ^ den.log2 ≤ den := Nat.log2_self_le positive.ne'
  unfold powerOfTwo
  split
  · rename_i nonneg
    calc
      num * 1 < 2 ^ (num.log2 + 1) := by omega
      _ ≤ 2 ^ (54 + (den.log2 + exponent.toNat)) :=
        Nat.pow_le_pow_right (by decide) (by omega)
      _ = 2 ^ 54 * (2 ^ den.log2 * 2 ^ exponent.toNat) := by rw [pow_add, pow_add]
      _ ≤ 2 ^ 54 * (den * 2 ^ exponent.toNat) := by gcongr
  · rename_i negative
    calc
      num * 2 ^ (-exponent).toNat < 2 ^ (num.log2 + 1) * 2 ^ (-exponent).toNat := by gcongr
      _ = 2 ^ (num.log2 + 1 + (-exponent).toNat) := by rw [← pow_add]
      _ ≤ 2 ^ (54 + den.log2) := Nat.pow_le_pow_right (by decide) (by omega)
      _ = 2 ^ 54 * (2 ^ den.log2 * 1) := by rw [pow_add, mul_one]
      _ ≤ 2 ^ 54 * (den * 1) := by gcongr

/-- A quotient of numbers far below the largest double has a nearest double. -/
theorem nearest?_isSome {num den : Nat} (positive : 0 < den) (small : num < 2 ^ 256)
    : (nearest? num den).isSome := by
  have exponents
      : (num.log2 : Int) - den.log2 - 53 ≤ (nearest num den).exponent
        ∧ (nearest num den).exponent ≤ (num.log2 : Int) - den.log2 - 52 := by
    unfold nearest
    dsimp only
    split <;> omega
  have mantissa : (nearest num den).mantissa ≤ 2 ^ 54 := by
    have bound := scaled_lt positive exponents.1
    have quotient
        : num * (powerOfTwo (nearest num den).exponent).2
            / (den * (powerOfTwo (nearest num den).exponent).1) < 2 ^ 54 :=
      Nat.div_lt_of_lt_mul (by rwa [mul_comm (2 ^ 54)] at bound)
    exact (roundHalfEven_bounds _ _).2.trans quotient
  have bits : num.log2 < 256 := by
    rcases Nat.eq_zero_or_pos num with rfl | some
    · decide
    · exact (Nat.log2_lt some.ne').mpr small
  have leading : (nearest num den).mantissa.log2 < 55 := by
    rcases Nat.eq_zero_or_pos (nearest num den).mantissa with zero | some
    · rw [zero]
      decide
    · exact (Nat.log2_lt some.ne').mpr (mantissa.trans_lt (by decide))
  unfold nearest?
  dsimp only
  -- The exponent and the bits of the mantissa stay far below those of the largest double
  rw [if_pos (by omega)]
  rfl

/-- A number that has a nearest double has a bounded number of bits. -/
theorem log2_of_nearest? {num : Nat} {x : Double} (found : nearest? num 1 = some x)
    : num.log2 ≤ 1076 := by
  have unit : Nat.log2 1 = 0 := by decide
  have exponent : (num.log2 : Int) - 53 ≤ (nearest num 1).exponent := by
    unfold nearest
    dsimp only
    rw [unit]
    split <;> omega
  unfold nearest? at found
  dsimp only at found
  split at found
  · omega
  · cases found

/-- The text of the double's exact value with a number of decimals. -/
def fixed (decimals : Nat) (x : Double) : String :=
  let (up, down) := powerOfTwo x.exponent
  let units := roundHalfEven (x.mantissa * up * 10 ^ decimals) down
  s!"{units / 10 ^ decimals}." ++ zeroPadded decimals (units % 10 ^ decimals : Nat)

end Double

/-- The text with two decimals of a fixed-point amount of scale 10000, unless the amount is
too large for a double. The amount is converted before it is divided.
-/
def amountText (amountScaled : Int) : Option String :=
  if amountScaled = 0 then
    some "0.00"
  else
    (Double.nearest? amountScaled.natAbs 1).map (fun x =>
      (if amountScaled < 0 then "-" else "") ++ (x.divide 10000).fixed 2)

/-- The text with four decimals of a total divided by the scale 10000. The quotient is
rounded once.
-/
def totalText (total : Int) : Option String :=
  if total = 0 then
    some "0.0000"
  else
    (Double.nearest? total.natAbs 10000).map (fun x =>
      (if total < 0 then "-" else "") ++ x.fixed 4)

/-- The text with two decimals of an amount divided by the scale 10000. The quotient is
rounded once.
-/
def centsText (amountScaled : Int) : Option String :=
  if amountScaled = 0 then
    some "0.00"
  else
    (Double.nearest? amountScaled.natAbs 10000).map (fun x =>
      (if amountScaled < 0 then "-" else "") ++ x.fixed 2)

/-- An amount that is written by way of a double can be written in decimal. -/
theorem hasDecimal_of_amountText {amount : Int} {text : String}
    (written : amountText amount = some text)
    : HasDecimal amount := by
  unfold amountText at written
  split at written
  · rename_i zero
    rw [zero]
    exact Nat.pow_pos (by decide)
  · obtain ⟨x, found, _⟩ := Option.map_eq_some_iff.mp written
    have bits := Double.log2_of_nearest? found
    calc
      amount.natAbs < 2 ^ (amount.natAbs.log2 + 1) := Nat.lt_log2_self
      _ ≤ 10 ^ (amount.natAbs.log2 + 1) := Nat.pow_le_pow_left (by decide) _
      _ < 10 ^ maxStrDigits :=
        Nat.pow_lt_pow_right (by decide) (by rw [maxStrDigits]; omega)

/-- Amounts far below the largest double have a text, however they are divided. -/
theorem texts_isSome {amount : Int} (small : amount.natAbs < 2 ^ 256)
    : (amountText amount).isSome ∧ (centsText amount).isSome := by
  have converted := Double.nearest?_isSome (by decide : 0 < 1) small
  have divided := Double.nearest?_isSome (by decide : 0 < 10000) small
  unfold amountText centsText
  by_cases zero : amount = 0
  · simp [zero]
  · simp [zero, converted, divided]

example : amountText 1002550 = some "100.25" ∧ amountText (-9) = some "-0.00" := by decide

end Foundation
