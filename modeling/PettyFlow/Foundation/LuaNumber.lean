import PettyFlow.Foundation.DoubleText

/-! Numbers of an embedded Lua interpreter: double-precision values, as far as sums of integers
reach, and how they are written and read. Doubles of this kind are integers, or not finite.
-/

namespace Foundation

inductive LuaNumber where
  | finite (value : Int)
  | infinite (negative : Bool)
  | notANumber
deriving DecidableEq

/-- A number as text: an integer with all its digits, or with fourteen significant digits and
an exponent.
-/
inductive NumberText where
  | integer (value : Int)
  | scientific (value : Int)
  | infinite (negative : Bool)
  | notANumber
deriving DecidableEq

/-- The integer that Python reads; an exponent is no part of an integer. -/
def NumberText.int? : NumberText → Option Int
  | integer value => some value
  | _ => none

/-- The digits of a number, the significant ones first, with an exponent. -/
def scientificText (value : Int) : String :=
  let digits := (toString value.natAbs).toList
  let significant := (digits.reverse.dropWhile (· = '0')).reverse
  let fraction := String.ofList significant.tail
  (if value < 0 then "-" else "") ++ String.ofList (significant.take 1)
    ++ (if fraction = "" then "" else "." ++ fraction) ++ "e+"
    ++ zeroPadded 2 ((digits.length : Int) - 1)

def NumberText.text : NumberText → String
  | integer value => toString value
  | scientific value => scientificText value
  | infinite negative => if negative then "-inf" else "inf"
  | notANumber => "-nan"

namespace LuaNumber

/-- Doubles are smaller than this. -/
def doubleLimit : Nat := 2 ^ 1024

/-- The double nearest to an integer. -/
def ofInt (n : Int) : LuaNumber :=
  let unit := 2 ^ (n.natAbs.log2 - 52)
  let magnitude := roundHalfEven n.natAbs unit * unit
  if magnitude < doubleLimit then .finite (n.sign * magnitude) else .infinite (decide (n < 0))

def add : LuaNumber → LuaNumber → LuaNumber
  | finite a, finite b => ofInt (a + b)
  | finite _, infinite negative => .infinite negative
  | infinite negative, finite _ => .infinite negative
  | infinite a, infinite b => if a = b then .infinite a else .notANumber
  | _, _ => .notANumber

/-- Equality of numbers; what is not a number is not equal to anything. -/
def Same : LuaNumber → LuaNumber → Prop
  | notANumber, _ => False
  | a, b => a = b

instance (a b : LuaNumber) : Decidable (Same a b) := by
  cases a <;> unfold Same <;> infer_instance

def Negative : LuaNumber → Prop
  | finite value => value < 0
  | infinite negative => negative = true
  | notANumber => False

instance (a : LuaNumber) : Decidable (Negative a) := by
  cases a <;> unfold Negative <;> infer_instance

/-- The text of a number, with fourteen significant digits. -/
def tostring : LuaNumber → NumberText
  | finite value =>
      if value.natAbs < 10 ^ 14 then
        .integer value
      else
        let unit := 10 ^ (Nat.log 10 value.natAbs - 13)
        .scientific (value.sign * (roundHalfEven value.natAbs unit * unit : Nat))
  | infinite negative => .infinite negative
  | notANumber => .notANumber

/-- The number of an integer reply. Outside 64 bits the conversion gives the least one. -/
def reply : LuaNumber → Int
  | finite value => if -2 ^ 63 ≤ value ∧ value < 2 ^ 63 then value else -2 ^ 63
  | _ => -2 ^ 63

end LuaNumber

/-- The number that a text is read as. -/
def NumberText.tonumber : NumberText → LuaNumber
  | integer value => .ofInt value
  | scientific value => .ofInt value
  | infinite negative => .infinite negative
  | notANumber => .notANumber

namespace LuaNumber

theorem two_pow_lt {a b : Nat} (less : a < b) : 2 ^ a < 2 ^ b :=
  Nat.pow_lt_pow_right (by decide) less

/-- Integers of up to 53 bits are doubles. -/
theorem ofInt_small {n : Int} (small : n.natAbs < 2 ^ 53) : ofInt n = .finite n := by
  have bits : n.natAbs.log2 - 52 = 0 := by
    rcases Nat.eq_zero_or_pos n.natAbs with zero | positive
    · simp [zero]
    · have := (Nat.log2_lt (by omega)).mpr small
      omega
  have exact_ : roundHalfEven n.natAbs 1 = n.natAbs := by
    simp [roundHalfEven, Nat.mod_one]
  have inside : n.natAbs < doubleLimit := lt_trans small (two_pow_lt (by decide : 53 < 1024))
  simp only [ofInt, bits, Nat.pow_zero, exact_, Nat.mul_one, inside, if_true, finite.injEq]
  exact Int.sign_mul_natAbs n

theorem same_finite {a : LuaNumber} {value : Int} : a.Same (.finite value) ↔ a = .finite value := by
  cases a <;> simp [Same]

/-- Minus one is the double of no other integer, because nothing is rounded to one. -/
theorem ofInt_same_minusOne {n : Int} : (ofInt n).Same (.finite (-1)) ↔ n = -1 := by
  rw [same_finite]
  constructor
  · intro same
    simp only [ofInt] at same
    split at same
    · have product := LuaNumber.finite.inj same
      have magnitude := congrArg Int.natAbs product
      rw [Int.natAbs_mul, Int.natAbs_natCast] at magnitude
      obtain ⟨_, rounded⟩ := mul_eq_one.mp magnitude
      obtain ⟨_, unit⟩ := mul_eq_one.mp rounded
      rw [unit] at rounded product
      have digits : n.natAbs = 1 := by
        simpa [roundHalfEven, Nat.mod_one] using rounded
      rcases Int.natAbs_eq n with positive | negative
      · rw [digits] at positive
        subst positive
        simp [roundHalfEven] at product
      · rw [digits] at negative
        exact negative
    · cases same
  · intro minusOne
    rw [minusOne]
    exact ofInt_small (by decide)

/-- Rounding keeps a number from becoming negative. -/
theorem ofInt_nonneg {n : Int} (nonneg : 0 ≤ n) : ¬ (ofInt n).Negative := by
  unfold ofInt
  dsimp only
  split
  · exact not_lt.mpr (mul_nonneg (Int.sign_nonneg_iff.mpr nonneg) (Int.natCast_nonneg _))
  · simp [Negative, nonneg]

theorem add_nonneg {a b : LuaNumber} (left : ¬ a.Negative) (right : ¬ b.Negative)
    : ¬ (a.add b).Negative := by
  cases a with
  | finite x =>
      cases b with
      | finite y =>
          have sum : 0 ≤ x + y := Int.add_nonneg (not_lt.mp left) (not_lt.mp right)
          simp only [add]
          exact ofInt_nonneg sum
      | infinite negative => exact right
      | notANumber => exact id
  | infinite negative =>
      cases b with
      | finite y => exact left
      | infinite negative' =>
          simp only [add]
          split
          · exact left
          · exact id
      | notANumber => exact id
  | notANumber => cases b <;> exact id

/-- Reading back the text of a number that is not negative. -/
theorem tostring_nonneg {n : LuaNumber} (nonneg : ¬ n.Negative)
    : ¬ n.tostring.tonumber.Negative := by
  cases n with
  | finite value =>
      have positive : 0 ≤ value := not_lt.mp nonneg
      simp only [tostring]
      split
      · simp only [NumberText.tonumber]
        exact ofInt_nonneg positive
      · simp only [NumberText.tonumber]
        exact ofInt_nonneg (mul_nonneg (Int.sign_nonneg_iff.mpr positive) (Int.natCast_nonneg _))
  | infinite negative => exact nonneg
  | notANumber => exact id

/-- Numbers of up to fourteen digits are written in full. -/
theorem tostring_small {n : Int} (small : n.natAbs < 10 ^ 14)
    : tostring (.finite n) = .integer n := by
  simp only [tostring, small, if_true]

/-- The value of the double nearest to an integer that is not too large for one. -/
def rounded (n : Int) : Int :=
  let unit := 2 ^ (n.natAbs.log2 - 52)
  n.sign * (roundHalfEven n.natAbs unit * unit : Nat)

/-- Rounding to 53 bits leaves an integer of 64 bits within their range. -/
theorem magnitude_le {n : Nat} (small : n ≤ 2 ^ 63)
    : roundHalfEven n (2 ^ (n.log2 - 52)) * 2 ^ (n.log2 - 52) ≤ 2 ^ 64 := by
  have upper := (roundHalfEven_bounds n (2 ^ (n.log2 - 52))).2
  have product := Nat.div_mul_le_self n (2 ^ (n.log2 - 52))
  have unit : 2 ^ (n.log2 - 52) ≤ 2 ^ 63 := by
    apply Nat.pow_le_pow_right (by decide)
    rcases Nat.eq_zero_or_pos n with zero | positive
    · simp [zero]
    · have wide : n < 2 ^ 64 := by omega
      have := (Nat.log2_lt positive.ne').mpr wide
      omega
  calc
    roundHalfEven n (2 ^ (n.log2 - 52)) * 2 ^ (n.log2 - 52)
      ≤ (n / 2 ^ (n.log2 - 52) + 1) * 2 ^ (n.log2 - 52) := Nat.mul_le_mul_right _ upper
    _ = n / 2 ^ (n.log2 - 52) * 2 ^ (n.log2 - 52) + 2 ^ (n.log2 - 52) := by ring
    _ ≤ 2 ^ 64 := by omega

/-- A double is finite, or the integer was too large for one. -/
theorem ofInt_cases (n : Int)
    : ofInt n = .finite (rounded n) ∨ ofInt n = .infinite (decide (n < 0)) := by
  simp only [ofInt, rounded]
  split
  · exact Or.inl rfl
  · exact Or.inr rfl

/-- An integer of 64 bits is not too large for a double. -/
theorem ofInt_rounded {n : Int} (small : n.natAbs ≤ 2 ^ 63) : ofInt n = .finite (rounded n) := by
  have inside : 2 ^ 64 < doubleLimit := two_pow_lt (by decide : 64 < 1024)
  have fits := lt_of_le_of_lt (magnitude_le small) inside
  simp only [ofInt, rounded, fits, if_true]

theorem rounded_small {n : Int} (small : n.natAbs < 2 ^ 53) : rounded n = n := by
  have fits : n.natAbs ≤ 2 ^ 63 := by omega
  exact LuaNumber.finite.inj ((ofInt_rounded fits).symm.trans (ofInt_small small))

/-- Large integers stay large: their leading bits are kept. -/
theorem le_magnitude {n : Nat} (large : 2 ^ 53 ≤ n)
    : 2 ^ 53 ≤ roundHalfEven n (2 ^ (n.log2 - 52)) * 2 ^ (n.log2 - 52) := by
  have positive : n ≠ 0 := by
    rintro rfl
    simp at large
  have bits : 53 ≤ n.log2 := (Nat.le_log2 positive).mpr large
  have leading : 2 ^ 52 * 2 ^ (n.log2 - 52) ≤ n := by
    rw [← Nat.pow_add, Nat.add_sub_cancel' (by omega : 52 ≤ n.log2)]
    exact Nat.log2_self_le positive
  have quotient : 2 ^ 52 ≤ n / 2 ^ (n.log2 - 52) :=
    (Nat.le_div_iff_mul_le (Nat.two_pow_pos _)).mpr leading
  have lower := (roundHalfEven_bounds n (2 ^ (n.log2 - 52))).1
  have unit : 2 ^ 1 ≤ 2 ^ (n.log2 - 52) := Nat.pow_le_pow_right (by decide) (by omega)
  calc
    2 ^ 53 = 2 ^ 52 * 2 ^ 1 := by decide
    _ ≤ roundHalfEven n (2 ^ (n.log2 - 52)) * 2 ^ (n.log2 - 52) :=
      Nat.mul_le_mul (quotient.trans lower) unit

/-- A small value is the double of no other integer. -/
theorem ofInt_eq_small {n value : Int} (small : value.natAbs < 2 ^ 53)
    : ofInt n = .finite value ↔ n = value := by
  constructor
  · intro same
    by_cases few : n.natAbs < 2 ^ 53
    · rw [ofInt_small few] at same
      exact LuaNumber.finite.inj same
    · have large := le_magnitude (not_lt.mp few)
      have nonzero : n ≠ 0 := by
        rintro rfl
        simp at few
      simp only [ofInt] at same
      split at same
      · have magnitude := congrArg Int.natAbs (LuaNumber.finite.inj same)
        rw [Int.natAbs_mul, Int.natAbs_natCast, Int.natAbs_sign_of_ne_zero nonzero, Nat.one_mul]
          at magnitude
        omega
      · cases same
  · rintro rfl
    exact ofInt_small small

/-- Adding a small integer gives a small value only where the sum is that value. -/
theorem add_eq_small {n m value : Int} (small : value.natAbs < 2 ^ 53) (smallM : m.natAbs < 2 ^ 53)
    (smallN : (value - m).natAbs < 2 ^ 53)
    : (ofInt n).add (ofInt m) = .finite value ↔ n + m = value := by
  rw [ofInt_small smallM]
  have isSmall (sum : n + m = value) : ofInt n = .finite n := by
    obtain rfl : n = value - m := by omega
    exact ofInt_small smallN
  generalize double : ofInt n = number at isSmall ⊢
  cases number with
  | finite x =>
      simp only [add, ofInt_eq_small small]
      constructor
      · intro sum
        obtain rfl : x = value - m := by omega
        have exact_ := (ofInt_eq_small smallN).mp double
        omega
      · intro sum
        rwa [LuaNumber.finite.inj (isSmall sum)]
  | infinite negative =>
      exact iff_of_false (fun sum => by cases sum) (fun sum => by cases isSmall sum)
  | notANumber =>
      exact iff_of_false (fun sum => by cases sum) (fun sum => by cases isSmall sum)

/-- Rounding keeps a number negative. -/
theorem rounded_negative {n : Int} (negative : n < 0) : rounded n < 0 := by
  rcases lt_or_ge n.natAbs (2 ^ 53) with few | many
  · rwa [rounded_small few]
  · have positive := lt_of_lt_of_le (Nat.two_pow_pos 53) (le_magnitude many)
    exact Int.mul_neg_of_neg_of_pos (Int.sign_neg_iff.mpr negative) (Int.natCast_pos.mpr positive)

theorem negative_of_eq_ofInt {n : Int} {number : LuaNumber} (isDouble : number = ofInt n)
    (negative : n < 0)
    : number.Negative := by
  rcases ofInt_cases n with found | found
  · rw [found] at isDouble
    subst isDouble
    exact rounded_negative negative
  · rw [found] at isDouble
    subst isDouble
    exact decide_eq_true negative

/-- Only numbers of up to fourteen digits are written in full. -/
theorem tostring_int?_eq_some {number : LuaNumber} {value : Int}
    : number.tostring.int? = some value ↔ number = .finite value ∧ value.natAbs < 10 ^ 14 := by
  cases number with
  | finite n =>
      simp only [tostring]
      split
      · rename_i small
        simp only [NumberText.int?, Option.some.injEq, finite.injEq]
        constructor
        · rintro rfl
          exact ⟨rfl, small⟩
        · exact And.left
      · rename_i large
        simp only [NumberText.int?, finite.injEq]
        refine iff_of_false (fun read => by cases read) ?_
        rintro ⟨rfl, small⟩
        exact large small
  | infinite negative =>
      exact iff_of_false (fun read => by cases read) (fun same => by cases same.1)
  | notANumber => exact iff_of_false (fun read => by cases read) (fun same => by cases same.1)

example : (tostring (ofInt 123456789012345678)).text = "1.2345678901235e+17" := by decide +kernel

end LuaNumber

end Foundation
