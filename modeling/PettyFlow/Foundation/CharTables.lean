import PettyFlow.Foundation.Values

/-! Decimal digits and word characters as the tables of Unicode list them, and the numbers that
digits spell. The tables grow from one version of Unicode to the next, so they are a parameter:
what is said of all tables holds of each version.
-/

namespace Foundation

/-- The values of the decimal digits, and which characters belong to words. -/
structure CharTables where
  decimal? : Char → Option Nat
  isWord : Char → Bool
  decimal_ascii
    : ∀ {c : Char},
        c.toNat < 0x80 → decimal? c = if c.isDigit then some (c.toNat - '0'.toNat) else none
  isWord_ascii : ∀ {c : Char}, c.toNat < 0x80 → isWord c = (c.isAlphanum || c = '_')
  decimal_lt : ∀ {c : Char} {digit : Nat}, decimal? c = some digit → digit < 10
  isWord_of_decimal : ∀ {c : Char}, (decimal? c).isSome → isWord c = true
  not_isSpace_of_word : ∀ {c : Char}, isWord c = true → isSpace c = false

theorem isDigit_iff {c : Char} : c.isDigit = true ↔ 0x30 ≤ c.toNat ∧ c.toNat ≤ 0x39 := by
  simp only [Char.isDigit, Bool.and_eq_true, decide_eq_true_eq, ge_iff_le, UInt32.le_iff_toNat_le]
  rfl

theorem isAlphanum_iff {c : Char}
    : c.isAlphanum = true
      ↔ (0x41 ≤ c.toNat ∧ c.toNat ≤ 0x5A ∨ 0x61 ≤ c.toNat ∧ c.toNat ≤ 0x7A)
        ∨ 0x30 ≤ c.toNat ∧ c.toNat ≤ 0x39 := by
  simp only [Char.isAlphanum, Char.isAlpha, Char.isUpper, Char.isLower, Char.isDigit,
    Bool.or_eq_true, Bool.and_eq_true, decide_eq_true_eq, ge_iff_le, UInt32.le_iff_toNat_le]
  rfl

namespace CharTables

/-- The tables of ASCII alone. -/
def ascii : CharTables where
  decimal? c := if c.isDigit then some (c.toNat - '0'.toNat) else none
  isWord c := c.isAlphanum || c = '_'
  decimal_ascii _ := rfl
  isWord_ascii _ := rfl
  decimal_lt := by
    intro c digit found
    split at found
    · rename_i isDigit
      have range := isDigit_iff.mp isDigit
      have value := Option.some.inj found
      change c.toNat - 48 = digit at value
      omega
    · cases found
  isWord_of_decimal := by
    intro c found
    split at found
    · rename_i isDigit
      simp [Char.isAlphanum, isDigit]
    · cases found
  not_isSpace_of_word := by
    intro c word
    have range : 0x30 ≤ c.toNat ∧ c.toNat ≤ 0x7A := by
      rcases Bool.or_eq_true_iff.mp word with alphanumeric | underscore
      · have ranges := isAlphanum_iff.mp alphanumeric
        omega
      · rw [of_decide_eq_true underscore]
        decide
    simp only [isSpace, List.contains_eq_mem, List.mem_cons, List.not_mem_nil,
      Bool.or_eq_false_iff, Bool.and_eq_false_iff, decide_eq_false_iff_not, or_false]
    omega

variable (tables : CharTables)

def isDecimal (c : Char) : Bool := (tables.decimal? c).isSome

/-- The number that digits spell, the first one highest. -/
def number (digits : List Char) : Nat :=
  digits.foldl (fun value c => 10 * value + (tables.decimal? c).getD 0) 0

theorem isDecimal_ascii {c : Char} (ascii : c.toNat < 0x80) : tables.isDecimal c = c.isDigit := by
  rw [isDecimal, tables.decimal_ascii ascii]
  cases c.isDigit <;> rfl

theorem isDecimal_of_isDigit {c : Char} (digit : c.isDigit = true) : tables.isDecimal c = true := by
  have range := isDigit_iff.mp digit
  rw [tables.isDecimal_ascii (by omega), digit]

theorem isWord_of_isDecimal {c : Char} (decimal : tables.isDecimal c = true)
    : tables.isWord c = true :=
  tables.isWord_of_decimal decimal

theorem not_isDecimal_of_isSpace {c : Char} (blank : isSpace c = true)
    : tables.isDecimal c = false := by
  cases decimal : tables.isDecimal c with
  | false => rfl
  | true =>
      rw [tables.not_isSpace_of_word (tables.isWord_of_isDecimal decimal)] at blank
      cases blank

/-! ### Numbers -/

theorem digitValue_lt (c : Char) : (tables.decimal? c).getD 0 < 10 := by
  cases found : tables.decimal? c with
  | none => exact Nat.succ_pos _
  | some digit => exact tables.decimal_lt found

private theorem foldl_number (digits : List Char) (value : Nat)
    : digits.foldl (fun value c => 10 * value + (tables.decimal? c).getD 0) value
      = value * 10 ^ digits.length + tables.number digits := by
  induction digits generalizing value with
  | nil => simp [number]
  | cons c digits ih =>
      rw [number, List.foldl_cons, List.foldl_cons, ih, ih (10 * 0 + _), List.length_cons, pow_succ]
      ring

theorem number_append (digits digits' : List Char)
    : tables.number (digits ++ digits')
      = tables.number digits * 10 ^ digits'.length + tables.number digits' := by
  rw [number, List.foldl_append, foldl_number]
  rfl

theorem number_cons (c : Char) (digits : List Char)
    : tables.number (c :: digits)
      = (tables.decimal? c).getD 0 * 10 ^ digits.length + tables.number digits := by
  rw [number, List.foldl_cons, foldl_number, Nat.mul_zero, Nat.zero_add]

theorem number_lt (digits : List Char) : tables.number digits < 10 ^ digits.length := by
  induction digits with
  | nil => exact Nat.one_pos
  | cons c digits ih =>
      have small := tables.digitValue_lt c
      rw [number_cons, List.length_cons, pow_succ]
      nlinarith

/-- The last digits spell the rest of the number. -/
theorem number_drop (digits : List Char) (count : Nat)
    : tables.number (digits.drop (digits.length - count))
      = tables.number digits % 10 ^ count := by
  rcases Nat.lt_or_ge count digits.length with more | fewer
  · have size : (digits.drop (digits.length - count)).length = count := by
      rw [List.length_drop]
      omega
    have split := tables.number_append (digits.take (digits.length - count))
      (digits.drop (digits.length - count))
    have small := tables.number_lt (digits.drop (digits.length - count))
    rw [List.take_append_drop, size] at split
    rw [size] at small
    rw [split, Nat.mul_add_mod_self_right, Nat.mod_eq_of_lt small]
  · have small : tables.number digits < 10 ^ count :=
      (tables.number_lt digits).trans_le (Nat.pow_le_pow_right (by decide) fewer)
    rw [Nat.sub_eq_zero_of_le fewer, List.drop_zero, Nat.mod_eq_of_lt small]

/-- Plain digits spell the same number in all tables. -/
theorem number_of_isDigit {digits : List Char} (plain : ∀ c ∈ digits, c.isDigit = true)
    : tables.number digits = Nat.ofDigitChars 10 digits 0 := by
  rw [Nat.ofDigitChars_eq_foldl, number]
  refine List.foldl_ext _ _ _ (fun value c member => ?_)
  have digit := plain c member
  rw [tables.decimal_ascii (by have := isDigit_iff.mp digit; omega), digit]
  rfl

theorem number_toDigits (n : Nat) : tables.number (Nat.toDigits 10 n) = n := by
  rw [number_of_isDigit tables (fun c member =>
    Nat.isDigit_of_mem_toDigits (by decide) (by decide) member)]
  exact Nat.ofDigitChars_toDigits (by decide) (by decide)

end CharTables

end Foundation
