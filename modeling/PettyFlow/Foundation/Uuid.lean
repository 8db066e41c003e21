import Mathlib

/-! Random identifiers and their two spellings. -/

namespace Foundation

/-- The digit of a value below sixteen. -/
def hexDigit (n : Nat) : Char :=
  if n < 10 then Char.ofNat (0x30 + n) else Char.ofNat (0x57 + n)

/-- The lowest `width` hexadecimal digits of a number, most significant first. -/
def hexDigits : Nat → Nat → List Char
  | 0, _ => []
  | width + 1, n => hexDigits width (n / 16) ++ [hexDigit (n % 16)]

@[simp] theorem hexDigits_length (width n : Nat) : (hexDigits width n).length = width := by
  induction width generalizing n with
  | zero => rfl
  | succ width ih => simp [hexDigits, ih]

theorem hexDigit_injective {a b : Nat} (ha : a < 16) (hb : b < 16)
    (same : hexDigit a = hexDigit b)
    : a = b := by
  have each : ∀ x < 16, ∀ y < 16, hexDigit x = hexDigit y → x = y := by decide
  exact each a ha b hb same

/-- Numbers below `16 ^ width` are told apart by their digits, by induction on the width. -/
theorem hexDigits_injective (width : Nat) {a b : Nat} (ha : a < 16 ^ width)
    (hb : b < 16 ^ width) (same : hexDigits width a = hexDigits width b)
    : a = b := by
  induction width generalizing a b with
  | zero =>
      rw [Nat.pow_zero, Nat.lt_one_iff] at ha hb
      rw [ha, hb]
  | succ width ih =>
      have pieces := List.append_inj' same rfl
      have low := hexDigit_injective (Nat.mod_lt a (by decide)) (Nat.mod_lt b (by decide))
        (List.cons.inj pieces.2).1
      have high : a / 16 = b / 16 := by
        refine ih ?_ ?_ pieces.1
        · exact Nat.div_lt_of_lt_mul (by rwa [Nat.pow_succ'] at ha)
        · exact Nat.div_lt_of_lt_mul (by rwa [Nat.pow_succ'] at hb)
      rw [← Nat.div_add_mod a 16, ← Nat.div_add_mod b 16, high, low]

/-- A 128-bit random identifier. -/
structure Uuid where
  int : BitVec 128
deriving DecidableEq

namespace Uuid

/-- The 32 digits of an identifier. -/
def digits (u : Uuid) : List Char := hexDigits 32 u.int.toNat

def hex (u : Uuid) : String := String.ofList u.digits

/-- The usual text: the digits in groups of 8, 4, 4, 4 and 12. -/
def text (u : Uuid) : String :=
  String.ofList
    (u.digits.take 8 ++ '-' :: ((u.digits.drop 8).take 4 ++ '-' :: ((u.digits.drop 12).take 4
      ++ '-' :: ((u.digits.drop 16).take 4 ++ '-' :: u.digits.drop 20))))

@[simp] theorem digits_length (u : Uuid) : u.digits.length = 32 := hexDigits_length _ _

end Uuid

end Foundation
