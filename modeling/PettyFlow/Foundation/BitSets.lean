import Mathlib

/-! Numbers as the sets of their bits. -/

namespace Foundation

/-- The places of the bits of a number. -/
def bits (n : Nat) : Finset Nat := n.bitIndices.toFinset

@[simp] theorem mem_bits {n i : Nat} : i ∈ bits n ↔ n.testBit i = true := by
  rw [bits, List.mem_toFinset, Nat.mem_bitIndices]

theorem card_bits (n : Nat) : (bits n).card = n.bitIndices.length :=
  List.toFinset_card_of_nodup Nat.bitIndices_nodup

@[simp] theorem bits_zero : bits 0 = ∅ := by
  rw [bits, Nat.bitIndices_zero, List.toFinset_nil]

theorem bits_injective : Function.Injective bits := by
  intro a b same
  apply Nat.eq_of_testBit_eq
  intro i
  rw [Bool.eq_iff_iff, ← mem_bits, ← mem_bits, same]

/-- The bits of an exclusive disjunction are those of just one of the numbers. -/
theorem bits_xor (a b : Nat) : bits (a ^^^ b) = symmDiff (bits a) (bits b) := by
  ext i
  rw [mem_bits, Nat.testBit_xor, Finset.mem_symmDiff, mem_bits, mem_bits]
  cases a.testBit i <;> cases b.testBit i <;> decide

/-! ### The lowest bit -/

/-- A number without its lowest bit. -/
def clearLowest (n : Nat) : Nat := n &&& (n - 1)

theorem clearLowest_odd (n : Nat) : clearLowest (2 * n + 1) = 2 * n := by
  apply Nat.eq_of_testBit_eq
  intro i
  rw [clearLowest, Nat.add_sub_cancel, Nat.testBit_and]
  cases i with
  | zero => simp
  | succ i => simp [Nat.testBit_add_one, Nat.mul_add_div]

/-- Below an even number the borrow passes on to its half. -/
theorem clearLowest_even {n : Nat} (positive : 0 < n)
    : clearLowest (2 * n) = 2 * clearLowest n := by
  have borrow : 2 * n - 1 = 2 * (n - 1) + 1 := by omega
  apply Nat.eq_of_testBit_eq
  intro i
  rw [clearLowest, borrow, Nat.testBit_and]
  cases i with
  | zero => simp
  | succ i => simp [Nat.testBit_add_one, Nat.mul_add_div, clearLowest]

theorem clearLowest_lt {n : Nat} (positive : 0 < n) : clearLowest n < n :=
  Nat.lt_of_le_of_lt Nat.and_le_right (Nat.sub_one_lt positive.ne')

/-- Clearing takes away one bit, by induction over the binary digits. -/
theorem card_bits_clearLowest {n : Nat} (positive : 0 < n)
    : (bits (clearLowest n)).card + 1 = (bits n).card := by
  induction n using Nat.strong_induction_on with
  | _ n ih =>
      rcases Nat.even_or_odd' n with ⟨half, rfl | rfl⟩
      · have less : 0 < half := by omega
        rw [clearLowest_even less, card_bits, card_bits, Nat.bitIndices_two_mul,
          Nat.bitIndices_two_mul, List.length_map, List.length_map, ← card_bits, ← card_bits]
        exact ih half (by omega) less
      · rw [clearLowest_odd, card_bits, card_bits, Nat.bitIndices_two_mul,
          Nat.bitIndices_two_mul_add_one, List.length_cons]

/-! ### Differing bits -/

/-- In how many bits two numbers differ. -/
def differingBits (a b : Nat) : Nat := (symmDiff (bits a) (bits b)).card

/-- A distance with natural values is one of a metric space. -/
structure IsMetric {α : Type} (distance : α → α → Nat) : Prop where
  zero_iff : ∀ a b, distance a b = 0 ↔ a = b
  symm : ∀ a b, distance a b = distance b a
  triangle : ∀ a b c, distance a c ≤ distance a b + distance b c

/-- A bit in which the outer two differ is one in which the middle one differs from either. -/
theorem differingBits_triangle (a b c : Nat)
    : differingBits a c ≤ differingBits a b + differingBits b c :=
  calc
    differingBits a c
      ≤ (symmDiff (bits a) (bits b) ∪ symmDiff (bits b) (bits c)).card :=
      Finset.card_le_card (symmDiff_triangle _ _ _)
    _ ≤ differingBits a b + differingBits b c := Finset.card_union_le _ _

theorem isMetric_differingBits : IsMetric differingBits where
  zero_iff a b := by
    rw [differingBits, Finset.card_eq_zero, ← Finset.bot_eq_empty, symmDiff_eq_bot]
    exact bits_injective.eq_iff
  symm a b := by rw [differingBits, symmDiff_comm, differingBits]
  triangle := differingBits_triangle

end Foundation
