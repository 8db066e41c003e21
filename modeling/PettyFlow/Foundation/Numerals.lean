import PettyFlow.Foundation.CharTables
import PettyFlow.Foundation.Clock

/-! Numbers written with a fixed number of digits, and with commas between the thousands. -/

namespace Foundation

/-- The last digits of a number, with zeros in front if it has fewer. -/
def lastDigits : Nat → Nat → List Char
  | 0, _ => []
  | count + 1, n => lastDigits count (n / 10) ++ [Nat.digitChar (n % 10)]

/-- A number with commas between its thousands. -/
def separated (n : Nat) : List Char :=
  if n < 1000 then Nat.toDigits 10 n else separated (n / 1000) ++ ',' :: lastDigits 3 n

theorem length_lastDigits (count n : Nat) : (lastDigits count n).length = count := by
  induction count generalizing n with
  | zero => rfl
  | succ count ih => rw [lastDigits, List.length_append, ih, List.length_singleton]

theorem isDigit_of_mem_lastDigits {count n : Nat} {c : Char} (member : c ∈ lastDigits count n)
    : c.isDigit = true := by
  induction count generalizing n with
  | zero => cases member
  | succ count ih =>
      rcases List.mem_append.mp member with earlier | last
      · exact ih earlier
      · rw [List.mem_singleton.mp last]
        exact Nat.isDigit_digitChar.trans (decide_eq_true (Nat.mod_lt _ (by decide)))

theorem isDigit_of_mem_separated {n : Nat} {c : Char} (member : c ∈ separated n)
    : c.isDigit = true ∨ c = ',' := by
  induction n using Nat.strong_induction_on with
  | _ n ih =>
      rw [separated] at member
      split at member
      · exact Or.inl (Nat.isDigit_of_mem_toDigits (by decide) (by decide) member)
      · rename_i large
        rcases List.mem_append.mp member with front | back
        · exact ih (n / 1000) (by omega) front
        · rcases List.mem_cons.mp back with rfl | digit
          · exact Or.inr rfl
          · exact Or.inl (isDigit_of_mem_lastDigits digit)

theorem CharTables.number_lastDigits (tables : CharTables) (count n : Nat)
    : tables.number (lastDigits count n) = n % 10 ^ count := by
  induction count generalizing n with
  | zero => rw [pow_zero, Nat.mod_one, lastDigits, number, List.foldl_nil]
  | succ count ih =>
      have digit : (tables.decimal? (Nat.digitChar (n % 10))).getD 0 = n % 10 := by
        have small : n % 10 < 10 := Nat.mod_lt _ (by decide)
        have single := tables.number_toDigits (n % 10)
        rwa [Nat.toDigits_of_lt_base small, number_cons, List.length_nil, pow_zero, Nat.mul_one]
          at single
      rw [lastDigits, number_append, ih, number_cons, digit, List.length_nil, pow_zero, Nat.mul_one,
        List.length_singleton, pow_one, pow_succ', Nat.mod_mul]
      simp [number, mul_comm, add_comm]

/-- Numbers of few digits are determined by their last ones. -/
theorem lastDigits_inj {count n n' : Nat} (small : n < 10 ^ count) (small' : n' < 10 ^ count)
    (same : lastDigits count n = lastDigits count n')
    : n = n' := by
  have numbers := congrArg CharTables.ascii.number same
  rwa [CharTables.number_lastDigits, CharTables.number_lastDigits, Nat.mod_eq_of_lt small,
    Nat.mod_eq_of_lt small'] at numbers

theorem digitChar_of_isDigit {c : Char} (digit : c.isDigit = true)
    : Nat.digitChar (c.toNat - '0'.toNat) = c := by
  have range := isDigit_iff.mp digit
  change Nat.digitChar (c.toNat - 48) = c
  apply Char.toNat_inj.mp
  rw [Nat.toNat_digitChar_of_lt_ten (by omega)]
  omega

/-- Digits are determined by how many they are and the number that they spell. -/
theorem lastDigits_number (tables : CharTables) {digits : List Char}
    (plain : ∀ c ∈ digits, c.isDigit = true)
    : lastDigits digits.length (tables.number digits) = digits := by
  induction digits using List.reverseRecOn with
  | nil => rfl
  | append_singleton digits c ih =>
      have digit := plain c (by simp)
      have range := isDigit_iff.mp digit
      have value : (tables.decimal? c).getD 0 = c.toNat - '0'.toNat := by
        rw [tables.decimal_ascii (by omega), digit]
        rfl
      have last : tables.number [c] = c.toNat - '0'.toNat := by
        rw [tables.number_cons, value, List.length_nil, pow_zero, Nat.mul_one]
        rfl
      have small : c.toNat - '0'.toNat < 10 := by
        change c.toNat - 48 < 10
        omega
      have front
          : (tables.number digits * 10 + (c.toNat - '0'.toNat)) / 10 = tables.number digits := by
        omega
      have digit'
          : (tables.number digits * 10 + (c.toNat - '0'.toNat)) % 10 = c.toNat - '0'.toNat := by
        omega
      rw [List.length_append, List.length_singleton, lastDigits, tables.number_append, last,
        List.length_singleton, pow_one, front, digit',
        ih (fun d member => plain d (List.mem_append_left _ member)), digitChar_of_isDigit digit]

theorem number_zeros (k : Nat) : CharTables.ascii.number (List.replicate k '0') = 0 := by
  have zero : (CharTables.ascii.decimal? '0').getD 0 = 0 := rfl
  induction k with
  | zero => rfl
  | succ k ih => rw [List.replicate_succ, CharTables.number_cons, ih, zero, Nat.zero_mul]

/-- A padded number is its digits behind the zeros that are missing. -/
theorem zeroPadded_eq (count n : Nat)
    : (zeroPadded count n).toList
      = List.replicate (count - (Nat.toDigits 10 n).length) '0' ++ Nat.toDigits 10 n := by
  have numeral : (toString (n : Int)).toList = Nat.toDigits 10 n := String.toList_ofList
  rw [zeroPadded, String.toList_append, String.toList_ofList, numeral, ← String.length_toList,
    numeral]

/-- Padding does not change the number that is spelled. -/
theorem number_zeroPadded (count n : Nat)
    : CharTables.ascii.number (zeroPadded count n).toList = n := by
  rw [zeroPadded_eq, CharTables.number_append, number_zeros, Nat.zero_mul, Nat.zero_add,
    CharTables.number_toDigits]

/-- Padding fills a number up to its last digits. -/
theorem toList_zeroPadded {count n : Nat} (some : 0 < count) (small : n < 10 ^ count)
    : (zeroPadded count n).toList = lastDigits count n := by
  have fits : (Nat.toDigits 10 n).length ≤ count :=
    (Nat.length_toDigits_le_iff (by decide) some).mpr small
  have length : (zeroPadded count n).toList.length = count := by
    rw [zeroPadded_eq, List.length_append, List.length_replicate, Nat.sub_add_cancel fits]
  have plain (c : Char) (member : c ∈ (zeroPadded count n).toList) : c.isDigit = true := by
    rw [zeroPadded_eq] at member
    rcases List.mem_append.mp member with padding | digit
    · rw [List.eq_of_mem_replicate padding]
      rfl
    · exact Nat.isDigit_of_mem_toDigits (by decide) (by decide) digit
  have back := lastDigits_number .ascii plain
  rw [length, number_zeroPadded] at back
  exact back.symm

/-- Numbers with as much padding differ in their texts. -/
theorem zeroPadded_injective (count : Nat) {n n' : Nat}
    (same : zeroPadded count n = zeroPadded count n')
    : n = n' := by
  rw [← number_zeroPadded count n, same, number_zeroPadded count n']

end Foundation
