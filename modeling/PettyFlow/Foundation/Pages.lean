import Mathlib

/-! A list cut into pages of one size, counted from zero. -/

namespace Foundation

variable {α β : Type}

/-- The items of a page. Pages beyond the end are empty. -/
def page (size : Nat) (items : List α) (number : Nat) : List α :=
  (items.drop (number * size)).take size

theorem length_page (size : Nat) (items : List α) (number : Nat)
    : (page size items number).length = min size (items.length - number * size) := by
  rw [page, List.length_take, List.length_drop]

theorem map_page (size : Nat) (f : α → β) (items : List α) (number : Nat)
    : (page size items number).map f = page size (items.map f) number := by
  rw [page, page, List.map_take, List.map_drop]

/-- The first pages, one after the other, are the beginning of the list. -/
theorem flatMap_page (size : Nat) (items : List α) (count : Nat)
    : (List.range count).flatMap (page size items) = items.take (count * size) := by
  induction count with
  | zero => simp
  | succ count ih =>
      rw [List.range_succ, List.flatMap_append, ih, List.flatMap_singleton, page, Nat.succ_mul,
        List.take_add]

/-- Pages that reach the end hold every item in its place. -/
theorem flatMap_page_of_covered {size : Nat} {items : List α} {count : Nat}
    (covered : items.length ≤ count * size)
    : (List.range count).flatMap (page size items) = items := by
  rw [flatMap_page, List.take_of_length_le covered]

/-- Each of several pages that reach the end is as long as the list only when there is one page,
or nothing on any.
-/
theorem length_page_eq_iff {size : Nat} {items : List α} {count : Nat} (positive : 1 ≤ size)
    (some : 1 ≤ count) (covered : items.length ≤ count * size)
    : (∀ number < count, (page size items number).length = items.length)
      ↔ items = [] ∨ count = 1 := by
  simp only [length_page]
  constructor
  · intro whole
    by_cases single : count = 1
    · exact Or.inr single
    · have first := whole 0 (by omega)
      have second := whole 1 (by omega)
      exact Or.inl (List.length_eq_zero_iff.mp (by omega))
  · rintro (rfl | rfl) number inside
    · simp
    · obtain rfl : number = 0 := by omega
      omega

end Foundation
