import Mathlib

/-! Binary search in a sorted list, and in a table sorted by its keys. -/

namespace Foundation

variable {α υ : Type} [LinearOrder α]

/-- Narrow the interval from `lo` to `hi` until it is empty. Each round shrinks it, so that
its length bounds the rounds.
-/
def bisectRounds (xs : List α) (x : α) : Nat → Nat → Nat → Nat
  | 0, lo, _ => lo
  | rounds + 1, lo, hi =>
      if lo < hi then
        let mid := (lo + hi) / 2
        match xs[mid]? with
        | some value =>
            if x < value then
              bisectRounds xs x rounds lo mid
            else
              bisectRounds xs x rounds (mid + 1) hi
        | none => lo
      else
        lo

/-- The place behind every element that is not greater than `x`. -/
def bisectRight (xs : List α) (x : α) : Nat := bisectRounds xs x xs.length 0 xs.length

/-- `cut` separates the elements up to `x` from the greater ones. -/
structure Separates (xs : List α) (x : α) (cut : Nat) : Prop where
  bounded : cut ≤ xs.length
  upTo : ∀ i value, i < cut → xs[i]? = some value → value ≤ x
  above : ∀ i value, cut ≤ i → xs[i]? = some value → x < value

/-- Bisection keeps the elements up to `x` below the interval and the greater ones above it,
by induction over the rounds.
-/
theorem bisectRounds_separates {xs : List α} {x : α} (sorted : xs.Pairwise (· ≤ ·))
    {rounds lo hi : Nat} (enough : hi ≤ lo + rounds) (ordered : lo ≤ hi)
    (bounded : hi ≤ xs.length)
    (upTo : ∀ i value, i < lo → xs[i]? = some value → value ≤ x)
    (above : ∀ i value, hi ≤ i → xs[i]? = some value → x < value)
    : Separates xs x (bisectRounds xs x rounds lo hi) := by
  have monotone {i j : Nat} {a b : α} (before : i ≤ j) (left : xs[i]? = some a)
      (right : xs[j]? = some b)
      : a ≤ b := by
    obtain ⟨inside, rfl⟩ := List.getElem?_eq_some_iff.mp left
    obtain ⟨inside', rfl⟩ := List.getElem?_eq_some_iff.mp right
    rcases Nat.eq_or_lt_of_le before with rfl | strictly
    · exact le_refl _
    · exact List.pairwise_iff_getElem.mp sorted i j inside inside' strictly
  -- A round halves the open range, and what lies outside it is on the right side already
  induction rounds generalizing lo hi with
  | zero =>
      obtain rfl : lo = hi := by omega
      exact ⟨bounded, upTo, above⟩
  | succ rounds ih =>
      by_cases open_ : lo < hi
      · have inside : (lo + hi) / 2 < xs.length := by omega
        have middle : xs[(lo + hi) / 2]? = some xs[(lo + hi) / 2] :=
          List.getElem?_eq_getElem inside
        simp only [bisectRounds, open_, if_true, middle]
        split
        · rename_i greater
          apply ih (by omega) (by omega) (by omega) upTo
          intro i value place listed
          exact lt_of_lt_of_le greater (monotone place middle listed)
        · rename_i notGreater
          apply ih (by omega) (by omega) bounded _ above
          intro i value place listed
          exact le_trans (monotone (by omega) listed middle) (not_lt.mp notGreater)
      · obtain rfl : lo = hi := by omega
        simp only [bisectRounds, lt_irrefl, if_false]
        exact ⟨bounded, upTo, above⟩

theorem bisectRight_separates {xs : List α} (x : α) (sorted : xs.Pairwise (· ≤ ·))
    : Separates xs x (bisectRight xs x) := by
  apply bisectRounds_separates sorted (by omega) (Nat.zero_le _) (le_refl _)
  · intro i value below
    omega
  · intro i value beyond listed
    rw [List.getElem?_eq_none beyond] at listed
    cases listed

/-- The entry of a sorted table with the greatest key up to `key`, or else its first entry. -/
def entryAt (table : List (α × υ)) (key : α) : Option (α × υ) :=
  match bisectRight (table.map Prod.fst) key with
  | 0 => table[0]?
  | place + 1 => table[place]?

section EntryAt

variable {table : List (α × υ)} {entry : α × υ} {key : α}

private theorem keys_separated (sorted : table.Pairwise (fun a b => a.1 < b.1)) (key : α)
    : Separates (table.map Prod.fst) key (bisectRight (table.map Prod.fst) key) :=
  bisectRight_separates key (List.pairwise_map.mpr (sorted.imp le_of_lt))

/-- An entry with the greatest key up to `key` stands right before the cut. -/
theorem entryAt_of_greatest (sorted : table.Pairwise (fun a b => a.1 < b.1))
    (member : entry ∈ table) (upTo : entry.1 ≤ key)
    (greatest : ∀ other ∈ table, other.1 ≤ key → other.1 ≤ entry.1)
    : entryAt table key = some entry := by
  have cut := keys_separated sorted key
  obtain ⟨i, inside, rfl⟩ := List.getElem_of_mem member
  have below : i < bisectRight (table.map Prod.fst) key := by
    by_contra beyond
    exact absurd upTo (not_le_of_gt (cut.above i _ (not_lt.mp beyond) (by simp [inside])))
  unfold entryAt
  split
  · omega
  · rename_i place found
    rw [found] at cut below
    rcases Nat.eq_or_lt_of_le (Nat.le_of_lt_succ below) with rfl | earlier
    · exact List.getElem?_eq_getElem inside
    · have placeInside : place < table.length := by
        simpa using Nat.lt_of_succ_le cut.bounded
      have strictly := List.pairwise_iff_getElem.mp sorted i place inside placeInside earlier
      have last := cut.upTo place table[place].1 (Nat.lt_succ_self _) (by simp [placeInside])
      exact absurd (greatest _ (List.getElem_mem _) last) (not_le_of_gt strictly)

/-- Where every key is greater than `key`, the entry with the least key stands first. -/
theorem entryAt_of_least (sorted : table.Pairwise (fun a b => a.1 < b.1))
    (member : entry ∈ table) (above : ∀ other ∈ table, key < other.1)
    (least : ∀ other ∈ table, entry.1 ≤ other.1)
    : entryAt table key = some entry := by
  have cut := keys_separated sorted key
  obtain ⟨i, inside, rfl⟩ := List.getElem_of_mem member
  have first : 0 < table.length := by omega
  unfold entryAt
  split
  · rcases Nat.eq_zero_or_pos i with rfl | later
    · exact List.getElem?_eq_getElem inside
    · have strictly := List.pairwise_iff_getElem.mp sorted 0 i first inside later
      exact absurd (least _ (List.getElem_mem first)) (not_le_of_gt strictly)
  · rename_i place found
    rw [found] at cut
    have low := cut.upTo 0 table[0].1 (Nat.succ_pos _) (by simp [first])
    exact absurd low (not_le_of_gt (above _ (List.getElem_mem first)))

/-- Only an empty table has no entry for a key. -/
theorem entryAt_nil (key : α) : entryAt ([] : List (α × υ)) key = none := rfl

end EntryAt

end Foundation
