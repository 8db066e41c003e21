import Mathlib

/-! Half-open ranges over a linear order, with or without an upper end, and when a sorted
family of them is free of overlaps.
-/

namespace Foundation

/-- A nonempty range from `lower` up to, and without, an upper end if it has one. -/
structure Range (α : Type) [LinearOrder α] where
  lower : α
  upper : Option α
  proper : ∀ u ∈ upper, lower < u

namespace Range

variable {α : Type} [LinearOrder α]

def Contains (r : Range α) (x : α) : Prop := r.lower ≤ x ∧ ∀ u ∈ r.upper, x < u

/-- The first range ends before the second begins. -/
def Before (r s : Range α) : Prop := ∃ u ∈ r.upper, u ≤ s.lower

/-- No point lies in both ranges. -/
def Apart (r s : Range α) : Prop := ∀ x, r.Contains x → ¬ s.Contains x

theorem contains_lower (r : Range α) : r.Contains r.lower := ⟨le_refl _, r.proper⟩

theorem Apart.symm {r s : Range α} (h : r.Apart s) : s.Apart r :=
  fun x inS inR => h x inR inS

theorem Before.apart {r s : Range α} (h : r.Before s) : r.Apart s := by
  obtain ⟨u, ends, le⟩ := h
  intro x inR inS
  exact absurd (inR.2 u ends) (not_lt.mpr (le.trans inS.1))

/-- Ending before is transitive because every range ends after it begins. -/
theorem Before.trans {r s t : Range α} (first : r.Before s) (second : s.Before t)
    : r.Before t := by
  obtain ⟨u, rEnd, le⟩ := first
  obtain ⟨v, sEnd, later⟩ := second
  exact ⟨u, rEnd, (le.trans (s.proper v sEnd).le).trans later⟩

instance : @Trans (Range α) (Range α) (Range α) Before Before Before := ⟨Before.trans⟩

/-- Of two ranges that begin in order, the first has to end before the second begins. -/
theorem apart_iff_before {r s : Range α} (ordered : r.lower ≤ s.lower)
    : r.Apart s ↔ r.Before s := by
  refine ⟨fun apart => ?_, Before.apart⟩
  by_contra overlap
  refine apart s.lower ⟨ordered, fun u rEnd => ?_⟩ s.contains_lower
  exact lt_of_not_ge (fun le => overlap ⟨u, rEnd, le⟩)

/-- In a family sorted by lower ends, freedom from overlaps can be checked on neighbours. -/
theorem pairwise_apart_iff {ranges : List (Range α)}
    (sorted : ranges.Pairwise (fun r s => r.lower ≤ s.lower))
    : ranges.Pairwise Apart ↔ ranges.IsChain Before := by
  rw [List.isChain_iff_pairwise]
  constructor
  · intro apart
    exact (sorted.and apart).imp (fun ⟨ordered, h⟩ => (apart_iff_before ordered).mp h)
  · exact fun before => before.imp Before.apart

end Range

end Foundation
