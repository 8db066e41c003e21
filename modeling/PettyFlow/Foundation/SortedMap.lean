import Mathlib

/-! Finite maps kept in key order, for values whose insertion order nobody observes: two
such maps with the same entries are equal.
-/

namespace Foundation

structure SortedMap (κ υ : Type) [LinearOrder κ] where
  entries : List (κ × υ)
  sorted : entries.Pairwise (fun a b => a.1 < b.1)
deriving DecidableEq

namespace SortedMap

variable {κ υ : Type} [LinearOrder κ]

/-- Insert an entry at its place, over an older one with the same key. -/
def place (key : κ) (value : υ) : List (κ × υ) → List (κ × υ)
  | [] => [(key, value)]
  | (k, v) :: rest =>
      if k < key then
        (k, v) :: place key value rest
      else if key < k then
        (key, value) :: (k, v) :: rest
      else
        (key, value) :: rest

theorem place_mem (key : κ) (value : υ) (entries : List (κ × υ)) {entry : κ × υ}
    (member : entry ∈ place key value entries)
    : entry = (key, value) ∨ entry ∈ entries := by
  induction entries with
  | nil => exact Or.inl (List.mem_singleton.mp member)
  | cons head rest ih =>
      obtain ⟨k, v⟩ := head
      unfold place at member
      split at member
      · rcases List.mem_cons.mp member with rfl | later
        · exact Or.inr List.mem_cons_self
        · exact (ih later).imp_right (List.mem_cons_of_mem _)
      · split at member
        · exact List.mem_cons.mp member
        · exact (List.mem_cons.mp member).imp_right (List.mem_cons_of_mem _)

/-- Placing keeps the order, by induction over the entries. -/
theorem place_sorted (key : κ) (value : υ) (entries : List (κ × υ))
    (sorted : entries.Pairwise (fun a b => a.1 < b.1))
    : (place key value entries).Pairwise (fun a b => a.1 < b.1) := by
  induction entries with
  | nil => exact List.pairwise_singleton _ _
  | cons head rest ih =>
      obtain ⟨k, v⟩ := head
      obtain ⟨above, tail⟩ := List.pairwise_cons.mp sorted
      unfold place
      split
      · rename_i below
        refine List.pairwise_cons.mpr ⟨fun entry member => ?_, ih tail⟩
        rcases place_mem key value rest member with rfl | old
        · exact below
        · exact above entry old
      · split
        · rename_i _ before
          refine List.pairwise_cons.mpr ⟨fun entry member => ?_, sorted⟩
          rcases List.mem_cons.mp member with rfl | later
          · exact before
          · exact lt_trans before (above entry later)
        · rename_i notBelow notBefore
          obtain rfl : k = key := le_antisymm (not_lt.mp notBefore) (not_lt.mp notBelow)
          exact List.pairwise_cons.mpr ⟨above, tail⟩

theorem lookup_entry [BEq κ] [LawfulBEq κ] (sought key : κ) (value : υ)
    (entries : List (κ × υ))
    : ((key, value) :: entries).lookup sought
      = if sought = key then some value else entries.lookup sought := by
  by_cases same : sought = key
  · simp [same]
  · rw [List.lookup_cons, beq_false_of_ne same, if_neg same]

/-- Looking a key up after placing an entry, by induction over the entries. -/
theorem place_lookup [BEq κ] [LawfulBEq κ] (key sought : κ) (value : υ)
    (entries : List (κ × υ))
    : (place key value entries).lookup sought
      = if sought = key then some value else entries.lookup sought := by
  induction entries with
  | nil => exact lookup_entry _ _ _ _
  | cons head rest ih =>
      obtain ⟨k, v⟩ := head
      unfold place
      split
      · rename_i below
        rw [lookup_entry, lookup_entry, ih]
        by_cases same : sought = k
        · simp [same, ne_of_lt below]
        · simp [same]
      · split
        · rw [lookup_entry]
        · rename_i notBelow notBefore
          obtain rfl : k = key := le_antisymm (not_lt.mp notBefore) (not_lt.mp notBelow)
          rw [lookup_entry, lookup_entry]
          split <;> rfl

/-- In key order no key occurs twice, so the last entry of a key is its first. -/
theorem lookup_reverse [BEq κ] [LawfulBEq κ] {entries : List (κ × υ)}
    (sorted : entries.Pairwise (fun a b => a.1 < b.1)) (sought : κ)
    : entries.reverse.lookup sought = entries.lookup sought := by
  induction entries with
  | nil => rfl
  | cons head rest ih =>
      obtain ⟨k, v⟩ := head
      obtain ⟨above, tail⟩ := List.pairwise_cons.mp sorted
      rw [List.reverse_cons, List.lookup_append, ih tail, lookup_entry, lookup_entry]
      by_cases same : sought = k
      · have absent : rest.lookup sought = none := by
          rw [List.lookup_eq_none_iff]
          intro entry member
          rw [same]
          exact bne_iff_ne.mpr (ne_of_lt (above entry member))
        simp [same, same ▸ absent]
      · simp [same]

@[ext] theorem ext {left right : SortedMap κ υ} (same : left.entries = right.entries)
    : left = right := by
  cases left
  cases right
  cases same
  rfl

def empty : SortedMap κ υ := ⟨[], List.Pairwise.nil⟩

def insert (m : SortedMap κ υ) (key : κ) (value : υ) : SortedMap κ υ :=
  ⟨place key value m.entries, place_sorted key value m.entries m.sorted⟩

/-- The map of a list of entries, later ones over earlier ones. -/
def ofEntries (entries : List (κ × υ)) : SortedMap κ υ :=
  entries.foldl (fun m entry => m.insert entry.1 entry.2) empty

theorem place_last (key : κ) (value : υ) (entries : List (κ × υ))
    (above : ∀ entry ∈ entries, entry.1 < key)
    : place key value entries = entries ++ [(key, value)] := by
  induction entries with
  | nil => rfl
  | cons head rest ih =>
      have later := ih (fun entry member => above entry (List.mem_cons_of_mem _ member))
      simp only [place, above head List.mem_cons_self, if_true, later, List.cons_append]

/-- Reading a map from its own entries gives it back: each entry goes to the end. -/
theorem ofEntries_entries (m : SortedMap κ υ) : ofEntries m.entries = m := by
  have fold (entries : List (κ × υ)) (done : SortedMap κ υ)
      (sorted : (done.entries ++ entries).Pairwise (fun a b => a.1 < b.1))
      : (entries.foldl (fun m entry => m.insert entry.1 entry.2) done).entries
        = done.entries ++ entries := by
    induction entries generalizing done with
    | nil => simp
    | cons entry rest ih =>
        have placed : (done.insert entry.1 entry.2).entries = done.entries ++ [entry] := by
          refine place_last _ _ _ (fun earlier member => ?_)
          exact (List.pairwise_append.mp sorted).2.2 earlier member entry List.mem_cons_self
        rw [List.foldl_cons, ih, placed, List.append_assoc, List.singleton_append]
        rwa [placed, List.append_assoc, List.singleton_append]
  ext1
  exact fold m.entries empty m.sorted

end SortedMap

end Foundation
