import Mathlib

/-! Finite maps that remember insertion order: overwriting a key keeps its place.
Lookup, update and totals are stated for arbitrary keys and values.
-/

namespace Foundation

/-- A dictionary is its list of entries, with no key listed twice. -/
structure Dict (κ υ : Type) where
  entries : List (κ × υ)
  keysUnique : (entries.map Prod.fst).Nodup

namespace Dict

variable {κ υ : Type}

/-- The value listed under `key`, if any. -/
def find (key : κ) [DecidableEq κ] : List (κ × υ) → Option υ
  | [] => none
  | (k, v) :: rest => if k = key then some v else find key rest

/-- Overwrite the entry of `key` in place, or add it at the end. -/
def assign (key : κ) (value : υ) [DecidableEq κ] : List (κ × υ) → List (κ × υ)
  | [] => [(key, value)]
  | (k, v) :: rest => if k = key then (key, value) :: rest else (k, v) :: assign key value rest

/-- Assigning adds at most its own key, by induction over the entries. -/
theorem assign_keys_mem [DecidableEq κ] (key : κ) (value : υ) (entries : List (κ × υ))
    {other : κ} (member : other ∈ (assign key value entries).map Prod.fst)
    : other = key ∨ other ∈ entries.map Prod.fst := by
  induction entries with
  | nil => exact Or.inl (by simpa [assign] using member)
  | cons head rest ih =>
      obtain ⟨k, v⟩ := head
      by_cases same : k = key
      · simp only [assign, same, if_true, List.map_cons, List.mem_cons] at member ⊢
        exact member.imp_right Or.inr
      · simp only [assign, same, if_false, List.map_cons, List.mem_cons] at member ⊢
        rcases member with first | later
        · exact Or.inr (Or.inl first)
        · exact (ih later).imp_right Or.inr

/-- Assigning keeps keys unique, by induction over the entries. -/
theorem assign_keysUnique [DecidableEq κ] (key : κ) (value : υ) (entries : List (κ × υ))
    (unique : (entries.map Prod.fst).Nodup)
    : ((assign key value entries).map Prod.fst).Nodup := by
  induction entries with
  | nil => simp [assign]
  | cons head rest ih =>
      obtain ⟨k, v⟩ := head
      obtain ⟨absent, tail⟩ := List.nodup_cons.mp unique
      by_cases same : k = key
      · subst same
        simpa only [assign, if_true, List.map_cons] using List.nodup_cons.mpr ⟨absent, tail⟩
      · simp only [assign, same, if_false, List.map_cons]
        refine List.nodup_cons.mpr ⟨fun member => ?_, ih tail⟩
        rcases assign_keys_mem key value rest member with eq | old
        · exact same eq
        · exact absent old

/-- An assigned key reads back its value and every other key its old one. -/
theorem find_assign [DecidableEq κ] (key other : κ) (value : υ) (entries : List (κ × υ))
    : find other (assign key value entries)
      = if key = other then some value else find other entries := by
  induction entries with
  | nil => simp [assign, find]
  | cons head rest ih =>
      obtain ⟨k, v⟩ := head
      by_cases same : k = key
      · subst same
        by_cases hit : k = other <;> simp [assign, find, hit]
      · by_cases hit : k = other
        · subst hit
          simp [assign, find, same, Ne.symm same]
        · simp [assign, find, same, hit, ih]

/-- A found value is listed under its key. -/
theorem mem_of_find [DecidableEq κ] {key : κ} {value : υ} {entries : List (κ × υ)}
    (found : find key entries = some value)
    : (key, value) ∈ entries := by
  induction entries with
  | nil => simp [find] at found
  | cons head rest ih =>
      obtain ⟨k, v⟩ := head
      by_cases hit : k = key
      · subst hit
        simp only [find, if_true, Option.some.injEq] at found
        simp [found]
      · simp only [find, hit, if_false] at found
        exact List.mem_cons_of_mem _ (ih found)

/-- With unique keys every listed value is the one found. -/
theorem find_of_mem [DecidableEq κ] {key : κ} {value : υ} {entries : List (κ × υ)}
    (unique : (entries.map Prod.fst).Nodup) (member : (key, value) ∈ entries)
    : find key entries = some value := by
  induction entries with
  | nil => simp at member
  | cons head rest ih =>
      obtain ⟨k, v⟩ := head
      obtain ⟨absent, tail⟩ := List.nodup_cons.mp unique
      rcases List.mem_cons.mp member with same | later
      · obtain ⟨rfl, rfl⟩ := Prod.mk.inj same
        simp [find]
      · have different : k ≠ key := by
          rintro rfl
          exact absent (List.mem_map.mpr ⟨_, later, rfl⟩)
        simp only [find, different, if_false]
        exact ih tail later

/-- With unique keys the order of the entries does not matter to a lookup. -/
theorem find_perm [DecidableEq κ] {key : κ} {left right : List (κ × υ)}
    (permuted : left.Perm right) (unique : (left.map Prod.fst).Nodup)
    : find key left = find key right := by
  have uniqueRight := (permuted.map Prod.fst).nodup_iff.mp unique
  ext value
  constructor
  · exact fun found => find_of_mem uniqueRight (permuted.mem_iff.mp (mem_of_find found))
  · exact fun found => find_of_mem unique (permuted.mem_iff.mpr (mem_of_find found))

/-- Filtering by key and value keeps exactly the found values that pass. -/
theorem find_filter [DecidableEq κ] (keep : κ × υ → Bool) (key : κ) (entries : List (κ × υ))
    (unique : (entries.map Prod.fst).Nodup)
    : find key (entries.filter keep)
      = (find key entries).filter (fun value => keep (key, value)) := by
  induction entries with
  | nil => rfl
  | cons head rest ih =>
      obtain ⟨k, v⟩ := head
      obtain ⟨absent, tail⟩ := List.nodup_cons.mp unique
      by_cases hit : k = key
      · subst hit
        have gone : find k (rest.filter keep) = none := by
          cases found : find k (rest.filter keep) with
          | none => rfl
          | some value =>
              have member := (List.mem_filter.mp (mem_of_find found)).1
              exact False.elim (absent (List.mem_map.mpr ⟨_, member, rfl⟩))
        cases passes : keep (k, v) <;> simp [find, passes, gone, Option.filter_some]
      · cases passes : keep (k, v) <;> simp [find, passes, hit, ih tail]

@[ext] theorem ext {left right : Dict κ υ} (same : left.entries = right.entries)
    : left = right := by
  cases left
  cases right
  cases same
  rfl

instance [DecidableEq κ] [DecidableEq υ] : DecidableEq (Dict κ υ) := fun left right =>
  decidable_of_iff (left.entries = right.entries) ⟨ext, fun same => same ▸ rfl⟩

def empty : Dict κ υ := ⟨[], List.nodup_nil⟩

def filter (d : Dict κ υ) (keep : κ → υ → Bool) : Dict κ υ where
  entries := d.entries.filter (fun entry => keep entry.1 entry.2)
  keysUnique := d.keysUnique.sublist (List.filter_sublist.map Prod.fst)

/-- Every value under its key, changed. -/
def map {ω : Type} (d : Dict κ υ) (change : υ → ω) : Dict κ ω where
  entries := d.entries.map (fun entry => (entry.1, change entry.2))
  keysUnique := by
    rw [List.map_map]
    exact d.keysUnique

section Lookup

variable [DecidableEq κ]

def get? (d : Dict κ υ) (key : κ) : Option υ := find key d.entries

def getD (d : Dict κ υ) (key : κ) (fallback : υ) : υ := (d.get? key).getD fallback

def contains (d : Dict κ υ) (key : κ) : Bool := (d.get? key).isSome

def set (d : Dict κ υ) (key : κ) (value : υ) : Dict κ υ :=
  ⟨assign key value d.entries, assign_keysUnique key value d.entries d.keysUnique⟩

def erase (d : Dict κ υ) (key : κ) : Dict κ υ := d.filter (fun k _ => decide (k ≠ key))

@[simp] theorem get?_empty (key : κ) : (empty : Dict κ υ).get? key = none := rfl

theorem get?_set (d : Dict κ υ) (key other : κ) (value : υ)
    : (d.set key value).get? other = if key = other then some value else d.get? other :=
  find_assign key other value d.entries

@[simp] theorem get?_set_self (d : Dict κ υ) (key : κ) (value : υ)
    : (d.set key value).get? key = some value := by
  simp [get?_set]

theorem get?_set_ne (d : Dict κ υ) {key other : κ} (value : υ) (different : key ≠ other)
    : (d.set key value).get? other = d.get? other := by
  simp [get?_set, different]

theorem get?_filter (d : Dict κ υ) (keep : κ → υ → Bool) (key : κ)
    : (d.filter keep).get? key = (d.get? key).filter (keep key) :=
  find_filter (fun entry => keep entry.1 entry.2) key d.entries d.keysUnique

theorem get?_map {ω : Type} (d : Dict κ υ) (change : υ → ω) (key : κ)
    : (d.map change).get? key = (d.get? key).map change := by
  have found (entries : List (κ × υ))
      : find key (entries.map (fun entry => (entry.1, change entry.2)))
        = (find key entries).map change := by
    induction entries with
    | nil => rfl
    | cons head rest ih =>
        obtain ⟨k, v⟩ := head
        by_cases hit : k = key <;> simp [find, hit, ih]
  exact found d.entries

/-- Erasing forgets one key and keeps every other lookup. -/
theorem get?_erase (d : Dict κ υ) (key other : κ)
    : (d.erase key).get? other = if key = other then none else d.get? other := by
  rw [erase, get?_filter]
  by_cases same : key = other
  · subst same
    cases d.get? key <;> simp
  · cases d.get? other <;> simp [same, Ne.symm same]

/-- Setting a key that is kept commutes with keeping some keys; another key makes no difference. -/
theorem filter_set (d : Dict κ υ) (keep : κ → Bool) (key : κ) (value : υ)
    : (d.set key value).filter (fun k _ => keep k)
      = if keep key then
          (d.filter (fun k _ => keep k)).set key value
        else
          d.filter (fun k _ => keep k) := by
  have assigned (entries : List (κ × υ))
      : (assign key value entries).filter (fun entry => keep entry.1)
        = if keep key then
            assign key value (entries.filter (fun entry => keep entry.1))
          else
            entries.filter (fun entry => keep entry.1) := by
    induction entries with
    | nil => cases kept : keep key <;> simp [assign, kept]
    | cons head rest ih =>
        obtain ⟨k, v⟩ := head
        by_cases same : k = key
        · subst same
          cases kept : keep k <;> simp [assign, kept]
        · simp only [assign, same, if_false]
          cases kept : keep key <;> cases keptHead : keep k <;>
            simp [assign, ih, kept, keptHead, same]
  ext1
  rw [apply_ite entries]
  exact assigned d.entries

/-- A new key goes to the end, so that one entry more is listed. -/
theorem length_set_new (d : Dict κ υ) {key : κ} (value : υ) (new : d.get? key = none)
    : (d.set key value).entries.length = d.entries.length + 1 := by
  have placed (entries : List (κ × υ)) (missing : find key entries = none)
      : (assign key value entries).length = entries.length + 1 := by
    induction entries with
    | nil => rfl
    | cons head rest ih =>
        obtain ⟨k, v⟩ := head
        by_cases same : k = key
        · simp [find, same] at missing
        · simp only [find, same, if_false] at missing
          simp only [assign, same, if_false, List.length_cons, ih missing]
  exact placed d.entries new

/-- Entries and lookups say the same thing, because keys are unique. -/
theorem mem_entries_iff (d : Dict κ υ) (key : κ) (value : υ)
    : (key, value) ∈ d.entries ↔ d.get? key = some value :=
  ⟨find_of_mem d.keysUnique, mem_of_find⟩

theorem getD_set_self (d : Dict κ υ) (key : κ) (value fallback : υ)
    : (d.set key value).getD key fallback = value := by
  simp [getD]

theorem getD_set_ne (d : Dict κ υ) {key other : κ} (value fallback : υ)
    (different : key ≠ other)
    : (d.set key value).getD other fallback = d.getD other fallback := by
  simp [getD, get?_set_ne d value different]

end Lookup

section Total

variable {μ : Type} [AddCommMonoid μ]

/-- The sum of a weight over all entries. -/
def total (d : Dict κ υ) (weight : κ → υ → μ) : μ :=
  (d.entries.map (fun entry => weight entry.1 entry.2)).sum

@[simp] theorem total_empty (weight : κ → υ → μ) : (empty : Dict κ υ).total weight = 0 := rfl

private theorem sum_assign [DecidableEq κ] (key : κ) (value : υ) (weight : κ → υ → μ)
    (entries : List (κ × υ))
    : ((assign key value entries).map (fun entry => weight entry.1 entry.2)).sum
        + (find key entries).elim 0 (weight key)
      = (entries.map (fun entry => weight entry.1 entry.2)).sum + weight key value := by
  induction entries with
  | nil => simp [assign, find]
  | cons head rest ih =>
      obtain ⟨k, v⟩ := head
      by_cases same : k = key
      · subst same
        simp only [assign, find, if_true, List.map_cons, List.sum_cons, Option.elim_some]
        rw [add_assoc, add_comm]
        congr 1
        rw [add_comm]
      · simp only [assign, find, same, if_false, List.map_cons, List.sum_cons]
        rw [add_assoc, ih, add_assoc]

/-- Updating a key replaces its share of the total by the new one. -/
theorem total_set [DecidableEq κ] (d : Dict κ υ) (key : κ) (value : υ)
    (weight : κ → υ → μ)
    : (d.set key value).total weight + (d.get? key).elim 0 (weight key)
      = d.total weight + weight key value :=
  sum_assign key value weight d.entries

end Total

end Dict

end Foundation
