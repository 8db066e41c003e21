import PettyFlow.Foundation.Dict

/-! A dictionary that pairs are filed in one after the other: under each key is the last value that
was filed, at the place of the first one.
-/

namespace Foundation

namespace Dict

variable {κ υ : Type} [DecidableEq κ]

/-- A new key is added at the end. -/
theorem entries_set_new (d : Dict κ υ) {key : κ} (value : υ) (new : d.get? key = none)
    : (d.set key value).entries = d.entries ++ [(key, value)] := by
  have added (entries : List (κ × υ)) (unlisted : find key entries = none)
      : assign key value entries = entries ++ [(key, value)] := by
    induction entries with
    | nil => rfl
    | cons head rest ih =>
        obtain ⟨k, v⟩ := head
        by_cases same : k = key
        · simp [find, same] at unlisted
        · simp only [find, same, if_false] at unlisted
          simp only [assign, same, if_false, List.cons_append, ih unlisted]
  exact added d.entries new

/-- Overwriting a key keeps its place. -/
theorem keys_set (d : Dict κ υ) (key : κ) (value : υ)
    : (d.set key value).entries.map Prod.fst
      = if (d.get? key).isSome then
          d.entries.map Prod.fst
        else
          d.entries.map Prod.fst ++ [key] := by
  have kept (entries : List (κ × υ))
      : (assign key value entries).map Prod.fst
        = if (find key entries).isSome then
            entries.map Prod.fst
          else
            entries.map Prod.fst ++ [key] := by
    induction entries with
    | nil => rfl
    | cons head rest ih =>
        obtain ⟨k, v⟩ := head
        by_cases same : k = key
        · simp [assign, find, same]
        · simp only [assign, find, same, if_false, List.map_cons, ih]
          split <;> rfl
  exact kept d.entries

/-- A key is listed exactly if it is found. -/
theorem mem_keys_iff (d : Dict κ υ) (key : κ)
    : key ∈ d.entries.map Prod.fst ↔ (d.get? key).isSome = true := by
  rw [List.mem_map, Option.isSome_iff_exists]
  constructor
  · rintro ⟨⟨k, value⟩, member, rfl⟩
    exact ⟨value, (d.mem_entries_iff k value).mp member⟩
  · rintro ⟨value, found⟩
    exact ⟨(key, value), (d.mem_entries_iff key value).mpr found, rfl⟩

/-- The values are what is found under the keys, in their order. -/
theorem values_eq_filterMap (d : Dict κ υ)
    : d.entries.map Prod.snd = (d.entries.map Prod.fst).filterMap d.get? := by
  rw [List.filterMap_map]
  symm
  refine (List.filterMap_congr (fun entry member => ?_)).trans
    (congrFun List.filterMap_eq_map d.entries)
  exact (d.mem_entries_iff entry.1 entry.2).mp member

/-- File pairs one after the other. -/
def fileAll (d : Dict κ υ) (pairs : List (κ × υ)) : Dict κ υ :=
  pairs.foldl (fun d pair => d.set pair.1 pair.2) d

/-- The last value among pairs for a key. -/
def lastOf (key : κ) (pairs : List (κ × υ)) : Option υ :=
  (pairs.reverse.find? (fun pair => pair.1 = key)).map Prod.snd

@[simp] theorem fileAll_nil (d : Dict κ υ) : d.fileAll [] = d := rfl

theorem fileAll_concat (d : Dict κ υ) (pairs : List (κ × υ)) (pair : κ × υ)
    : d.fileAll (pairs ++ [pair]) = (d.fileAll pairs).set pair.1 pair.2 := by
  rw [fileAll, List.foldl_append]
  rfl

@[simp] theorem lastOf_nil (key : κ) : lastOf key ([] : List (κ × υ)) = none := rfl

theorem lastOf_concat (key : κ) (pairs : List (κ × υ)) (pair : κ × υ)
    : lastOf key (pairs ++ [pair]) = if pair.1 = key then some pair.2 else lastOf key pairs := by
  rw [lastOf, List.reverse_append, List.reverse_singleton, List.singleton_append]
  by_cases same : pair.1 = key
  · rw [List.find?_cons_of_pos (by simp [same]), if_pos same, Option.map_some]
  · rw [List.find?_cons_of_neg (by simp [same]), if_neg same, lastOf]

/-- Under a key is what was filed for it last, by induction from the last pair. -/
theorem get?_fileAll (key : κ) (pairs : List (κ × υ))
    : ((empty : Dict κ υ).fileAll pairs).get? key = lastOf key pairs := by
  induction pairs using List.reverseRecOn with
  | nil => rfl
  | append_singleton pairs pair ih => rw [fileAll_concat, get?_set, lastOf_concat, ih]

/-- The keys stand in the order in which they were filed first, by induction from the last pair. -/
theorem keys_fileAll [BEq κ] [LawfulBEq κ] (pairs : List (κ × υ))
    : ((empty : Dict κ υ).fileAll pairs).entries.map Prod.fst
      = (pairs.map Prod.fst).eraseDups := by
  induction pairs using List.reverseRecOn with
  | nil => rfl
  | append_singleton pairs pair ih =>
      have listed
          : (((empty : Dict κ υ).fileAll pairs).get? pair.1).isSome = true
            ↔ pair.1 ∈ pairs.map Prod.fst := by
        rw [← mem_keys_iff, ih, List.mem_eraseDups]
      rw [fileAll_concat, keys_set, ih, List.map_append, List.eraseDups_append]
      by_cases old : pair.1 ∈ pairs.map Prod.fst
      · rw [if_pos (listed.mpr old)]
        simp [List.removeAll, old]
      · rw [if_neg (fun found => old (listed.mp found))]
        simp [List.removeAll, old, List.eraseDups_cons]

/-- Pairs with different keys are listed as they were filed. -/
theorem entries_fileAll {pairs : List (κ × υ)} (different : (pairs.map Prod.fst).Nodup)
    : ((empty : Dict κ υ).fileAll pairs).entries = pairs := by
  induction pairs using List.reverseRecOn with
  | nil => rfl
  | append_singleton pairs pair ih =>
      rw [List.map_append, List.nodup_append] at different
      obtain ⟨earlier, _, apart⟩ := different
      have listed := ih earlier
      have new : ((empty : Dict κ υ).fileAll pairs).get? pair.1 = none := by
        rw [← Option.not_isSome_iff_eq_none, ← mem_keys_iff, listed]
        intro member
        exact apart _ member _ (List.mem_singleton.mpr rfl) rfl
      rw [fileAll_concat, entries_set_new _ _ new, listed]

/-- The values are the last ones of the keys, in the order in which these were filed first. -/
theorem values_fileAll [BEq κ] [LawfulBEq κ] (pairs : List (κ × υ))
    : ((empty : Dict κ υ).fileAll pairs).entries.map Prod.snd
      = (pairs.map Prod.fst).eraseDups.filterMap (lastOf · pairs) := by
  rw [values_eq_filterMap, keys_fileAll]
  exact List.filterMap_congr (fun key _ => get?_fileAll key pairs)

end Dict

end Foundation
