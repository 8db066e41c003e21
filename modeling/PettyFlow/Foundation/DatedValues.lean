import Mathlib
import PettyFlow.Foundation.Bisect
import PettyFlow.Foundation.Dict

/-! Values that hold from a date on: a log of dated writes, the value as of a date, and a
sorted table that answers the same without the log.
-/

namespace Foundation

/-- A value written for a key, to hold from a time on. -/
structure Dated (κ τ υ : Type) where
  key : κ
  time : τ
  value : υ
deriving DecidableEq

namespace Dated

variable {κ τ υ : Type} [DecidableEq κ] [LinearOrder τ]

/-- The last value written for a key and exactly this time. -/
def recorded (log : List (Dated κ τ υ)) (key : κ) (time : τ) : Option υ :=
  (log.filter (fun write => write.key = key ∧ write.time = time)).getLast?.map Dated.value

/-- The times with a value for a key. -/
def times (log : List (Dated κ τ υ)) (key : κ) : List τ :=
  (log.filter (fun write => write.key = key)).map Dated.time

/-- The greatest time up to `time`, or the earliest of all where there is none. -/
def effectiveTime? (times : List τ) (time : τ) : Option τ :=
  (times.filter (· ≤ time)).max?.or times.min?

/-- The value of a key as of a time. -/
def asOf (log : List (Dated κ τ υ)) (key : κ) (time : τ) : Option υ :=
  (effectiveTime? (times log key) time).bind (recorded log key)

/-- The last write for a key and a time wins. -/
theorem recorded_append (log : List (Dated κ τ υ)) (write : Dated κ τ υ) (key : κ) (time : τ)
    : recorded (log ++ [write]) key time
      = if write.key = key ∧ write.time = time then
          some write.value
        else
          recorded log key time := by
  by_cases hit : write.key = key ∧ write.time = time
  · simp [recorded, List.filter_append, hit]
  · simp only [recorded, List.filter_append, hit, decide_false, if_false, List.filter_cons,
      List.filter_nil, List.append_nil, Bool.false_eq_true]

/-- Writes for other keys or times change nothing. -/
theorem recorded_append_other {log later : List (Dated κ τ υ)} {key : κ} {time : τ}
    (other : ∀ write ∈ later, write.key = key → write.time ≠ time)
    : recorded (log ++ later) key time = recorded log key time := by
  have none : later.filter (fun write => write.key = key ∧ write.time = time) = [] := by
    apply List.filter_eq_nil_iff.mpr
    intro write member hit
    have hit := of_decide_eq_true hit
    exact other write member hit.1 hit.2
  simp only [recorded, List.filter_append, none, List.append_nil]

/-- The times of a key are those with a recorded value. -/
theorem mem_times {log : List (Dated κ τ υ)} {key : κ} {time : τ}
    : time ∈ times log key ↔ ∃ value, recorded log key time = some value := by
  simp only [times, recorded, List.mem_map, List.mem_filter, decide_eq_true_eq]
  constructor
  · rintro ⟨write, ⟨listed, own⟩, at_⟩
    have kept : write ∈ log.filter (fun write => write.key = key ∧ write.time = time) :=
      List.mem_filter.mpr ⟨listed, decide_eq_true ⟨own, at_⟩⟩
    cases last : (log.filter (fun write => write.key = key ∧ write.time = time)).getLast? with
    | none =>
        rw [List.getLast?_eq_none_iff.mp last] at kept
        cases kept
    | some write => exact ⟨write.value, rfl⟩
  · rintro ⟨value, found⟩
    obtain ⟨write, last, _⟩ := Option.map_eq_some_iff.mp found
    obtain ⟨listed, hit⟩ := List.mem_filter.mp (List.mem_of_getLast? last)
    have hit := of_decide_eq_true hit
    exact ⟨write, ⟨listed, hit.1⟩, hit.2⟩

/-- A recorded value was written. -/
theorem recorded_mem {log : List (Dated κ τ υ)} {key : κ} {time : τ} {value : υ}
    (found : recorded log key time = some value)
    : ⟨key, time, value⟩ ∈ log := by
  obtain ⟨write, last, rfl⟩ := Option.map_eq_some_iff.mp found
  obtain ⟨listed, hit⟩ := List.mem_filter.mp (List.mem_of_getLast? last)
  obtain ⟨rfl, rfl⟩ := of_decide_eq_true hit
  exact listed

/-- A value that holds as of a time was written. -/
theorem asOf_mem {log : List (Dated κ τ υ)} {key : κ} {time : τ} {value : υ}
    (found : asOf log key time = some value)
    : ∃ written, ⟨key, written, value⟩ ∈ log := by
  obtain ⟨written, _, recorded⟩ := Option.bind_eq_some_iff.mp found
  exact ⟨written, recorded_mem recorded⟩

/-- What was written for a key and a time is recorded, or something later for both. -/
theorem recorded_of_mem {log : List (Dated κ τ υ)} {write : Dated κ τ υ} (listed : write ∈ log)
    : ∃ value, recorded log write.key write.time = some value :=
  mem_times.mp (List.mem_map.mpr ⟨write, List.mem_filter.mpr ⟨listed, by simp⟩, rfl⟩)

/-- A value recorded for exactly this time holds as of it. -/
theorem asOf_recorded {log : List (Dated κ τ υ)} {key : κ} {time : τ} {value : υ}
    (found : recorded log key time = some value)
    : asOf log key time = some value := by
  have latest : ((times log key).filter (· ≤ time)).max? = some time := by
    apply List.max?_eq_some_iff.mpr
    constructor
    · exact List.mem_filter.mpr ⟨mem_times.mpr ⟨value, found⟩, decide_eq_true (le_refl time)⟩
    · exact fun other member => of_decide_eq_true (List.mem_filter.mp member).2
  simp [asOf, effectiveTime?, latest, found]

/-- A table sorted by time, without a time listed twice, that agrees with the log. -/
structure Represents (table : List (τ × υ)) (log : List (Dated κ τ υ)) (key : κ) : Prop where
  sorted : table.Pairwise (fun a b => a.1 < b.1)
  agrees : ∀ time, Dict.find time table = recorded log key time

namespace Represents

variable {table : List (τ × υ)} {log : List (Dated κ τ υ)} {key : κ}

theorem nil (key : κ) : Represents ([] : List (τ × υ)) [] key :=
  ⟨List.Pairwise.nil, fun _ => rfl⟩

theorem keysUnique (represents : Represents table log key) : (table.map Prod.fst).Nodup :=
  List.pairwise_map.mpr (represents.sorted.imp ne_of_lt)

theorem recorded_of_mem (represents : Represents table log key) {time : τ} {value : υ}
    (member : (time, value) ∈ table)
    : recorded log key time = some value :=
  represents.agrees time ▸ Dict.find_of_mem represents.keysUnique member

theorem mem_of_recorded (represents : Represents table log key) {time : τ} {value : υ}
    (found : recorded log key time = some value)
    : (time, value) ∈ table :=
  Dict.mem_of_find ((represents.agrees time).trans found)

theorem time_mem (represents : Represents table log key) {entry : τ × υ}
    (member : entry ∈ table)
    : entry.1 ∈ times log key :=
  mem_times.mpr ⟨entry.2, represents.recorded_of_mem member⟩

/-- A write of another key leaves the table right. -/
theorem other (represents : Represents table log key) {write : Dated κ τ υ}
    (different : write.key ≠ key)
    : Represents table (log ++ [write]) key := by
  refine ⟨represents.sorted, fun time => ?_⟩
  rw [recorded_append, if_neg (fun hit => different hit.1), represents.agrees]

/-- A write of the key is assigned in the table, which is then sorted again. -/
theorem own (represents : Represents table log key) (write : Dated κ τ υ)
    (same : write.key = key)
    : Represents
        ((Dict.assign write.time write.value table).insertionSort (fun a b => a.1 ≤ b.1))
        (log ++ [write]) key := by
  have unique := Dict.assign_keysUnique write.time write.value table represents.keysUnique
  have permuted :=
    List.perm_insertionSort (fun a b : τ × υ => a.1 ≤ b.1)
      (Dict.assign write.time write.value table)
  have sortedUnique := (permuted.map Prod.fst).nodup_iff.mpr unique
  constructor
  · have ordered :=
      List.pairwise_insertionSort (fun a b : τ × υ => a.1 ≤ b.1)
        (Dict.assign write.time write.value table)
    have distinct := List.pairwise_map.mp sortedUnique
    exact (ordered.and distinct).imp (fun both => lt_of_le_of_ne both.1 both.2)
  · intro time
    rw [recorded_append, ← represents.agrees]
    rw [Dict.find_perm permuted sortedUnique, Dict.find_assign]
    simp [same]

/-- The table answers what holds as of a time, by the place of the effective time in it. -/
theorem entryAt (represents : Represents table log key) (time : τ)
    : (entryAt table time).map Prod.snd = asOf log key time := by
  unfold asOf effectiveTime?
  cases upTo : ((times log key).filter (· ≤ time)).max? with
  | some latest =>
      obtain ⟨member, greatest⟩ := List.max?_eq_some_iff.mp upTo
      obtain ⟨listed, bounded⟩ := List.mem_filter.mp member
      obtain ⟨value, found⟩ := mem_times.mp listed
      have place : Foundation.entryAt table time = some (latest, value) := by
        apply entryAt_of_greatest represents.sorted (represents.mem_of_recorded found)
          (of_decide_eq_true bounded)
        intro other member below
        exact greatest other.1
          (List.mem_filter.mpr ⟨represents.time_mem member, decide_eq_true below⟩)
      simp [place, found]
  | none =>
      -- All times lie after the one asked for, so the earliest of them is in force
      have above : ∀ other ∈ times log key, time < other := by
        intro other listed
        by_contra notAbove
        have kept : other ∈ (times log key).filter (· ≤ time) :=
          List.mem_filter.mpr ⟨listed, decide_eq_true (not_lt.mp notAbove)⟩
        rw [List.max?_eq_none_iff.mp upTo] at kept
        cases kept
      cases first : (times log key).min? with
      | none =>
          have empty : table = [] := by
            apply List.eq_nil_iff_forall_not_mem.mpr
            intro entry member
            have listed := represents.time_mem member
            rw [List.min?_eq_none_iff.mp first] at listed
            cases listed
          simp [empty, entryAt_nil]
      | some earliest =>
          obtain ⟨listed, least⟩ := List.min?_eq_some_iff.mp first
          obtain ⟨value, found⟩ := mem_times.mp listed
          have place : Foundation.entryAt table time = some (earliest, value) := by
            apply entryAt_of_least represents.sorted (represents.mem_of_recorded found)
            · exact fun other member => above other.1 (represents.time_mem member)
            · exact fun other member => least other.1 (represents.time_mem member)
          simp [place, found]

end Represents

end Dated

end Foundation
