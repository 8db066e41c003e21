import PettyFlow.Cache.AnchoredBalance

/-! A read and the increment that expects the version it gave. The reader takes a missing
version for one and the script takes it for zero, so that they agree on stored versions only.
-/

namespace PettyFlow.Cache

open Foundation

/-- Whatever is read, an increment that expects the version succeeds as long as the balance
does not become negative, and the next read gives what the increment returned. Integers are
below 10^14.
-/
def IncrementsAsRead (store : RedisStore) (tenantId accountId : String) : Prop :=
  ∀ balance version delta : Int,
    getBalance store tenantId accountId = .ok (some (balance, version))
    → 0 ≤ balance + delta
    → balance + delta < 10 ^ 14
    → version + 1 < 10 ^ 14
    → let call := atomicIncrementBalance store tenantId accountId (.int delta) (.int version)
      ∃ newVersion,
        call.1 = .ok (balance + delta, newVersion)
        ∧ getBalance call.2 tenantId accountId = .ok (some (balance + delta, newVersion))

/-- A number is stored under a key, of less than 10^14. -/
def StoredBelow (store : RedisStore) (key : String) (value : Int) : Prop :=
  store.get? key = some (.integer value) ∧ |value| < 10 ^ 14

section Reading

variable {store : RedisStore} {tenantId accountId : String} {balance : Int}

theorem getBalance_stored
    (valid : getKeys tenantId accountId = .ok (accountKeys tenantId accountId))
    (cached : store.get? (accountKeys tenantId accountId).balance = some (.integer balance))
    : getBalance store tenantId accountId
      = (readVersion (store.get? (accountKeys tenantId accountId).version)).map
          (fun version => some (balance, version)) := by
  simp only [getBalance, valid, bind, Except.bind, readAccount, cached, coerceInt,
    NumberText.int?, orRaise, pure, Except.pure]
  cases readVersion (store.get? (accountKeys tenantId accountId).version) <;> rfl

theorem checkIncrement_int
    (valid : getKeys tenantId accountId = .ok (accountKeys tenantId accountId))
    (delta expected : Int)
    : checkIncrement tenantId accountId (.int delta) (.int expected)
      = .ok (accountKeys tenantId accountId, delta, expected) := by
  simp [checkIncrement, NumberArg.int?, orRaise, valid, bind, Except.bind, pure, Except.pure]

/-- The script adds integers of up to 53 bits without rounding. -/
theorem numberAt_add {key : String} {value delta : Int}
    (stored : store.get? key = some (.integer value)) (small : value.natAbs < 2 ^ 53)
    (smallDelta : delta.natAbs < 2 ^ 53) (smallSum : (value + delta).natAbs < 2 ^ 53)
    : (numberAt store key).add (.ofInt delta) = .finite (value + delta) := by
  simp only [numberAt, stored, Option.getD_some, NumberText.tonumber, LuaNumber.ofInt_small small,
    LuaNumber.ofInt_small smallDelta, LuaNumber.add, LuaNumber.ofInt_small smallSum]

/-- With a stored version the increment that expects it writes what it returns. -/
theorem incrementsAsRead_of_stored
    (valid : getKeys tenantId accountId = .ok (accountKeys tenantId accountId))
    (cached : StoredBelow store (accountKeys tenantId accountId).balance balance) {version : Int}
    (stored : StoredBelow store (accountKeys tenantId accountId).version version)
    : IncrementsAsRead store tenantId accountId := by
  intro readBalance readVersion' delta read nonneg below belowVersion call
  rw [getBalance_stored valid cached.1, stored.1] at read
  cases read
  have boundBalance := abs_lt.mp cached.2
  have boundVersion := abs_lt.mp stored.2
  have sum
      : newBalance store (accountKeys tenantId accountId) delta = .finite (balance + delta) :=
    numberAt_add cached.1 (by omega) (by omega) (by omega)
  have next : newVersion store (accountKeys tenantId accountId) = .finite (version + 1) :=
    numberAt_add stored.1 (by omega) (by decide) (by omega)
  have passes : Passes store (accountKeys tenantId accountId) delta version := by
    constructor
    · right
      simp only [numberAt, stored.1, Option.getD_some, NumberText.tonumber]
      rw [LuaNumber.ofInt_small (by omega)]
      exact LuaNumber.same_finite.mpr rfl
    · rw [sum]
      exact not_lt.mpr nonneg
  have done :=
    (atomicIncrementBalance_spec store (checkIncrement_int valid delta version)).1 passes
  have writes
      : mutated store (accountKeys tenantId accountId) delta
        = writeBoth store (accountKeys tenantId accountId) (.integer (balance + delta))
            (.integer (version + 1)) := by
    unfold mutated
    rw [sum, next, LuaNumber.tostring_small (by omega), LuaNumber.tostring_small (by omega)]
  refine ⟨version + 1, ?_, ?_⟩
  · simp only [call, done, sum, next, LuaNumber.reply]
    rw [if_pos (by omega), if_pos (by omega)]
  · have written
        : (writeBoth store (accountKeys tenantId accountId) (.integer (balance + delta))
            (.integer (version + 1))).get? (accountKeys tenantId accountId).balance
          = some (.integer (balance + delta)) := by
      rw [get?_writeBoth (keys_ne _ _), if_pos rfl]
    -- The version written is the one returned, and the reader finds it
    simp only [call, done, writes]
    rw [getBalance_stored valid written, get?_writeBoth (keys_ne _ _),
      if_neg (keys_ne _ _).symm, if_pos rfl]
    rfl

/-- Without a version the reader says one, which the script does not find. -/
theorem not_incrementsAsRead_of_missing
    (valid : getKeys tenantId accountId = .ok (accountKeys tenantId accountId))
    (cached : StoredBelow store (accountKeys tenantId accountId).balance balance)
    (missing : store.get? (accountKeys tenantId accountId).version = none)
    : ¬ IncrementsAsRead store tenantId accountId := by
  intro increments
  have read : getBalance store tenantId accountId = .ok (some (balance, 1)) := by
    rw [getBalance_stored valid cached.1, missing]
    rfl
  have bound := abs_lt.mp cached.2
  -- Taking the whole balance off keeps the sum small, so the version alone can be at fault
  obtain ⟨newVersion, returned, _⟩ :=
    increments balance 1 (-balance) read (by omega) (by omega) (by decide)
  have fails : ¬ Passes store (accountKeys tenantId accountId) (-balance) 1 := by
    intro passes
    have zero : LuaNumber.ofInt 0 = .finite 0 := LuaNumber.ofInt_small (by decide)
    have one : LuaNumber.ofInt 1 = .finite 1 := LuaNumber.ofInt_small (by decide)
    have version := passes.version
    simp only [VersionMatches, numberAt, missing, Option.getD_none, NumberText.tonumber, zero, one,
      LuaNumber.same_finite] at version
    cases version with
    | inl unchecked => cases unchecked
    | inr matching => cases matching
  obtain ⟨error, raised⟩ :=
    (atomicIncrementBalance_spec store (checkIncrement_int valid (-balance) 1)).2 fails
  rw [raised] at returned
  cases returned

end Reading

/-- With a cached balance, reader and script agree exactly when the version is stored too. -/
theorem incrementsAsRead_iff (store : RedisStore) (tenantId accountId : String) (balance : Int)
    (tenant : tenantId ≠ "") (account : accountId ≠ "")
    (cached : StoredBelow store (accountKeys tenantId accountId).balance balance)
    (versions
      : ∀ raw ∈ store.get? (accountKeys tenantId accountId).version,
          ∃ version, StoredBelow store (accountKeys tenantId accountId).version version)
    : IncrementsAsRead store tenantId accountId
      ↔ (store.get? (accountKeys tenantId accountId).version).isSome := by
  have valid := getKeys_nonempty tenant account
  cases found : store.get? (accountKeys tenantId accountId).version with
  | none => exact iff_of_false (not_incrementsAsRead_of_missing valid cached found) (by simp)
  | some raw =>
      obtain ⟨version, stored⟩ := versions raw found
      exact iff_of_true (incrementsAsRead_of_stored valid cached stored) rfl

section Sample

/-- A balance with its version. -/
def versioned : RedisStore :=
  (Dict.empty.set (accountKeys "T1" "A1").balance (.integer 1000)).set
    (accountKeys "T1" "A1").version (.integer 3)

theorem incrementsAsRead_iff_sample : IncrementsAsRead versioned "T1" "A1" := by
  refine (incrementsAsRead_iff versioned "T1" "A1" 1000 (by decide) (by decide) ?_ ?_).mpr ?_
  · exact ⟨by decide, by decide⟩
  · intro raw found
    refine ⟨3, ?_, by decide⟩
    decide
  · decide

/-- A balance whose version was evicted. -/
def unversioned : RedisStore := Dict.empty.set (accountKeys "T1" "A1").balance (.integer 1000)

/-- The version is read as one, and an increment that expects one is refused. -/
theorem evicted_version_refused
    : getBalance unversioned "T1" "A1" = .ok (some (1000, 1))
      ∧ (atomicIncrementBalance unversioned "T1" "A1" (.int 5) (.int 1)).1
        = .error (.optimisticLock
            "Optimistic lock conflict for account A1. Expected version 1, current version is 0")
      ∧ ¬ IncrementsAsRead unversioned "T1" "A1" := by
  have refused
      : (atomicIncrementBalance unversioned "T1" "A1" (.int 5) (.int 1)).1
        = .error (.optimisticLock
            "Optimistic lock conflict for account A1. Expected version 1, current version is 0") := by
    decide +kernel
  refine ⟨by decide, refused, fun increments => ?_⟩
  obtain ⟨newVersion, returned, _⟩ :=
    increments 1000 1 5 (by decide) (by decide) (by decide) (by decide)
  rw [refused] at returned
  cases returned

end Sample

end PettyFlow.Cache
