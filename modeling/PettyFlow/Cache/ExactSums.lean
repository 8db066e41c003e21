import PettyFlow.Cache.VersionDefaults

/-! Sums in the cache. An increment reads decimal text into doubles, adds them, and writes at
most fourteen digits, which the next increment reads again. The sums are exact as long as they
have no more digits than that.
-/

namespace PettyFlow.Cache

open Foundation

structure Increment where
  delta : Int
  expectedVersion : Int
deriving DecidableEq

section Runs

variable (tenantId accountId : String)

/-- One increment of the account. -/
def increment (store : RedisStore) (next : Increment)
    : Except CacheError (Int × Int) × RedisStore :=
  atomicIncrementBalance store tenantId accountId (.int next.delta) (.int next.expectedVersion)

/-- The store after some increments of the account. -/
def incremented (store : RedisStore) : List Increment → RedisStore
  | [] => store
  | next :: rest => incremented (increment tenantId accountId store next).2 rest

/-- Every increment of the list succeeds in its turn. -/
def AllSucceed (store : RedisStore) (increments : List Increment) : Prop :=
  ∀ done next later,
    increments = done ++ next :: later
    → ∃ result,
        (increment tenantId accountId (incremented tenantId accountId store done) next).1
        = .ok result

/-- An increment returns a balance, and the balance can be read afterwards. -/
def ReturnsAndReads (store : RedisStore) (next : Increment) (sum : Int) : Prop :=
  let call := increment tenantId accountId store next
  ∃ version readVersion,
    call.1 = .ok (sum, version)
    ∧ getBalance call.2 tenantId accountId = .ok (some (sum, readVersion))

/-- Every increment returns the sum of the balance and all deltas so far, and so does a read
after it.
-/
def SumsExact (store : RedisStore) (balance : Int) (increments : List Increment) : Prop :=
  ∀ done next later,
    increments = done ++ next :: later
    → ReturnsAndReads tenantId accountId (incremented tenantId accountId store done) next
        (balance + (done.map Increment.delta).sum + next.delta)

end Runs

/-- Amounts that the script adds and writes without rounding: all sums have up to fourteen
digits, all versions have, and what rounding does to the balance and to the first delta cancels.
-/
structure ExactRange (balance version : Int) (deltas : List Int) : Prop where
  sums
    : ∀ done,
        done <+: deltas
        → done ≠ []
        → 0 ≤ balance + done.sum ∧ balance + done.sum < 10 ^ 14
  versions : deltas ≠ [] → version + deltas.length < 10 ^ 14
  first
    : ∀ delta ∈ deltas.head?,
        LuaNumber.rounded balance + LuaNumber.rounded delta = balance + delta

/-- The balance and the version of an account are stored in full. -/
structure HeldAmounts (store : RedisStore) (keys : AccountKeys) (balance version : Int) : Prop where
  balance : store.get? keys.balance = some (.integer balance)
  version : store.get? keys.version = some (.integer version)

/-- What holds of every place of a list holds of its first place and of those behind it. -/
theorem forall_splits_cons {α : Type} {first : α} {rest : List α} {motive : List α → α → Prop}
    : (∀ done next later, first :: rest = done ++ next :: later → motive done next)
      ↔ motive [] first
        ∧ ∀ done next later, rest = done ++ next :: later → motive (first :: done) next := by
  constructor
  · intro all
    refine ⟨all [] first rest rfl, fun done next later split => ?_⟩
    exact all (first :: done) next later (by rw [split, List.cons_append])
  · rintro ⟨head, tail⟩ done next later split
    cases done with
    | nil =>
        obtain ⟨rfl, _⟩ := List.cons.inj split
        exact head
    | cons other done =>
        rw [List.cons_append] at split
        obtain ⟨rfl, behind⟩ := List.cons.inj split
        exact tail done next later behind

section Steps

variable {tenantId accountId : String} {store : RedisStore} {balance version : Int}

theorem getBalance_writeBoth
    (valid : getKeys tenantId accountId = .ok (accountKeys tenantId accountId))
    {rawBalance rawVersion : NumberText} {amount number : Int}
    : getBalance (writeBoth store (accountKeys tenantId accountId) rawBalance rawVersion) tenantId
          accountId
        = .ok (some (amount, number))
      ↔ rawBalance.int? = some amount ∧ rawVersion.int? = some number := by
  simp only [getBalance, valid, bind, Except.bind, get?_writeBoth (keys_ne _ _),
    (keys_ne tenantId accountId).symm, if_true, if_false, readAccount, readVersion, coerceInt]
  cases rawBalance.int? <;> cases rawVersion.int? <;> simp [orRaise, pure, Except.pure]

/-- A version is written in full exactly when it has up to fourteen digits; a double that is
not finite has none.
-/
theorem newVersion_int? {next : Int}
    (stored
      : store.get? (accountKeys tenantId accountId).version = some (.integer version))
    : (newVersion store (accountKeys tenantId accountId)).tostring.int? = some next
      ↔ next = version + 1 ∧ next.natAbs < 10 ^ 14 := by
  rw [LuaNumber.tostring_int?_eq_some]
  refine and_congr_left (fun small => ?_)
  simp only [newVersion, numberAt, stored, Option.getD_some, NumberText.tonumber]
  rw [LuaNumber.add_eq_small (by omega) (by decide) (by omega)]
  exact eq_comm

/-- The sum of two amounts of 64 bits, as the script computes it. -/
theorem newBalance_rounded {delta : Int} (bound : balance.natAbs ≤ 2 ^ 63)
    (boundDelta : delta.natAbs ≤ 2 ^ 63)
    (stored
      : store.get? (accountKeys tenantId accountId).balance = some (.integer balance))
    : newBalance store (accountKeys tenantId accountId) delta
      = .ofInt (LuaNumber.rounded balance + LuaNumber.rounded delta) := by
  simp only [newBalance, numberAt, stored, Option.getD_some, NumberText.tonumber,
    LuaNumber.ofInt_rounded bound, LuaNumber.ofInt_rounded boundDelta, LuaNumber.add]

/-- One delta within the range. -/
structure FitsStep (balance version delta : Int) : Prop where
  cancels : LuaNumber.rounded balance + LuaNumber.rounded delta = balance + delta
  nonneg : 0 ≤ balance + delta
  small : balance + delta < 10 ^ 14
  version : version + 1 < 10 ^ 14

/-- An increment that succeeds returns and leaves the exact sum exactly when its delta fits;
then sum and version are stored in full again.
-/
theorem increment_exact (valid : getKeys tenantId accountId = .ok (accountKeys tenantId accountId))
    (holding : HeldAmounts store (accountKeys tenantId accountId) balance version)
    (nonneg : 0 ≤ version) {next : Increment} (bound : balance.natAbs ≤ 2 ^ 63)
    (boundDelta : next.delta.natAbs ≤ 2 ^ 63) {result : Int × Int}
    (succeeds : (increment tenantId accountId store next).1 = .ok result)
    : (ReturnsAndReads tenantId accountId store next (balance + next.delta)
        ↔ FitsStep balance version next.delta)
      ∧ (FitsStep balance version next.delta
        → HeldAmounts (increment tenantId accountId store next).2 (accountKeys tenantId accountId)
            (balance + next.delta) (version + 1)) := by
  have checked := checkIncrement_int valid next.delta next.expectedVersion
  obtain ⟨passing, failing⟩ := atomicIncrementBalance_spec store checked
  -- An increment that does not pass its checks answers with an error
  have passes : Passes store (accountKeys tenantId accountId) next.delta next.expectedVersion := by
    by_contra fails
    obtain ⟨error, failed⟩ := failing fails
    rw [increment, failed] at succeeds
    cases succeeds
  have done := passing passes
  have sum := newBalance_rounded bound boundDelta holding.balance
  have funds := passes.funds
  have written {value : Int}
      : (newBalance store (accountKeys tenantId accountId) next.delta).tostring.int? = some value
        ↔ LuaNumber.rounded balance + LuaNumber.rounded next.delta = value
          ∧ value.natAbs < 10 ^ 14 := by
    rw [LuaNumber.tostring_int?_eq_some, sum]
    exact and_congr_left (fun small => LuaNumber.ofInt_eq_small (by omega))
  constructor
  · constructor
    · rintro ⟨returned, readVersion, _, read⟩
      rw [increment, done, mutated, getBalance_writeBoth valid, written,
        newVersion_int? holding.version] at read
      obtain ⟨⟨cancels, small⟩, versions, smallVersion⟩ := read
      -- A negative sum would have been refused for lack of funds
      have positive : 0 ≤ balance + next.delta := by
        by_contra negative
        rw [cancels] at sum
        exact funds (LuaNumber.negative_of_eq_ofInt sum (not_le.mp negative))
      exact ⟨cancels, positive, by omega, by omega⟩
    · intro fits
      -- Within the range the double sum is the integer sum
      have exact_
          : newBalance store (accountKeys tenantId accountId) next.delta
            = .finite (balance + next.delta) := by
        have nonneg := fits.nonneg
        have small := fits.small
        rw [sum, fits.cancels]
        exact LuaNumber.ofInt_small (by omega)
      refine ⟨(newVersion store (accountKeys tenantId accountId)).reply, version + 1, ?_, ?_⟩
      · have nonneg := fits.nonneg
        have small := fits.small
        rw [increment, done, exact_]
        simp only [LuaNumber.reply]
        rw [if_pos (by omega)]
      · have nonneg := fits.nonneg
        have small := fits.small
        have versions := fits.version
        rw [increment, done, mutated, getBalance_writeBoth valid, written,
          newVersion_int? holding.version]
        exact ⟨⟨fits.cancels, by omega⟩, rfl, by omega⟩
  · intro fits
    have nonnegSum := fits.nonneg
    have small := fits.small
    have versions := fits.version
    have balances := written.mpr ⟨fits.cancels, by omega⟩
    have next_ := (newVersion_int? holding.version).mpr ⟨rfl, by omega⟩
    rw [LuaNumber.tostring_int?_eq_some] at balances next_
    rw [increment, done, mutated, balances.1, next_.1, LuaNumber.tostring_small (by omega),
      LuaNumber.tostring_small (by omega)]
    constructor
    · rw [get?_writeBoth (keys_ne _ _), if_pos rfl]
    · rw [get?_writeBoth (keys_ne _ _), if_neg (keys_ne _ _).symm, if_pos rfl]

end Steps

/-- A range is cut at its first delta: behind it nothing is rounded any more. -/
theorem exactRange_cons {balance version delta : Int} {deltas : List Int}
    : ExactRange balance version (delta :: deltas)
      ↔ FitsStep balance version delta
        ∧ ExactRange (balance + delta) (version + 1) deltas := by
  constructor
  · intro range
    have first := range.sums [delta] ⟨deltas, rfl⟩ (List.cons_ne_nil _ _)
    have versions := range.versions (List.cons_ne_nil _ _)
    rw [List.sum_singleton] at first
    rw [List.length_cons] at versions
    push_cast at versions
    refine ⟨⟨range.first delta rfl, first.1, first.2, by omega⟩, ?_, fun _ => by omega, ?_⟩
    · intro done isPrefix _
      have sum :=
        range.sums (delta :: done) (List.cons_prefix_cons.mpr ⟨rfl, isPrefix⟩)
          (List.cons_ne_nil _ _)
      rwa [List.sum_cons, ← add_assoc] at sum
    · intro next isHead
      cases deltas with
      | nil => cases isHead
      | cons other rest =>
          obtain rfl := Option.some.inj isHead
          have second :=
            range.sums [delta, other] ⟨rest, rfl⟩ (List.cons_ne_nil _ _)
          rw [List.sum_cons, List.sum_singleton] at second
          -- The sum before the second delta and the delta itself are small, so neither is rounded
          rw [LuaNumber.rounded_small (by omega), LuaNumber.rounded_small (by omega)]
  · rintro ⟨fits, range⟩
    refine ⟨?_, fun _ => ?_, ?_⟩
    · intro done isPrefix some
      obtain ⟨head, tail, rfl⟩ := List.exists_cons_of_ne_nil some
      obtain ⟨rfl, tailPrefix⟩ := List.cons_prefix_cons.mp isPrefix
      rw [List.sum_cons, ← add_assoc]
      cases tail with
      | nil =>
          rw [List.sum_nil, add_zero]
          exact ⟨fits.nonneg, fits.small⟩
      | cons next tail => exact range.sums _ tailPrefix (List.cons_ne_nil _ _)
    · have versions := fits.version
      rw [List.length_cons]
      push_cast
      cases deltas with
      | nil => simpa using versions
      | cons other rest =>
          have later := range.versions (List.cons_ne_nil _ _)
          omega
    · intro next isHead
      obtain rfl := Option.some.inj isHead
      exact fits.cancels

/-- From an account that is stored in full, the sums are exact exactly within the range; by
induction over the increments.
-/
theorem sumsExact_iff_of_holding {tenantId accountId : String} {store : RedisStore}
    {balance version : Int}
    (valid : getKeys tenantId accountId = .ok (accountKeys tenantId accountId))
    (holding : HeldAmounts store (accountKeys tenantId accountId) balance version)
    (nonneg : 0 ≤ version) {increments : List Increment} (bound : balance.natAbs ≤ 2 ^ 63)
    (bounds : ∀ next ∈ increments, next.delta.natAbs ≤ 2 ^ 63)
    (succeed : AllSucceed tenantId accountId store increments)
    : SumsExact tenantId accountId store balance increments
      ↔ ExactRange balance version (increments.map Increment.delta) := by
  induction increments generalizing store balance version with
  | nil =>
      refine iff_of_true (fun done next later split => ?_) ⟨?_, ?_, ?_⟩
      · simp at split
      · intro done isPrefix some
        exact absurd (List.prefix_nil.mp isPrefix) some
      · exact fun some => absurd rfl some
      · exact fun delta isHead => by cases isHead
  | cons next rest ih =>
      obtain ⟨⟨result, succeeds⟩, succeedLater⟩ := forall_splits_cons.mp succeed
      obtain ⟨step, kept⟩ := increment_exact valid holding nonneg bound
        (bounds next List.mem_cons_self) succeeds
      rw [List.map_cons, exactRange_cons, SumsExact, forall_splits_cons]
      simp only [List.map_nil, List.sum_nil, add_zero, incremented, step]
      refine and_congr_right (fun fits => ?_)
      have nonnegSum := fits.nonneg
      have small := fits.small
      have later := ih (kept fits) (by omega) (by omega)
        (fun other member => bounds other (List.mem_cons_of_mem _ member)) succeedLater
      rw [← later, SumsExact]
      simp only [List.map_cons, List.sum_cons, add_assoc]

/-- After a balance of 64 bits was set, it can be read. The successful increments by deltas of
64 bits return, and leave to be read, the exact sums exactly within the range.
-/
theorem sums_exact_iff (tenantId accountId : String) (store : RedisStore) (balance version : Int)
    (increments : List Increment) (bound : balance.natAbs ≤ 2 ^ 63)
    (bounds : ∀ next ∈ increments, next.delta.natAbs ≤ 2 ^ 63)
    (isSet : (setBalance store tenantId accountId (.int balance) (.int version)).1 = .ok true)
    (succeed
      : AllSucceed tenantId accountId
          (setBalance store tenantId accountId (.int balance) (.int version)).2 increments)
    : let start := (setBalance store tenantId accountId (.int balance) (.int version)).2
      getBalance start tenantId accountId = .ok (some (balance, version))
      ∧ (SumsExact tenantId accountId start balance increments
        ↔ ExactRange balance version (increments.map Increment.delta)) := by
  intro start
  obtain ⟨⟨keys, amount, number⟩, checked, _⟩ := attempt_ok isSet
  obtain ⟨sameAmount, sameNumber, nonneg, valid⟩ := checkSet_ok checked
  obtain rfl := NumberArg.int.inj sameAmount
  obtain rfl := NumberArg.int.inj sameNumber
  obtain rfl := getKeys_ok valid
  have written
      : start
        = writeBoth store (accountKeys tenantId accountId) (.integer balance)
            (.integer version) :=
    congrArg Prod.snd (setBalance_int balance nonneg valid)
  have holding : HeldAmounts start (accountKeys tenantId accountId) balance version := by
    rw [written]
    constructor
    · rw [get?_writeBoth (keys_ne _ _), if_pos rfl]
    · rw [get?_writeBoth (keys_ne _ _), if_neg (keys_ne _ _).symm, if_pos rfl]
  refine ⟨?_, sumsExact_iff_of_holding valid holding nonneg bound bounds succeed⟩
  rw [written, getBalance_writeBoth valid]
  exact ⟨rfl, rfl⟩

section Sample

/-- A withdrawal and a deposit, without a check of the version. -/
def smallIncrements : List Increment := [⟨-300, -1⟩, ⟨50, -1⟩]

theorem sums_exact_iff_sample
    : SumsExact "T1" "A1" (setBalance .empty "T1" "A1" (.int 1000) (.int 1)).2 1000
        smallIncrements := by
  refine (sums_exact_iff "T1" "A1" .empty 1000 1 smallIncrements ?_ ?_ ?_ ?_).2.mpr ?_
  · decide
  · decide
  · decide
  · refine forall_splits_cons.mpr ⟨⟨(700, 2), by decide +kernel⟩, ?_⟩
    refine forall_splits_cons.mpr ⟨⟨(750, 3), by decide +kernel⟩, ?_⟩
    intro done next later split
    simp at split
  · have first : LuaNumber.rounded 1000 = 1000 := LuaNumber.rounded_small (by decide)
    have second : LuaNumber.rounded (-300) = -300 := LuaNumber.rounded_small (by decide)
    have third : LuaNumber.rounded 700 = 700 := LuaNumber.rounded_small (by decide)
    have fourth : LuaNumber.rounded 50 = 50 := LuaNumber.rounded_small (by decide)
    refine exactRange_cons.mpr ⟨⟨by simp [first, second], by decide, by decide, by decide⟩, ?_⟩
    refine exactRange_cons.mpr ⟨⟨by simp [third, fourth], by decide, by decide, by decide⟩, ?_⟩
    refine ⟨fun done isPrefix some => ?_, fun some => absurd rfl some, fun delta isHead => ?_⟩
    · exact absurd (List.prefix_nil.mp isPrefix) some
    · cases isHead

/-- The smallest unit is added to a balance of fourteen digits. -/
theorem fifteenth_digit_unreadable
    : let start := (setBalance .empty "T1" "A1" (.int 99999999999999) (.int 1)).2
      let call := increment "T1" "A1" start ⟨1, -1⟩
      call.1 = .ok (100000000000000, 2)
      ∧ getBalance call.2 "T1" "A1"
        = .error (.valueError "balance is not an integer-typed Redis value: '1e+14'")
      ∧ ¬ SumsExact "T1" "A1" start 99999999999999 [⟨1, -1⟩] := by
  intro start call
  have unread
      : getBalance call.2 "T1" "A1"
        = .error (.valueError "balance is not an integer-typed Redis value: '1e+14'") := by
    decide +kernel
  refine ⟨by decide +kernel, unread, fun sums => ?_⟩
  obtain ⟨version, readVersion, _, read⟩ := sums [] ⟨1, -1⟩ [] rfl
  have same := unread.symm.trans read
  cases same

end Sample

end PettyFlow.Cache
