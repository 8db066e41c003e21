import PettyFlow.Cache.RedisBalanceCache

/-! What a cached balance rests on: the last loaded amount and the increments since. The script
takes a missing balance for zero, so that an increment needs a loaded balance for this.
-/

namespace PettyFlow.Cache

open Foundation

abbrev AccountEvent := Event RedisStore AccountCall AccountAnswer

/-- The amount that an event loaded. -/
def loaded? (event : AccountEvent) : Option Int :=
  match event.input, event.output with
  | .setBalance (.int amount) _, .done (.ok _) => some amount
  | _, _ => none

/-- The delta that an event added to the balance. -/
def added (event : AccountEvent) : Int :=
  match event.input, event.output with
  | .atomicIncrementBalance (.int delta) _, .balance (.ok _) => delta
  | _, _ => 0

/-- The event evicted the account. -/
def evicted (event : AccountEvent) : Bool :=
  match event.input, event.output with
  | .invalidateCache, .done (.ok _) => true
  | _, _ => false

/-- The balance is an amount that was loaded after the last eviction, and the sum of the
deltas that were added since. No other amount was loaded in between.
-/
def Anchored (history : List AccountEvent) (balance : Int) : Prop :=
  ∃ past load later amount,
    history = past ++ load :: later
    ∧ loaded? load = some amount
    ∧ (∀ event ∈ later, loaded? event = none ∧ evicted event = false)
    ∧ balance = amount + (later.map added).sum

/-- No amount of the history was negative when it was loaded. -/
def LoadsNonneg (history : List AccountEvent) : Prop :=
  ∀ event ∈ history, ∀ amount ∈ loaded? event, 0 ≤ amount

/-- Amounts, deltas and the balances that are written have up to fourteen digits. An increment
writes a balance when it passes the checks of the script.
-/
def SmallAmounts (tenantId accountId : String) (store : RedisStore) : AccountCall → Prop
  | .setBalance amountScaled _ => ∀ amount ∈ amountScaled.int?, |amount| < 10 ^ 14
  | .atomicIncrementBalance deltaScaled expectedVersion =>
      ∀ delta ∈ deltaScaled.int?,
        |delta| < 10 ^ 14
        ∧ ∀ expected ∈ expectedVersion.int?,
            Passes store (accountKeys tenantId accountId) delta expected
            → ∀ balance,
                newBalance store (accountKeys tenantId accountId) delta = .finite balance
                → |balance| < 10 ^ 14
  | .invalidateCache => True

/-- An increment that passes the checks of the script finds a cached balance. -/
def FindsBalance (tenantId accountId : String) (store : RedisStore) : AccountCall → Prop
  | .atomicIncrementBalance deltaScaled expectedVersion =>
      ∀ delta ∈ deltaScaled.int?,
        ∀ expected ∈ expectedVersion.int?,
          Passes store (accountKeys tenantId accountId) delta expected
          → (store.get? (accountKeys tenantId accountId).balance).isSome
  | _ => True

section Anchor

variable {history : List AccountEvent} {event : AccountEvent} {balance : Int}

theorem Anchored.load {amount : Int} (loads : loaded? event = some amount)
    : Anchored (history ++ [event]) amount :=
  ⟨history, event, [], amount, rfl, loads, by simp, by simp⟩

/-- An event that neither loads nor evicts adds its delta to an anchored balance. -/
theorem Anchored.add (anchored : Anchored history balance) (quiet : loaded? event = none)
    (kept : evicted event = false)
    : Anchored (history ++ [event]) (balance + added event) := by
  obtain ⟨past, load, later, amount, rfl, loads, between, rfl⟩ := anchored
  refine ⟨past, load, later ++ [event], amount, by simp, loads, ?_, ?_⟩
  · intro other member
    rcases List.mem_append.mp member with old | new
    · exact between other old
    · rw [List.mem_singleton.mp new]
      exact ⟨quiet, kept⟩
  · simp [add_assoc]

theorem LoadsNonneg.init (nonneg : LoadsNonneg (history ++ [event])) : LoadsNonneg history :=
  fun other member => nonneg other (List.mem_append_left _ member)

end Anchor

/-- A cached balance is written in full, anchored, and not negative unless a negative amount
was loaded.
-/
structure Grounded (history : List AccountEvent) (raw : NumberText) (balance : Int) : Prop where
  written : raw = .integer balance
  small : |balance| < 10 ^ 14
  anchored : Anchored history balance
  nonneg : LoadsNonneg history → 0 ≤ balance

/-- Whatever balance is cached is grounded in the history. -/
def CacheGrounded (tenantId accountId : String) (history : List AccountEvent) (store : RedisStore)
    : Prop :=
  ∀ raw,
    store.get? (accountKeys tenantId accountId).balance = some raw
    → ∃ balance, Grounded history raw balance

section Steps

variable {tenantId accountId : String} {history : List AccountEvent} {store : RedisStore}

/-- An event that changes nothing keeps a balance grounded. -/
theorem Grounded.idle {raw : NumberText} {balance : Int} {event : AccountEvent}
    (grounded : Grounded history raw balance) (quiet : loaded? event = none)
    (kept : evicted event = false) (none_ : added event = 0)
    : Grounded (history ++ [event]) raw balance := by
  refine ⟨grounded.written, grounded.small, ?_, fun nonneg => grounded.nonneg nonneg.init⟩
  simpa only [none_, add_zero] using grounded.anchored.add quiet kept

theorem CacheGrounded.idle (grounded : CacheGrounded tenantId accountId history store)
    {event : AccountEvent} (quiet : loaded? event = none) (kept : evicted event = false)
    (none_ : added event = 0)
    : CacheGrounded tenantId accountId (history ++ [event]) store := by
  intro raw found
  obtain ⟨balance, ground⟩ := grounded raw found
  exact ⟨balance, ground.idle quiet kept none_⟩

/-- With a small balance and a small delta the script adds without rounding. -/
theorem newBalance_small {balance delta : Int} {keys : AccountKeys}
    (found : store.get? keys.balance = some (.integer balance)) (small : |balance| < 10 ^ 14)
    (smallDelta : |delta| < 10 ^ 14)
    : newBalance store keys delta = .finite (balance + delta) := by
  have bound := abs_lt.mp small
  have boundDelta := abs_lt.mp smallDelta
  have first : LuaNumber.ofInt balance = .finite balance := LuaNumber.ofInt_small (by omega)
  have second : LuaNumber.ofInt delta = .finite delta := LuaNumber.ofInt_small (by omega)
  have sum : LuaNumber.ofInt (balance + delta) = .finite (balance + delta) :=
    LuaNumber.ofInt_small (by omega)
  simp only [newBalance, numberAt, found, Option.getD_some, NumberText.tonumber, first, second,
    LuaNumber.add, sum]

/-- A load anchors the balance anew, whatever was cached before. -/
theorem setBalance_grounded (grounded : CacheGrounded tenantId accountId history store)
    {amountScaled versionId : NumberArg}
    (small : SmallAmounts tenantId accountId store (.setBalance amountScaled versionId))
    : let event :=
        (accountMachine tenantId accountId).event store (.setBalance amountScaled versionId)
      CacheGrounded tenantId accountId (history ++ [event]) event.after := by
  cases checked : checkSet tenantId accountId amountScaled versionId with
  | error error =>
      have failed
          : setBalance store tenantId accountId amountScaled versionId = (.error error, store) := by
        simp only [setBalance, checked, attempt]
      simp only [Machine.event, accountMachine, failed, Prod.map]
      cases amountScaled <;> exact grounded.idle rfl rfl rfl
  | ok checks =>
      obtain ⟨keys, amount, version⟩ := checks
      obtain ⟨rfl, rfl, nonneg, valid⟩ := checkSet_ok checked
      obtain rfl := getKeys_ok valid
      intro event raw found
      have loads : loaded? event = some amount := by
        simp only [event, Machine.event, accountMachine, setBalance_int amount nonneg valid,
          Prod.map, loaded?]
      simp only [event, Machine.event, accountMachine, setBalance_int amount nonneg valid, Prod.map,
        id_eq, get?_writeBoth (keys_ne _ _), if_true, Option.some.injEq] at found
      subst found
      refine ⟨amount, rfl, small amount rfl, Anchored.load loads, fun loadsNonneg => ?_⟩
      exact loadsNonneg event (by simp) amount loads

/-- An increment on a cached balance adds its delta, or changes nothing. -/
theorem increment_grounded (grounded : CacheGrounded tenantId accountId history store)
    {deltaScaled expectedVersion : NumberArg}
    (small
      : SmallAmounts tenantId accountId store
          (.atomicIncrementBalance deltaScaled expectedVersion))
    (finds
      : FindsBalance tenantId accountId store
          (.atomicIncrementBalance deltaScaled expectedVersion))
    : let event :=
        (accountMachine tenantId accountId).event store
          (.atomicIncrementBalance deltaScaled expectedVersion)
      CacheGrounded tenantId accountId (history ++ [event]) event.after := by
  have unchanged {error : CacheError}
      (failed
        : atomicIncrementBalance store tenantId accountId deltaScaled expectedVersion
          = (.error error, store))
      : let event :=
          (accountMachine tenantId accountId).event store
            (.atomicIncrementBalance deltaScaled expectedVersion)
        CacheGrounded tenantId accountId (history ++ [event]) event.after := by
    simp only [Machine.event, accountMachine, failed, Prod.map]
    cases deltaScaled <;> exact grounded.idle rfl rfl rfl
  cases checked : checkIncrement tenantId accountId deltaScaled expectedVersion with
  | error error => exact unchanged (atomicIncrementBalance_error checked)
  | ok checks =>
      obtain ⟨keys, delta, expected⟩ := checks
      obtain ⟨rfl, rfl, valid⟩ := checkIncrement_ok checked
      obtain rfl := getKeys_ok valid
      obtain ⟨passing, failing⟩ := atomicIncrementBalance_spec store checked
      by_cases passes : Passes store (accountKeys tenantId accountId) delta expected
      · obtain ⟨raw, cached⟩ := Option.isSome_iff_exists.mp (finds delta rfl expected rfl passes)
        obtain ⟨balance, ground⟩ := grounded raw cached
        rw [ground.written] at cached
        obtain ⟨smallDelta, smallResult⟩ := small delta rfl
        have sum := newBalance_small cached ground.small smallDelta
        have smallSum := smallResult expected rfl passes _ sum
        have funds := passes.funds
        intro event after found
        -- The step adds its delta and neither loads nor evicts a balance
        have adds : added event = delta := by
          simp only [event, Machine.event, accountMachine, passing passes, Prod.map, added]
        have quiet : loaded? event = none := rfl
        have kept : evicted event = false := rfl
        simp only [event, Machine.event, accountMachine, passing passes, Prod.map, id_eq, mutated,
          get?_writeBoth (keys_ne _ _), if_true, Option.some.injEq, sum] at found
        have bound := abs_lt.mp smallSum
        rw [LuaNumber.tostring_small (by omega)] at found
        subst found
        refine ⟨balance + delta, rfl, smallSum, ?_, fun _ => ?_⟩
        · simpa only [adds] using ground.anchored.add quiet kept
        · rw [sum] at funds
          exact not_lt.mp funds
      · obtain ⟨error, failed⟩ := failing passes
        exact unchanged failed

/-- An eviction leaves no cached balance. -/
theorem invalidateCache_grounded (grounded : CacheGrounded tenantId accountId history store)
    : let event := (accountMachine tenantId accountId).event store .invalidateCache
      CacheGrounded tenantId accountId (history ++ [event]) event.after := by
  cases valid : getKeys tenantId accountId with
  | error error =>
      have failed : invalidateCache store tenantId accountId = (.error error, store) := by
        simp only [invalidateCache, valid, attempt]
      simp only [Machine.event, accountMachine, failed, Prod.map]
      exact grounded.idle rfl rfl rfl
  | ok keys =>
      obtain rfl := getKeys_ok valid
      intro event raw found
      simp [event, Machine.event, accountMachine, invalidateCache, valid, attempt,
        Dict.get?_erase] at found

theorem step_grounded (grounded : CacheGrounded tenantId accountId history store)
    (call : AccountCall) (small : SmallAmounts tenantId accountId store call)
    (finds : FindsBalance tenantId accountId store call)
    : CacheGrounded tenantId accountId
        (history ++ [(accountMachine tenantId accountId).event store call])
        ((accountMachine tenantId accountId).step store call).2 := by
  cases call with
  | setBalance amountScaled versionId => exact setBalance_grounded grounded small
  | atomicIncrementBalance deltaScaled expectedVersion =>
      exact increment_grounded grounded small finds
  | invalidateCache => exact invalidateCache_grounded grounded

/-- An increment that raises an exception changes nothing. -/
theorem increment_error_unchanged (store : RedisStore) (call : AccountCall) {error : CacheError}
    (raised : ((accountMachine tenantId accountId).step store call).1 = .balance (.error error))
    : ((accountMachine tenantId accountId).step store call).2 = store := by
  cases call with
  | setBalance amountScaled versionId => cases raised
  | invalidateCache => cases raised
  | atomicIncrementBalance deltaScaled expectedVersion =>
      simp only [accountMachine, Prod.map_fst, Prod.map_snd, id_eq] at raised ⊢
      cases checked : checkIncrement tenantId accountId deltaScaled expectedVersion with
      | error error => rw [atomicIncrementBalance_error checked]
      | ok checks =>
          obtain ⟨keys, delta, expected⟩ := checks
          obtain ⟨passing, failing⟩ := atomicIncrementBalance_spec store checked
          by_cases passes : Passes store keys delta expected
          · rw [passing passes] at raised
            cases raised
          · obtain ⟨error, failed⟩ := failing passes
            rw [failed]

end Steps

/-- In every run in which increments that pass find a cached balance, a balance that is read
is anchored in the last load, and is not negative unless a negative amount was loaded. In
every run an increment that raises an exception changes nothing.
-/
theorem cached_balance_anchored (tenantId accountId : String) (calls : List AccountCall)
    (small
      : (accountMachine tenantId accountId).Admits (SmallAmounts tenantId accountId) .empty calls)
    (finds
      : (accountMachine tenantId accountId).Admits (FindsBalance tenantId accountId) .empty calls)
    : let history := (accountMachine tenantId accountId).history .empty calls
      (∀ balance version,
        getBalance ((accountMachine tenantId accountId).exec .empty calls) tenantId accountId
          = .ok (some (balance, version))
        → Anchored history balance ∧ (LoadsNonneg history → 0 ≤ balance))
      ∧ ∀ event ∈ history, ∀ error,
          event.output = .balance (.error error) → event.after = event.before := by
  intro history
  have admitted
      : (accountMachine tenantId accountId).Admits
          (fun store call =>
            SmallAmounts tenantId accountId store call
            ∧ FindsBalance tenantId accountId store call)
          .empty calls := by
    rw [Machine.admits_iff_history] at small finds ⊢
    exact fun event member => ⟨small event member, finds event member⟩
  constructor
  · intro balance version read
    have start : CacheGrounded tenantId accountId [] .empty := fun raw found => by cases found
    -- The empty cache is grounded, and every admitted step keeps it so
    have grounded :=
      (accountMachine tenantId accountId).history_invariant
        (motive := CacheGrounded tenantId accountId)
        (fun _ store call grounded step => step_grounded grounded call step.1 step.2) start
        admitted
    rw [List.nil_append] at grounded
    obtain ⟨keys, valid, read⟩ := bind_ok read
    obtain rfl := getKeys_ok valid
    cases cached
      : ((accountMachine tenantId accountId).exec .empty calls).get?
          (accountKeys tenantId accountId).balance
      with
    | none =>
        -- Nothing is cached, and there is nothing to read
        rw [cached] at read
        cases read
    | some raw =>
        obtain ⟨amount, ground⟩ := grounded raw cached
        rw [cached, ground.written] at read
        obtain ⟨readBalance, isInteger, read⟩ := bind_ok read
        obtain ⟨readVersion, _, read⟩ := bind_ok read
        cases read
        obtain rfl := Option.some.inj (orRaise_ok isInteger)
        exact ⟨ground.anchored, ground.nonneg⟩
  · intro event member error raised
    obtain ⟨_, _, same⟩ :=
      (accountMachine tenantId accountId).mem_history (motive := fun _ => True)
        (fun _ _ _ _ => trivial) trivial admitted member
    rw [same] at raised ⊢
    exact increment_error_unchanged event.before event.input raised

section Sample

/-- A loaded balance is incremented. -/
def loadedCalls : List AccountCall :=
  [.setBalance (.int 1000) defaultVersion, .atomicIncrementBalance (.int (-300)) anyVersion]

theorem cached_balance_anchored_sample
    : Anchored ((accountMachine "T1" "A1").history .empty loadedCalls) 700 := by
  have sum
      : newBalance (setBalance .empty "T1" "A1" (.int 1000) defaultVersion).2
          (accountKeys "T1" "A1") (-300)
        = .finite 700 := by
    decide +kernel
  apply ((cached_balance_anchored "T1" "A1" loadedCalls ?_ ?_).1 700 2 ?_).1
  · refine ⟨fun amount isInt => ?_, fun delta isInt => ?_, trivial⟩
    · obtain rfl := Option.some.inj isInt
      decide
    · obtain rfl := Option.some.inj isInt
      refine ⟨by decide, fun _ _ _ balance found => ?_⟩
      obtain rfl := LuaNumber.finite.inj (sum.symm.trans found)
      decide
  · refine ⟨trivial, fun delta isInt expected isInt' _ => ?_, trivial⟩
    decide +kernel
  · decide +kernel

/-- A balance is loaded and evicted; the next increment starts from zero. -/
def evictedCalls : List AccountCall :=
  [.setBalance (.int 1000) defaultVersion, .invalidateCache,
    .atomicIncrementBalance (.int 5) anyVersion]

/-- After an eviction an increment of 5 makes a balance of 5 that no load accounts for. -/
theorem evicted_balance_unanchored
    : getBalance ((accountMachine "T1" "A1").exec .empty evictedCalls) "T1" "A1"
        = .ok (some (5, 1))
      ∧ ¬ Anchored ((accountMachine "T1" "A1").history .empty evictedCalls) 5 := by
  constructor
  · decide +kernel
  · rintro ⟨past, load, later, amount, split, loads, between, _⟩
    -- Only the first call loads, and the eviction comes later
    rcases past with _ | ⟨first, _ | ⟨second, _ | ⟨third, past⟩⟩⟩
    · obtain ⟨rfl, rest⟩ := List.cons.inj split
      subst rest
      have quiet := (between _ List.mem_cons_self).2
      revert quiet
      decide +kernel
    · obtain ⟨_, rest⟩ := List.cons.inj split
      obtain ⟨rfl, _⟩ := List.cons.inj rest
      cases loads
    · obtain ⟨_, rest⟩ := List.cons.inj split
      obtain ⟨_, rest⟩ := List.cons.inj rest
      obtain ⟨rfl, _⟩ := List.cons.inj rest
      cases loads
    · have lengths := congrArg List.length split
      simp [evictedCalls, Machine.history] at lengths

end Sample

end PettyFlow.Cache
