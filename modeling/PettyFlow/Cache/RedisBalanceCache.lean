import PettyFlow.Foundation.Dict
import PettyFlow.Foundation.LuaNumber
import PettyFlow.Foundation.Machine
import PettyFlow.Foundation.Values

/-! The balance cache: two keys for each account, and a script that changes both at once under
an optional check of the version. The store and the script run on numbers written as text.
-/

namespace PettyFlow.Cache

open Foundation

/-- The exceptions of the cache, by class, with their texts. -/
inductive CacheError where
  | typeError (message : String)
  | valueError (message : String)
  | optimisticLock (message : String)
  | insufficientBalance (message : String)
deriving DecidableEq

abbrev RedisStore := Dict String NumberText

structure AccountKeys where
  balance : String
  version : String
deriving DecidableEq

/-- The text that both keys of an account begin with. -/
def keyPrefix (tenantId accountId : String) : String :=
  "pettyflow:\x7b" ++ tenantId ++ ":" ++ accountId ++ "\x7d"

def accountKeys (tenantId accountId : String) : AccountKeys :=
  ⟨keyPrefix tenantId accountId ++ ":balance", keyPrefix tenantId accountId ++ ":version"⟩

def getKeys (tenantId accountId : String) : Except CacheError AccountKeys :=
  if tenantId = "" ∨ accountId = "" then
    .error (.valueError "tenant_id and account_id must be non-empty")
  else
    .ok (accountKeys tenantId accountId)

def coerceInt (rawValue : NumberText) (fieldName : String) : Except CacheError Int :=
  orRaise rawValue.int?
    (.valueError
      (fieldName ++ " is not an integer-typed Redis value: '" ++ rawValue.text ++ "'"))

/-- The number under a key, or zero. -/
def numberAt (store : RedisStore) (key : String) : LuaNumber :=
  ((store.get? key).getD (.integer 0)).tonumber

/-- The script's check of the version; minus one ignores it. -/
def VersionMatches (store : RedisStore) (keys : AccountKeys) (expectedVersion : Int) : Prop :=
  (LuaNumber.ofInt expectedVersion).Same (.finite (-1))
  ∨ (numberAt store keys.version).Same (.ofInt expectedVersion)

instance (store : RedisStore) (keys : AccountKeys) (expectedVersion : Int)
    : Decidable (VersionMatches store keys expectedVersion) := by
  unfold VersionMatches
  infer_instance

def newBalance (store : RedisStore) (keys : AccountKeys) (delta : Int) : LuaNumber :=
  (numberAt store keys.balance).add (.ofInt delta)

def newVersion (store : RedisStore) (keys : AccountKeys) : LuaNumber :=
  (numberAt store keys.version).add (.ofInt 1)

/-- Write both keys of an account. -/
def writeBoth (store : RedisStore) (keys : AccountKeys) (balance version : NumberText)
    : RedisStore :=
  (store.set keys.balance balance).set keys.version version

/-- The script for an atomic change of a balance. -/
def atomicBalanceMutation (store : RedisStore) (keys : AccountKeys) (delta expectedVersion : Int)
    : (LuaNumber × LuaNumber) × RedisStore :=
  if ¬ VersionMatches store keys expectedVersion then
    ((.finite (-1), numberAt store keys.version), store)
  else if (newBalance store keys delta).Negative then
    ((.finite (-2), numberAt store keys.balance), store)
  else
    ((newBalance store keys delta, newVersion store keys),
      writeBoth store keys (newBalance store keys delta).tostring (newVersion store keys).tostring)

/-- A version that is missing counts as the first one. -/
def readVersion (rawVersion : Option NumberText) : Except CacheError Int :=
  match rawVersion with
  | some rawVersion => coerceInt rawVersion "version"
  | none => .ok 1

/-- Balance and version, if the balance is cached. -/
def readAccount (rawBalance rawVersion : Option NumberText)
    : Except CacheError (Option (Int × Int)) :=
  match rawBalance with
  | none => .ok none
  | some rawBalance => do
      let balance ← coerceInt rawBalance "balance"
      let version ← readVersion rawVersion
      return some (balance, version)

def getBalance (store : RedisStore) (tenantId accountId : String)
    : Except CacheError (Option (Int × Int)) := do
  let keys ← getKeys tenantId accountId
  readAccount (store.get? keys.balance) (store.get? keys.version)

/-- The version that `setBalance` writes without another one. -/
def defaultVersion : NumberArg := .int 1

/-- The expected version that is not checked. -/
def anyVersion : NumberArg := .int (-1)

/-- The checks of `setBalance`: the keys, the amount and the version. -/
def checkSet (tenantId accountId : String) (amountScaled versionId : NumberArg)
    : Except CacheError (AccountKeys × Int × Int) := do
  let amount ← orRaise amountScaled.int? (.typeError "amount_scaled must be an integer")
  let version ←
    orRaise (versionId.int?.filter (fun version => 0 ≤ version))
      (.valueError "version_id must be a non-negative integer")
  let keys ← getKeys tenantId accountId
  return (keys, amount, version)

def setBalance (store : RedisStore) (tenantId accountId : String)
    (amountScaled versionId : NumberArg) : Except CacheError Bool × RedisStore :=
  attempt store (checkSet tenantId accountId amountScaled versionId)
    (fun (keys, amount, version) =>
      (true, writeBoth store keys (.integer amount) (.integer version)))

/-- The checks of `atomicIncrementBalance`: the keys, the delta and the expected version. -/
def checkIncrement (tenantId accountId : String) (deltaScaled expectedVersion : NumberArg)
    : Except CacheError (AccountKeys × Int × Int) := do
  let delta ← orRaise deltaScaled.int? (.typeError "delta_scaled must be an integer")
  let expected ← orRaise expectedVersion.int? (.typeError "expected_version must be an integer")
  let keys ← getKeys tenantId accountId
  return (keys, delta, expected)

/-- What the two numbers of the script's answer say. -/
def readReply (accountId : String) (delta expected : Int) (answer : LuaNumber × LuaNumber)
    : Except CacheError (Int × Int) :=
  let statusCode := answer.1.reply
  let payload := answer.2.reply
  if statusCode = -1 then
    .error (.optimisticLock
      s!"Optimistic lock conflict for account {accountId}. Expected version {expected}, current version is {payload}")
  else if statusCode = -2 then
    .error (.insufficientBalance
      s!"Insufficient funds for account {accountId}. Current balance is {payload}, attempted delta {delta}")
  else
    .ok (statusCode, payload)

def atomicIncrementBalance (store : RedisStore) (tenantId accountId : String)
    (deltaScaled expectedVersion : NumberArg) : Except CacheError (Int × Int) × RedisStore :=
  match checkIncrement tenantId accountId deltaScaled expectedVersion with
  | .error error => (.error error, store)
  | .ok (keys, delta, expected) =>
      let (answer, store) := atomicBalanceMutation store keys delta expected
      (readReply accountId delta expected answer, store)

def invalidateCache (store : RedisStore) (tenantId accountId : String)
    : Except CacheError Bool × RedisStore :=
  attempt store (getKeys tenantId accountId)
    (fun keys => (true, (store.erase keys.balance).erase keys.version))

/-- The calls that change an account. -/
inductive AccountCall where
  | setBalance (amountScaled versionId : NumberArg)
  | atomicIncrementBalance (deltaScaled expectedVersion : NumberArg)
  | invalidateCache
deriving DecidableEq

inductive AccountAnswer where
  | done (result : Except CacheError Bool)
  | balance (result : Except CacheError (Int × Int))

/-- The calls on one account, on a store that holds other keys as well. -/
def accountMachine (tenantId accountId : String)
    : Machine RedisStore AccountCall AccountAnswer where
  step store call :=
    match call with
    | .setBalance amountScaled versionId =>
        (setBalance store tenantId accountId amountScaled versionId).map .done id
    | .atomicIncrementBalance deltaScaled expectedVersion =>
        (atomicIncrementBalance store tenantId accountId deltaScaled expectedVersion).map
          .balance id
    | .invalidateCache => (invalidateCache store tenantId accountId).map .done id

section Specifications

variable {store : RedisStore} {tenantId accountId : String}

theorem keys_ne (tenantId accountId : String)
    : (accountKeys tenantId accountId).balance ≠ (accountKeys tenantId accountId).version := by
  intro same
  have ends := String.append_right_inj _ |>.mp same
  exact absurd ends (by decide)

theorem getKeys_ok {keys : AccountKeys} (valid : getKeys tenantId accountId = .ok keys)
    : keys = accountKeys tenantId accountId := by
  unfold getKeys at valid
  split at valid <;> cases valid
  rfl

theorem getKeys_nonempty (tenant : tenantId ≠ "") (account : accountId ≠ "")
    : getKeys tenantId accountId = .ok (accountKeys tenantId accountId) := by
  simp [getKeys, tenant, account]

/-- An answer that is not negative stands for success. -/
theorem reply_nonneg {n : LuaNumber} (nonneg : ¬ n.Negative)
    : n.reply ≠ -1 ∧ n.reply ≠ -2 := by
  cases n with
  | finite value =>
      simp only [LuaNumber.Negative] at nonneg
      simp only [LuaNumber.reply]
      split <;> omega
  | infinite negative => simp [LuaNumber.reply]
  | notANumber => decide

/-- The script changes the balance: the version matches and the new balance is not negative. -/
structure Passes (store : RedisStore) (keys : AccountKeys) (delta expected : Int) : Prop where
  version : VersionMatches store keys expected
  funds : ¬ (newBalance store keys delta).Negative

/-- The account after a change by the script. -/
def mutated (store : RedisStore) (keys : AccountKeys) (delta : Int) : RedisStore :=
  writeBoth store keys (newBalance store keys delta).tostring (newVersion store keys).tostring

/-- An increment that passes writes both keys and succeeds; any other one raises an exception
and changes nothing.
-/
theorem atomicIncrementBalance_spec (store : RedisStore) {deltaScaled expectedVersion : NumberArg}
    {keys : AccountKeys} {delta expected : Int}
    (checked
      : checkIncrement tenantId accountId deltaScaled expectedVersion
        = .ok (keys, delta, expected))
    : (Passes store keys delta expected
        → atomicIncrementBalance store tenantId accountId deltaScaled expectedVersion
          = (.ok ((newBalance store keys delta).reply, (newVersion store keys).reply),
            mutated store keys delta))
      ∧ (¬ Passes store keys delta expected
        → ∃ error,
            atomicIncrementBalance store tenantId accountId deltaScaled expectedVersion
            = (.error error, store)) := by
  simp only [atomicIncrementBalance, checked, atomicBalanceMutation]
  by_cases matching : VersionMatches store keys expected
  · simp only [matching, not_true, if_false]
    by_cases negative : (newBalance store keys delta).Negative
    · simp only [negative, if_true]
      refine ⟨fun passes => absurd negative passes.funds, fun _ => ⟨_, rfl⟩⟩
    · simp only [negative, if_false, readReply]
      obtain ⟨noConflict, noShortage⟩ := reply_nonneg negative
      simp only [noConflict, noShortage, if_false]
      exact ⟨fun _ => rfl, fun fails => absurd ⟨matching, negative⟩ fails⟩
  · simp only [matching, not_false_iff, if_true]
    exact ⟨fun passes => absurd passes.version matching, fun _ => ⟨_, rfl⟩⟩

theorem atomicIncrementBalance_error {deltaScaled expectedVersion : NumberArg}
    {error : CacheError}
    (checked : checkIncrement tenantId accountId deltaScaled expectedVersion = .error error)
    : atomicIncrementBalance store tenantId accountId deltaScaled expectedVersion
      = (.error error, store) := by
  simp only [atomicIncrementBalance, checked]

theorem get?_writeBoth {keys : AccountKeys} (apart : keys.balance ≠ keys.version)
    (balance version : NumberText) (key : String)
    : (writeBoth store keys balance version).get? key
      = if key = keys.balance then some balance
        else if key = keys.version then some version
        else store.get? key := by
  unfold writeBoth
  rw [Dict.get?_set, Dict.get?_set]
  by_cases isBalance : key = keys.balance
  · subst isBalance
    simp [apart.symm]
  · by_cases isVersion : key = keys.version
    · subst isVersion
      simp [isBalance]
    · simp [isBalance, isVersion, Ne.symm isBalance, Ne.symm isVersion]

theorem checkSet_ok {amountScaled versionId : NumberArg} {keys : AccountKeys}
    {amount version : Int}
    (checked : checkSet tenantId accountId amountScaled versionId = .ok (keys, amount, version))
    : amountScaled = .int amount ∧ versionId = .int version ∧ 0 ≤ version
      ∧ getKeys tenantId accountId = .ok keys := by
  obtain ⟨value, isInt, checked⟩ := bind_ok checked
  obtain ⟨number, isVersion, checked⟩ := bind_ok checked
  obtain ⟨found, valid, checked⟩ := bind_ok checked
  cases checked
  obtain ⟨isInt', nonneg⟩ := Option.filter_eq_some_iff.mp (orRaise_ok isVersion)
  have amounts : amountScaled = .int amount := by
    cases amountScaled <;> cases orRaise_ok isInt
    rfl
  have versions : versionId = .int version := by
    cases versionId <;> cases isInt'
    rfl
  exact ⟨amounts, versions, of_decide_eq_true nonneg, valid⟩

/-- A load with a valid version writes both keys. -/
theorem setBalance_int (amount : Int) {version : Int} (nonneg : 0 ≤ version) {keys : AccountKeys}
    (valid : getKeys tenantId accountId = .ok keys)
    : setBalance store tenantId accountId (.int amount) (.int version)
      = (.ok true, writeBoth store keys (.integer amount) (.integer version)) := by
  have checked
      : checkSet tenantId accountId (.int amount) (.int version) = .ok (keys, amount, version) := by
    simp [checkSet, NumberArg.int?, orRaise, Option.filter, nonneg, valid, bind, Except.bind,
      pure, Except.pure]
  simp only [setBalance, checked, attempt]

theorem checkIncrement_ok {deltaScaled expectedVersion : NumberArg} {keys : AccountKeys}
    {delta expected : Int}
    (checked
      : checkIncrement tenantId accountId deltaScaled expectedVersion
        = .ok (keys, delta, expected))
    : deltaScaled = .int delta ∧ expectedVersion = .int expected
      ∧ getKeys tenantId accountId = .ok keys := by
  obtain ⟨value, isInt, checked⟩ := bind_ok checked
  obtain ⟨number, isInt', checked⟩ := bind_ok checked
  obtain ⟨found, valid, checked⟩ := bind_ok checked
  cases checked
  have deltas : deltaScaled = .int delta := by
    cases deltaScaled <;> cases orRaise_ok isInt
    rfl
  have versions : expectedVersion = .int expected := by
    cases expectedVersion <;> cases orRaise_ok isInt'
    rfl
  exact ⟨deltas, versions, valid⟩

end Specifications

end PettyFlow.Cache
