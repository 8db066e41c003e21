import PettyFlow.Cache.RedisBalanceCache
import PettyFlow.Foundation.Pool

/-! Clients that share one account. Each one increments with the version it read last, and the
script refuses an increment whose version is not the stored one. The versions protect against
lost updates as long as no change brings back a version that a client still holds.
-/

namespace PettyFlow.Cache

open Foundation

inductive ClientAction where
  | getBalance
  | incrementBalance (deltaScaled : NumberArg)
  | setBalance (amountScaled versionId : NumberArg)
  | invalidateCache
deriving DecidableEq

inductive ClientAnswer where
  | read (result : Except CacheError (Option (Int × Int)))
  | balance (result : Except CacheError (Int × Int))
  | done (result : Except CacheError Bool)
  | noVersion
deriving DecidableEq

/-- The version in an answer, if a balance was found. -/
def versionOf : ClientAnswer → Option Int
  | .read (.ok (some (_, version))) => some version
  | _ => none

/-- One action of a client, given the version that it holds. A client that holds no version has
nothing to expect and does not increment.
-/
def clientAct (tenantId accountId : String) (store : RedisStore) (held : Option Int)
    : ClientAction → ClientAnswer × RedisStore × Option Int
  | .getBalance =>
      let answer := .read (getBalance store tenantId accountId)
      (answer, store, (versionOf answer).or held)
  | .incrementBalance deltaScaled =>
      match held with
      | none => (.noVersion, store, held)
      | some version =>
          let (result, store) :=
            atomicIncrementBalance store tenantId accountId deltaScaled (.int version)
          (.balance result, store, held)
  | .setBalance amountScaled versionId =>
      let (result, store) := setBalance store tenantId accountId amountScaled versionId
      (.done result, store, held)
  | .invalidateCache =>
      let (result, store) := invalidateCache store tenantId accountId
      (.done result, store, held)

abbrev Clients (W : Type) := Pool W RedisStore (Option Int)

abbrev ClientEvent (W : Type) := Event (Clients W) (W × ClientAction) ClientAnswer

/-- All interleavings of the clients' actions on one account. -/
def clientMachine {W : Type} [DecidableEq W] (tenantId accountId : String)
    : Machine (Clients W) (W × ClientAction) ClientAnswer :=
  Pool.machine (clientAct tenantId accountId)

/-- Nothing is cached, and no client holds a version. -/
def Clients.start (W : Type) : Clients W := ⟨.empty, fun _ => none⟩

/-- The answer to a change of the account that took effect. -/
def TookEffect : ClientAnswer → Prop
  | .balance (.ok _) => True
  | .done (.ok _) => True
  | _ => False

instance (answer : ClientAnswer) : Decidable (TookEffect answer) := by
  unfold TookEffect
  split <;> infer_instance

/-- What changes the account reads no version. -/
theorem versionOf_none {answer : ClientAnswer} (effect : TookEffect answer)
    : versionOf answer = none := by
  cases answer with
  | read result => cases effect
  | balance result => rfl
  | done result => rfl
  | noVersion => cases effect

/-- When a client's increment succeeds, nothing took effect since the read that gave it its
version, and the increment starts from the store that the client read.
-/
def NoLostUpdate {W : Type} (history : List (ClientEvent W)) : Prop :=
  ∀ past read between update later version result,
    history = past ++ read :: (between ++ update :: later)
    → read.input.1 = update.input.1
    → versionOf read.output = some version
    → (∀ event ∈ between, event.input.1 = update.input.1 → versionOf event.output = none)
    → update.output = .balance (.ok result)
    → (∀ event ∈ between, ¬ TookEffect event.output)
      ∧ update.before.shared = read.before.shared

/-- The version number that an action leaves behind if it changes the account. -/
inductive Leaves (tenantId accountId : String) (store : RedisStore) (held : Option Int)
    : ClientAction → LuaNumber → Prop where
  | set {amountScaled versionId : NumberArg} {keys : AccountKeys} {amount version : Int}
      (checked
        : checkSet tenantId accountId amountScaled versionId = .ok (keys, amount, version))
      : Leaves tenantId accountId store held (.setBalance amountScaled versionId)
          (.ofInt version)
  | invalidate {keys : AccountKeys} (valid : getKeys tenantId accountId = .ok keys)
      : Leaves tenantId accountId store held .invalidateCache (.ofInt 0)
  | increment {deltaScaled : NumberArg} {version delta : Int} {keys : AccountKeys}
      (holds : held = some version)
      (checked
        : checkIncrement tenantId accountId deltaScaled (.int version)
          = .ok (keys, delta, version))
      (passes : Passes store keys delta version)
      : Leaves tenantId accountId store held (.incrementBalance deltaScaled)
          (newVersion store keys).tostring.tonumber

/-- A change of the account does not leave a version that some client holds. -/
def VersionsFresh {W : Type} (tenantId accountId : String) (s : Clients W)
    (input : W × ClientAction) : Prop :=
  ∀ number,
    Leaves tenantId accountId s.shared (s.phase input.1) input.2 number
    → ∀ client version,
        s.phase client = some version
        → ¬ number.Same (.ofInt version)

section Actions

variable {tenantId accountId : String} {store : RedisStore} {held : Option Int}

/-- The stored version as a number; zero if there is none. -/
abbrev storedVersion (tenantId accountId : String) (store : RedisStore) : LuaNumber :=
  numberAt store (accountKeys tenantId accountId).version

/-- What an action of a client does: it changes the account and leaves the version that
`Leaves` names, or it changes nothing. By cases on the action and its checks.
-/
theorem clientAct_cases (tenantId accountId : String) (store : RedisStore) (held : Option Int)
    (action : ClientAction)
    : let (answer, next, _) := clientAct tenantId accountId store held action
      (TookEffect answer
        ∧ Leaves tenantId accountId store held action (storedVersion tenantId accountId next))
      ∨ (¬ TookEffect answer ∧ next = store) := by
  cases action with
  | getBalance =>
      right
      exact ⟨by simp [TookEffect], rfl⟩
  | incrementBalance deltaScaled =>
      cases held with
      | none =>
          -- A client that holds no version does not call the script at all
          right
          exact ⟨by simp [TookEffect], rfl⟩
      | some version =>
          simp only [clientAct]
          cases checked
            : checkIncrement tenantId accountId deltaScaled (.int version)
            with
          | error error =>
              right
              rw [atomicIncrementBalance_error checked]
              exact ⟨by simp [TookEffect], rfl⟩
          | ok checks =>
              obtain ⟨keys, delta, expected⟩ := checks
              obtain ⟨_, same, valid⟩ := checkIncrement_ok checked
              obtain rfl := NumberArg.int.inj same
              obtain rfl := getKeys_ok valid
              obtain ⟨passing, failing⟩ := atomicIncrementBalance_spec store checked
              by_cases passes : Passes store (accountKeys tenantId accountId) delta version
              · left
                rw [passing passes]
                refine ⟨trivial, ?_⟩
                have left_ := Leaves.increment rfl checked passes
                simpa only [storedVersion, numberAt, mutated, get?_writeBoth (keys_ne _ _),
                  (keys_ne tenantId accountId).symm, if_true, if_false, Option.getD_some] using left_
              · right
                obtain ⟨error, failed⟩ := failing passes
                rw [failed]
                exact ⟨by simp [TookEffect], rfl⟩
  | setBalance amountScaled versionId =>
      simp only [clientAct, setBalance]
      cases checked : checkSet tenantId accountId amountScaled versionId with
      | error error =>
          right
          exact ⟨by simp [attempt, TookEffect], rfl⟩
      | ok checks =>
          left
          obtain ⟨keys, amount, version⟩ := checks
          obtain ⟨_, _, _, valid⟩ := checkSet_ok checked
          obtain rfl := getKeys_ok valid
          refine ⟨trivial, ?_⟩
          have left_ : Leaves tenantId accountId store held _ _ := .set checked
          simpa only [attempt, storedVersion, numberAt, get?_writeBoth (keys_ne _ _),
            (keys_ne tenantId accountId).symm, if_true, if_false, Option.getD_some,
            NumberText.tonumber] using left_
  | invalidateCache =>
      simp only [clientAct, invalidateCache]
      cases valid : getKeys tenantId accountId with
      | error error =>
          right
          exact ⟨by simp [attempt, TookEffect], rfl⟩
      | ok keys =>
          left
          refine ⟨trivial, ?_⟩
          have left_ : Leaves tenantId accountId store held _ _ := .invalidate valid
          obtain rfl := getKeys_ok valid
          simpa [attempt, storedVersion, numberAt, Dict.get?_erase, NumberText.tonumber] using left_

/-- A held version changes only to one that was read. -/
theorem clientAct_held (tenantId accountId : String) (store : RedisStore) (held : Option Int)
    (action : ClientAction)
    : let (answer, _, next) := clientAct tenantId accountId store held action
      next = (versionOf answer).or held := by
  cases action with
  | getBalance => rfl
  | incrementBalance deltaScaled => cases held <;> rfl
  | setBalance amountScaled versionId => rfl
  | invalidateCache => rfl

/-- No change leaves a negative version, because only a load names one. -/
theorem Leaves.nonneg {action : ClientAction} {number : LuaNumber}
    (left_ : Leaves tenantId accountId store held action number)
    (stored : ¬ (storedVersion tenantId accountId store).Negative)
    : ¬ number.Negative := by
  cases left_ with
  | set checked =>
      obtain ⟨_, _, nonneg, _⟩ := checkSet_ok checked
      exact LuaNumber.ofInt_nonneg nonneg
  | invalidate _ => exact LuaNumber.ofInt_nonneg le_rfl
  | increment _ checked _ =>
      obtain ⟨_, _, valid⟩ := checkIncrement_ok checked
      obtain rfl := getKeys_ok valid
      apply LuaNumber.tostring_nonneg
      exact LuaNumber.add_nonneg stored (LuaNumber.ofInt_nonneg (by decide))

/-- A version that was read is not the one that an increment does not check. -/
theorem versionOf_getBalance (stored : ¬ (storedVersion tenantId accountId store).Negative)
    {version : Int} (read : versionOf (.read (getBalance store tenantId accountId)) = some version)
    : version ≠ -1 := by
  rintro rfl
  cases outcome : getBalance store tenantId accountId with
  | error error =>
      rw [outcome] at read
      cases read
  | ok found =>
      obtain ⟨keys, valid, account⟩ := bind_ok outcome
      obtain rfl := getKeys_ok valid
      rw [outcome] at read
      cases rawBalance : store.get? (accountKeys tenantId accountId).balance with
      | none =>
          rw [rawBalance] at account
          cases account
          cases read
      | some raw =>
          rw [rawBalance] at account
          obtain ⟨balance, _, account⟩ := bind_ok account
          obtain ⟨version, isVersion, account⟩ := bind_ok account
          cases account
          obtain rfl := Option.some.inj read
          cases rawVersion : store.get? (accountKeys tenantId accountId).version with
          | none =>
              rw [rawVersion] at isVersion
              cases isVersion
          | some rawVersion' =>
              -- Only an integer is read as a version, and the stored one is not negative
              rw [rawVersion] at isVersion
              cases rawVersion' with
              | integer value =>
                  obtain rfl := Except.ok.inj isVersion
                  apply stored
                  simp only [storedVersion, numberAt, rawVersion, Option.getD_some,
                    NumberText.tonumber, LuaNumber.ofInt_small (n := -1) (by decide)]
                  decide
              | scientific value => cases isVersion
              | infinite negative => cases isVersion
              | notANumber => cases isVersion

/-- An increment that expects another version than the stored one changes nothing. -/
theorem stale_increment (deltaScaled : NumberArg) {version : Int} (checkable : version ≠ -1)
    (stale : ¬ (storedVersion tenantId accountId store).Same (.ofInt version))
    (result : Int × Int)
    : (clientAct tenantId accountId store (some version) (.incrementBalance deltaScaled)).1
      ≠ .balance (.ok result) := by
  simp only [clientAct]
  cases checked : checkIncrement tenantId accountId deltaScaled (.int version) with
  | error error =>
      rw [atomicIncrementBalance_error checked]
      simp
  | ok checks =>
      obtain ⟨keys, delta, expected⟩ := checks
      obtain ⟨_, same, valid⟩ := checkIncrement_ok checked
      obtain rfl := NumberArg.int.inj same
      obtain rfl := getKeys_ok valid
      have fails : ¬ Passes store (accountKeys tenantId accountId) delta version := by
        intro passes
        have checked_ : ¬ (LuaNumber.ofInt version).Same (.finite (-1)) :=
          mt LuaNumber.ofInt_same_minusOne.mp checkable
        exact stale (passes.version.resolve_left checked_)
      obtain ⟨_, failing⟩ := atomicIncrementBalance_spec store checked
      obtain ⟨error, failed⟩ := failing fails
      rw [failed]
      simp

/-- A version that an action reads can be checked by an increment. -/
theorem clientAct_version (stored : ¬ (storedVersion tenantId accountId store).Negative)
    {action : ClientAction} {version : Int}
    (read : versionOf (clientAct tenantId accountId store held action).1 = some version)
    : version ≠ -1 := by
  cases action with
  | getBalance => exact versionOf_getBalance stored read
  | incrementBalance deltaScaled => cases held <;> cases read
  | setBalance amountScaled versionId => cases read
  | invalidateCache => cases read

end Actions

section Runs

variable {W : Type} [DecidableEq W] {tenantId accountId : String} {s : Clients W}
  {input : W × ClientAction}

/-- A step changes the account and leaves the version that `Leaves` names, or keeps the store. -/
theorem event_cases (tenantId accountId : String) (s : Clients W) (input : W × ClientAction)
    : let event := (clientMachine tenantId accountId).event s input
      (TookEffect event.output
        ∧ Leaves tenantId accountId s.shared (s.phase input.1) input.2
            (storedVersion tenantId accountId event.after.shared))
      ∨ (¬ TookEffect event.output ∧ event.after.shared = s.shared) :=
  clientAct_cases tenantId accountId s.shared (s.phase input.1) input.2

theorem event_phase (tenantId accountId : String) (s : Clients W) (input : W × ClientAction)
    : let event := (clientMachine tenantId accountId).event s input
      event.after.phase
      = Function.update s.phase input.1 ((versionOf event.output).or (s.phase input.1)) :=
  congrArg (Function.update s.phase input.1)
    (clientAct_held tenantId accountId s.shared (s.phase input.1) input.2)

/-- Neither the stored version nor a held one is minus one, which increments do not check. -/
structure VersionsChecked (tenantId accountId : String) (s : Clients W) : Prop where
  stored : ¬ (storedVersion tenantId accountId s.shared).Negative
  held : ∀ client, s.phase client ≠ some (-1)

theorem VersionsChecked.step (checked : VersionsChecked tenantId accountId s)
    (input : W × ClientAction)
    : VersionsChecked tenantId accountId ((clientMachine tenantId accountId).step s input).2 := by
  constructor
  · rcases event_cases tenantId accountId s input with ⟨_, left_⟩ | ⟨_, kept⟩
    · exact left_.nonneg checked.stored
    · rw [show ((clientMachine tenantId accountId).step s input).2.shared = s.shared from kept]
      exact checked.stored
  · intro client holds
    rw [show ((clientMachine tenantId accountId).step s input).2.phase = _ from
      event_phase tenantId accountId s input] at holds
    by_cases own : client = input.1
    · subst own
      rw [Function.update_self, Option.or_eq_some_iff] at holds
      rcases holds with read | ⟨_, before⟩
      · exact clientAct_version checked.stored read rfl
      · exact checked.held _ before
    · rw [Function.update_of_ne own] at holds
      exact checked.held client holds

/-- A client holds a version until it reads another one. -/
theorem held_kept {client : W} {version : Int} (holds : s.phase client = some version)
    (unread
      : input.1 = client
        → versionOf ((clientMachine tenantId accountId).event s input).output = none)
    : ((clientMachine tenantId accountId).step s input).2.phase client = some version := by
  rw [show ((clientMachine tenantId accountId).step s input).2.phase = _ from
    event_phase tenantId accountId s input]
  by_cases own : client = input.1
  · subst own
    rw [Function.update_self, unread rfl, Option.none_or]
    exact holds
  · rw [Function.update_of_ne own]
    exact holds

/-- A client holds a version that an increment can check. -/
structure Holding (tenantId accountId : String) (client : W) (version : Int) (s : Clients W)
    : Prop where
  checked : VersionsChecked tenantId accountId s
  holds : s.phase client = some version

theorem VersionsChecked.read {version : Int} (checked : VersionsChecked tenantId accountId s)
    (isRead
      : versionOf ((clientMachine tenantId accountId).event s input).output = some version)
    : Holding tenantId accountId input.1 version
        ((clientMachine tenantId accountId).step s input).2 := by
  refine ⟨checked.step input, ?_⟩
  rw [show ((clientMachine tenantId accountId).step s input).2.phase = _ from
    event_phase tenantId accountId s input, Function.update_self, isRead, Option.some_or]

/-- A client holds a version that is no longer the stored one. -/
structure Stale (tenantId accountId : String) (client : W) (version : Int) (s : Clients W) : Prop
    extends Holding tenantId accountId client version s where
  stale : ¬ (storedVersion tenantId accountId s.shared).Same (.ofInt version)

/-- A client reads no version in an event. -/
def Unread (client : W) (event : ClientEvent W) : Prop :=
  event.input.1 = client → versionOf event.output = none

theorem Holding.step {client : W} {version : Int}
    (holding : Holding tenantId accountId client version s)
    (unread : Unread client ((clientMachine tenantId accountId).event s input))
    : Holding tenantId accountId client version
        ((clientMachine tenantId accountId).step s input).2 :=
  ⟨holding.checked.step input, held_kept holding.holds unread⟩

/-- A change of the account makes every held version stale. -/
theorem Holding.becomesStale {client : W} {version : Int}
    (holding : Holding tenantId accountId client version s)
    (unread : Unread client ((clientMachine tenantId accountId).event s input))
    (fresh : VersionsFresh tenantId accountId s input)
    (effect : TookEffect ((clientMachine tenantId accountId).event s input).output)
    : Stale tenantId accountId client version
        ((clientMachine tenantId accountId).step s input).2 := by
  refine ⟨holding.step unread, ?_⟩
  rcases event_cases tenantId accountId s input with ⟨_, left_⟩ | ⟨quiet, _⟩
  · exact fresh _ left_ client version holding.holds
  · exact absurd effect quiet

/-- A stale version stays stale: what changes the account does not bring it back. -/
theorem Stale.step {client : W} {version : Int}
    (stale : Stale tenantId accountId client version s)
    (unread : Unread client ((clientMachine tenantId accountId).event s input))
    (fresh : VersionsFresh tenantId accountId s input)
    : Stale tenantId accountId client version
        ((clientMachine tenantId accountId).step s input).2 := by
  rcases event_cases tenantId accountId s input with ⟨effect, _⟩ | ⟨_, kept⟩
  · exact stale.toHolding.becomesStale unread fresh effect
  · refine ⟨stale.toHolding.step unread, ?_⟩
    rw [show ((clientMachine tenantId accountId).step s input).2.shared = s.shared from kept]
    exact stale.stale

/-- A client with a stale version does not increment. -/
theorem Stale.fails {client : W} {version : Int}
    (stale : Stale tenantId accountId client version s) (own : input.1 = client)
    (result : Int × Int)
    : ((clientMachine tenantId accountId).event s input).output ≠ .balance (.ok result) := by
  obtain ⟨worker, action⟩ := input
  obtain rfl : worker = client := own
  change (clientAct tenantId accountId s.shared (s.phase worker) action).1 ≠ _
  rw [stale.holds]
  cases action with
  | getBalance => simp [clientAct]
  | incrementBalance deltaScaled =>
      have checkable : version ≠ -1 := by
        rintro rfl
        exact stale.checked.held worker stale.holds
      exact stale_increment deltaScaled checkable stale.stale result
  | setBalance amountScaled versionId => simp [clientAct]
  | invalidateCache => simp [clientAct]

variable {inputs : List (W × ClientAction)}

theorem Holding.exec {client : W} {version : Int}
    (holding : Holding tenantId accountId client version s)
    (unread : ∀ event ∈ (clientMachine tenantId accountId).history s inputs, Unread client event)
    : Holding tenantId accountId client version
        ((clientMachine tenantId accountId).exec s inputs) := by
  apply Machine.exec_invariant_of_events _ _ holding unread
  exact fun _ _ holding unread => holding.step unread

theorem Stale.exec {client : W} {version : Int}
    (stale : Stale tenantId accountId client version s)
    (unread : ∀ event ∈ (clientMachine tenantId accountId).history s inputs, Unread client event)
    (fresh
      : (clientMachine tenantId accountId).Admits (VersionsFresh tenantId accountId) s inputs)
    : Stale tenantId accountId client version
        ((clientMachine tenantId accountId).exec s inputs) := by
  rw [Machine.admits_iff_history] at fresh
  have kept
      : ∀ event ∈ (clientMachine tenantId accountId).history s inputs,
          Unread client event ∧ VersionsFresh tenantId accountId event.before event.input :=
    fun event member => ⟨unread event member, fresh event member⟩
  apply Machine.exec_invariant_of_events _ _ stale kept
  exact fun _ _ stale kept => stale.step kept.1 kept.2

/-- Steps without an effect keep the store. -/
theorem store_kept {store : RedisStore} (start : s.shared = store)
    (quiet
      : ∀ event ∈ (clientMachine tenantId accountId).history s inputs, ¬ TookEffect event.output)
    : ((clientMachine tenantId accountId).exec s inputs).shared = store := by
  apply Machine.exec_invariant_of_events (motive := fun s => s.shared = store) _ _ start quiet
  intro s input same quiet
  rcases event_cases tenantId accountId s input with ⟨effect, _⟩ | ⟨_, kept⟩
  · exact absurd effect quiet
  · exact kept.trans same

/-- While a client holds a version, a change of the account makes it stale, so that an
increment that succeeds afterwards is impossible. The history is cut at the change.
-/
theorem quiet_of_increment {client : W} {version : Int} {last : W × ClientAction}
    {result : Int × Int} (holding : Holding tenantId accountId client version s)
    (fresh
      : (clientMachine tenantId accountId).Admits (VersionsFresh tenantId accountId) s inputs)
    (unread : ∀ event ∈ (clientMachine tenantId accountId).history s inputs, Unread client event)
    (own : last.1 = client)
    (succeeded
      : ((clientMachine tenantId accountId).event
            ((clientMachine tenantId accountId).exec s inputs) last).output
        = .balance (.ok result))
    : ∀ event ∈ (clientMachine tenantId accountId).history s inputs,
        ¬ TookEffect event.output := by
  intro event member effect
  obtain ⟨before, after, cut⟩ := List.append_of_mem member
  obtain ⟨beforeInputs, rest, rfl, isBefore, here⟩ := Machine.history_split _ cut
  cases rest with
  | nil => cases here
  | cons input afterInputs =>
      obtain ⟨rfl, isAfter⟩ := List.cons.inj here
      obtain ⟨_, freshHere, freshAfter⟩ := (Machine.admits_append _ _ _ _).mp fresh
      rw [cut] at unread
      have unreadBefore : ∀ event ∈ before, Unread client event :=
        fun event member => unread event (List.mem_append_left _ member)
      have unreadAfter : ∀ event ∈ after, Unread client event := fun event member =>
        unread event (List.mem_append_right _ (List.mem_cons_of_mem _ member))
      have unreadHere := unread _ (List.mem_append_right _ List.mem_cons_self)
      subst isBefore isAfter
      have stale := (holding.exec unreadBefore).becomesStale unreadHere freshHere effect
      have staleLast := stale.exec unreadAfter freshAfter
      rw [Machine.exec_append] at succeeded
      exact staleLast.fails own result succeeded

/-- In every run of the clients in which no change of the account leaves a version that a
client still holds, no update is lost.
-/
theorem no_lost_update (tenantId accountId : String) (inputs : List (W × ClientAction))
    (fresh
      : (clientMachine tenantId accountId).Admits (VersionsFresh tenantId accountId)
          (Clients.start W) inputs)
    : NoLostUpdate ((clientMachine tenantId accountId).history (Clients.start W) inputs) := by
  intro past read between update later version result split own isRead unread succeeded
  -- The inputs are cut where the history is: before the read, up to the increment, after it
  obtain ⟨pastInputs, rest, rfl, _, here⟩ := Machine.history_split _ split
  cases rest with
  | nil => cases here
  | cons readInput rest =>
      obtain ⟨rfl, following⟩ := List.cons.inj here
      obtain ⟨betweenInputs, rest, rfl, rfl, there⟩ := Machine.history_split _ following
      cases rest with
      | nil => cases there
      | cons updateInput laterInputs =>
          obtain ⟨rfl, _⟩ := List.cons.inj there
          obtain ⟨freshPast, _, freshRest⟩ := (Machine.admits_append _ _ _ _).mp fresh
          obtain ⟨freshBetween, _⟩ := (Machine.admits_append _ _ _ _).mp freshRest
          have start : VersionsChecked tenantId accountId (Clients.start W) := by
            constructor
            · simp only [Clients.start, storedVersion, numberAt, Dict.get?_empty, Option.getD_none,
                NumberText.tonumber]
              exact LuaNumber.ofInt_nonneg (by decide)
            · intro client holds
              cases holds
          have checked :=
            Machine.exec_invariant _ (fun _ input checked _ => checked.step input) start freshPast
          have holding := checked.read isRead
          have unread'
              : ∀ event ∈ (clientMachine tenantId accountId).history _ betweenInputs,
                  Unread readInput.1 event :=
            fun event member reads => unread event member (reads.trans own)
          -- A change in between would have left a version other than the one that was held
          have quiet := quiet_of_increment holding freshBetween unread' own.symm succeeded
          refine ⟨quiet, store_kept ?_ quiet⟩
          rcases event_cases tenantId accountId
              ((clientMachine tenantId accountId).exec (Clients.start W) pastInputs) readInput
            with ⟨effect, _⟩ | ⟨_, kept⟩
          · rw [versionOf_none effect] at isRead
            cases isRead
          · exact kept

end Runs

section Sample

theorem versionsFresh_of_read {W : Type} {tenantId accountId : String} {s : Clients W} {worker : W}
    : VersionsFresh tenantId accountId s (worker, .getBalance) := by
  intro number left_
  cases left_

theorem versionsFresh_of_increment {W : Type} {tenantId accountId : String} {s : Clients W}
    {worker : W} {deltaScaled : NumberArg}
    (apart
      : ∀ client,
          ∀ version ∈ s.phase client,
            ¬ (newVersion s.shared (accountKeys tenantId accountId)).tostring.tonumber.Same
                (.ofInt version))
    : VersionsFresh tenantId accountId s (worker, .incrementBalance deltaScaled) := by
  intro number left_ client version holds
  cases left_ with
  | increment _ checked _ =>
      obtain ⟨_, _, valid⟩ := checkIncrement_ok checked
      obtain rfl := getKeys_ok valid
      exact apart client version holds

/-- Two clients read the same version; the second increment is refused until it reads again. -/
def takingTurns : List (Bool × ClientAction) :=
  [(true, .setBalance (.int 1000) defaultVersion), (true, .getBalance), (false, .getBalance),
    (true, .incrementBalance (.int (-100))), (false, .incrementBalance (.int (-50))),
    (false, .getBalance), (false, .incrementBalance (.int (-50)))]

theorem no_lost_update_sample
    : NoLostUpdate ((clientMachine "T1" "A1").history (Clients.start Bool) takingTurns) := by
  apply no_lost_update "T1" "A1" takingTurns
  refine ⟨?_, versionsFresh_of_read, versionsFresh_of_read, ?_, ?_, versionsFresh_of_read, ?_,
    trivial⟩
  · intro _ _ client version holds
    cases holds
  · apply versionsFresh_of_increment
    decide +kernel
  · apply versionsFresh_of_increment
    decide +kernel
  · apply versionsFresh_of_increment
    decide +kernel

/-- A client loads another balance under the default version, which another client holds. -/
def repeatedVersion : List (Bool × ClientAction) :=
  [(true, .setBalance (.int 1000) defaultVersion), (true, .getBalance),
    (false, .setBalance (.int 400) defaultVersion), (true, .incrementBalance (.int (-300)))]

/-- The client read 1000 and takes 300 from 400. -/
theorem repeated_version_loses_update
    : ¬ NoLostUpdate
        ((clientMachine "T1" "A1").history (Clients.start Bool) repeatedVersion) := by
  intro safe
  obtain ⟨quiet, _⟩ :=
    safe [_] _ [_] _ [] 1 (100, 2) rfl rfl (by decide +kernel)
      (by decide +kernel) (by decide +kernel)
  exact quiet _ List.mem_cons_self (by decide +kernel)

end Sample

end PettyFlow.Cache
