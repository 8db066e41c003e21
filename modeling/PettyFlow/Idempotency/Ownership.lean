import PettyFlow.Foundation.Pool
import PettyFlow.Idempotency.Store

/-! Workers that share a store: each reserves a key, and a worker that was given one later
completes or abandons it. The records do not say whose they are.
-/

namespace PettyFlow.Idempotency

open Foundation

/-- What a worker has to remember of a key that it was given. -/
structure Reservation where
  tenantId : String
  key : String
  requestFingerprint : String
deriving DecidableEq

def Reservation.recordKey (reservation : Reservation) : RecordKey :=
  (reservation.tenantId, reservation.key)

inductive HolderPhase where
  | idle
  | holding (reservation : Reservation)

/-- The key that a worker has been given and not settled yet. -/
def HolderPhase.key? : HolderPhase → Option RecordKey
  | idle => none
  | holding reservation => some reservation.recordKey

inductive HolderAction where
  | reserve (reservation : Reservation)
  | complete (resultJson : String)
  | abandon
  | advance (seconds : Nat)

inductive HolderAnswer where
  | reserved (result : Except StoreError (Option StoredIdempotencyResult))
  | completed (result : Except StoreError StoredIdempotencyResult)
  | done
  | notReady
deriving DecidableEq

/-- One call of the store by one worker, or a step of the clock. -/
def holderAct (s : TimedStore)
    : HolderPhase → HolderAction → HolderAnswer × TimedStore × HolderPhase
  | .idle, .reserve reservation =>
      match s.store.reserve s.now reservation.tenantId reservation.key
          reservation.requestFingerprint with
      | (.ok none, store) => (.reserved (.ok none), { s with store }, .holding reservation)
      | (result, store) => (.reserved result, { s with store }, .idle)
  | .holding reservation, .complete resultJson =>
      let (result, store) :=
        s.store.complete reservation.tenantId reservation.key reservation.requestFingerprint
          resultJson
      (.completed result, { s with store }, .idle)
  | .holding reservation, .abandon =>
      let store :=
        s.store.abandon reservation.tenantId reservation.key reservation.requestFingerprint
      (.done, { s with store }, .idle)
  | phase, .advance seconds => (.done, { s with now := s.now + seconds }, phase)
  | phase, _ => (.notReady, s, phase)

/-- A worker is given a free key. -/
theorem holderAct_given {s : TimedStore} {phase : HolderPhase} {reservation : Reservation}
    {store : SQLiteIdempotencyStore} (ready : phase = .idle)
    (call
      : s.store.reserve s.now reservation.tenantId reservation.key reservation.requestFingerprint
        = (.ok none, store))
    : holderAct s phase (.reserve reservation)
      = (.reserved (.ok none), { s with store }, .holding reservation) := by
  rw [ready, holderAct, call]

/-- A worker is told of a record, or refused. -/
theorem holderAct_told {s : TimedStore} {phase : HolderPhase} {reservation : Reservation}
    {result : Except StoreError (Option StoredIdempotencyResult)} {store : SQLiteIdempotencyStore}
    (ready : phase = .idle)
    (call
      : s.store.reserve s.now reservation.tenantId reservation.key reservation.requestFingerprint
        = (result, store))
    (told : result ≠ .ok none)
    : holderAct s phase (.reserve reservation) = (.reserved result, { s with store }, .idle) := by
  rw [ready, holderAct, call]
  split
  · rename_i given
    exact absurd (Prod.mk.inj given).1 told
  · rename_i other
    obtain ⟨rfl, rfl⟩ := Prod.mk.inj other
    rfl

/-- The workers of a type, any number of them. -/
abbrev Holders (W : Type) := Pool W TimedStore HolderPhase

abbrev HolderEvent (W : Type) := Event (Holders W) (W × HolderAction) HolderAnswer

def holdersMachine (W : Type) [DecidableEq W]
    : Machine (Holders W) (W × HolderAction) HolderAnswer :=
  Pool.machine holderAct

/-- Nobody has reserved a key yet. -/
def Holders.opened {W : Type} (s : TimedStore) : Holders W := ⟨s, fun _ => .idle⟩

/-- The record of a key in the store that the workers share. -/
def Holders.record? {W : Type} (s : Holders W) (key : RecordKey) : Option IdempotencyRecord :=
  s.shared.store.record? key

/-- The worker was given the key in one of the steps, and the key has had the record of that
step ever since.
-/
def ReservedSince {W : Type} (past : List (HolderEvent W)) (worker : W) (reservation : Reservation)
    (record : IdempotencyRecord)
    : Prop :=
  ∃ earlier event later,
    past = earlier ++ event :: later
    ∧ event.input = (worker, .reserve reservation)
    ∧ event.output = .reserved (.ok none)
    ∧ ∀ since ∈ event :: later, since.after.record? reservation.recordKey = some record

/-- No key is given to a second worker before the first has settled it; every worker that has
a key finds the record of its own reservation, in progress; and every completion succeeds.
-/
structure Owned {W : Type} (past : List (HolderEvent W)) (s : Holders W) : Prop where
  exclusive : Pool.Exclusive HolderPhase.key? s.phase
  own
    : ∀ worker reservation,
        s.phase worker = .holding reservation
        → ∃ record,
            ReservedSince past worker reservation record
            ∧ s.record? reservation.recordKey = some record
            ∧ record.requestFingerprint = reservation.requestFingerprint
            ∧ record.status = .inProgress
  completes : ∀ event ∈ past, ∀ error, event.output ≠ .completed (.error error)

/-- The keys are owned at every point of an interleaving. -/
def OwnedThroughout {W : Type} [DecidableEq W] (s : TimedStore) (inputs : List (W × HolderAction))
    : Prop :=
  ∀ done,
    done <+: inputs
    → Owned ((holdersMachine W).history (.opened s) done)
        ((holdersMachine W).exec (.opened s) done)

/-- A reservation that goes through finds no reservation of a worker older than the retention
time.
-/
def HeldYoung {W : Type} (s : Holders W) (input : W × HolderAction) : Prop :=
  match s.phase input.1, input.2 with
  | .idle, .reserve reservation =>
      ¬ s.shared.store.Refuses s.shared.now reservation.tenantId reservation.key
          reservation.requestFingerprint
      → ∀ worker held,
          (s.phase worker).key? = some held
          → ∀ record ∈ s.record? held,
              s.shared.now - s.shared.store.retentionSeconds ≤ record.createdAt
  | _, _ => True

section Steps

variable {W : Type} {past : List (HolderEvent W)} {worker : W} {reservation : Reservation}
  {record : IdempotencyRecord}

/-- A step that leaves the record alone does not end the time since the reservation. -/
theorem ReservedSince.snoc (since : ReservedSince past worker reservation record)
    {event : HolderEvent W}
    (unchanged : event.after.record? reservation.recordKey = some record)
    : ReservedSince (past ++ [event]) worker reservation record := by
  obtain ⟨earlier, own, later, rfl, input, output, same⟩ := since
  refine ⟨earlier, own, later ++ [event], by simp, input, output, fun other member => ?_⟩
  rw [← List.cons_append] at member
  rcases List.mem_append.mp member with before | last
  · exact same other before
  · rwa [List.mem_singleton.mp last]

theorem ReservedSince.last {event : HolderEvent W}
    (input : event.input = (worker, .reserve reservation))
    (output : event.output = .reserved (.ok none))
    (written : event.after.record? reservation.recordKey = some record)
    : ReservedSince (past ++ [event]) worker reservation record :=
  ⟨past, event, [], rfl, input, output, List.forall_mem_singleton.mpr written⟩

variable [DecidableEq W] {s : Holders W} {action : HolderAction} {output : HolderAnswer}
  {shared : TimedStore} {next : HolderPhase}

/-- A step keeps the ownership when it leaves the records of all other workers alone, and the
worker that takes it has what it had before, or the record that it has just reserved.
-/
theorem Owned.extend (owned : Owned past s)
    (others
      : ∀ other held,
          other ≠ worker
          → (s.phase other).key? = some held
          → shared.store.record? held = s.record? held)
    (mine
      : ∀ reservation,
          next = .holding reservation
          → (s.phase worker = .holding reservation
              ∧ shared.store.record? reservation.recordKey = s.record? reservation.recordKey)
            ∨ (action = .reserve reservation
              ∧ output = .reserved (.ok none)
              ∧ (∀ other, (s.phase other).key? ≠ some reservation.recordKey)
              ∧ ∃ createdAt,
                  shared.store.record? reservation.recordKey
                  = some ⟨reservation.requestFingerprint, "", .inProgress, createdAt⟩))
    (completes : ∀ error, output ≠ .completed (.error error))
    : Owned
        (past
          ++ [⟨s, (worker, action), output, ⟨shared, Function.update s.phase worker next⟩⟩])
        ⟨shared, Function.update s.phase worker next⟩ where
  exclusive := by
    apply owned.exclusive.update
    intro held has
    cases next with
    | idle => cases has
    | holding reservation =>
        obtain rfl := Option.some.inj has
        rcases mine reservation rfl with ⟨before, _⟩ | ⟨_, _, nobody, _⟩
        · exact Or.inl (by rw [before]; rfl)
        · -- A key that is taken anew was held by nobody
          exact Or.inr nobody
  own := by
    intro other reservation holds
    dsimp only at holds
    by_cases isWorker : other = worker
    · subst isWorker
      rw [Function.update_self] at holds
      rcases mine reservation holds with ⟨before, same⟩ | ⟨reserves, given, _, createdAt, written⟩
      · obtain ⟨record, since, found, ours⟩ := owned.own other reservation before
        exact ⟨record, since.snoc (same.trans found), same.trans found, ours⟩
      · subst reserves
        exact ⟨_, .last rfl given written, written, rfl, rfl⟩
    · rw [Function.update_of_ne isWorker] at holds
      obtain ⟨record, since, found, ours⟩ := owned.own other reservation holds
      -- The step has left the records of all other holders alone
      have same := others other reservation.recordKey isWorker (by rw [holds]; rfl)
      exact ⟨record, since.snoc (same.trans found), same.trans found, ours⟩
  completes := by
    intro event member
    rcases List.mem_append.mp member with before | last
    · exact owned.completes event before
    · rw [List.mem_singleton.mp last]
      exact completes

/-- A step that changes no record, and after which the worker has what it had or nothing. -/
theorem Owned.extend_same (owned : Owned past s) (same : shared.store = s.shared.store)
    (mine : next = .idle ∨ next = s.phase worker)
    (completes : ∀ error, output ≠ .completed (.error error))
    : Owned
        (past
          ++ [⟨s, (worker, action), output, ⟨shared, Function.update s.phase worker next⟩⟩])
        ⟨shared, Function.update s.phase worker next⟩ := by
  have records (held : RecordKey) : shared.store.record? held = s.record? held := by
    rw [same]
    rfl
  refine owned.extend (fun _ held _ _ => records held) (fun reservation holds => ?_) completes
  rcases mine with rfl | rfl
  · cases holds
  · exact Or.inl ⟨holds, records _⟩

omit [DecidableEq W] in
/-- A purge that finds the reservations of all workers young takes none of their records. -/
theorem Owned.record?_purge (owned : Owned past s)
    (young
      : ∀ worker held,
          (s.phase worker).key? = some held
          → ∀ record ∈ s.record? held,
              s.shared.now - s.shared.store.retentionSeconds ≤ record.createdAt)
    {other : W} {held : RecordKey} (holds : (s.phase other).key? = some held)
    : (s.shared.store.purge s.shared.now).record? held = s.record? held
      ∧ ∃ record, s.record? held = some record := by
  cases phase : s.phase other with
  | idle =>
      rw [phase] at holds
      cases holds
  | holding reservation =>
      have same := holds
      rw [phase] at same
      obtain rfl := Option.some.inj same
      obtain ⟨record, _, found, _⟩ := owned.own other reservation phase
      have kept := young other _ holds record found
      refine ⟨?_, record, found⟩
      unfold Holders.record? at found ⊢
      rw [SQLiteIdempotencyStore.record?_purge_eq, found]
      simp [Option.filter_some, Int.not_lt.mpr kept]

/-- A reservation keeps the ownership when no worker's reservation is too old for its purge. -/
theorem Owned.step_reserve (owned : Owned past s) (ready : s.phase worker = .idle)
    (young : HeldYoung s (worker, .reserve reservation))
    : Owned (past ++ [(holdersMachine W).event s (worker, .reserve reservation)])
        ((holdersMachine W).event s (worker, .reserve reservation)).after := by
  simp only [HeldYoung, ready] at young
  cases lookup : (s.shared.store.purge s.shared.now).record? reservation.recordKey with
  | none =>
      have heldSpared := young (SQLiteIdempotencyStore.not_refuses_of_free lookup)
      -- A holder of the key would have its record still, and the lookup would have found it
      have nobody (other : W) : (s.phase other).key? ≠ some reservation.recordKey := by
        intro holds
        obtain ⟨same, record, found⟩ := owned.record?_purge heldSpared holds
        cases lookup.symm.trans (same.trans found)
      rw [holdersMachine,
        Pool.event_eq (holderAct_given ready (SQLiteIdempotencyStore.reserve_free lookup))]
      apply owned.extend
      · intro other held _ holds
        refine (Dict.get?_set_ne _ _ ?_).trans (owned.record?_purge heldSpared holds).1
        rintro rfl
        exact nobody other holds
      · rintro _ ⟨rfl⟩
        exact Or.inr ⟨rfl, rfl, nobody, s.shared.now, Dict.get?_set_self _ _ _⟩
      · exact nofun
  | some record =>
      by_cases same : record.requestFingerprint = reservation.requestFingerprint
      · have heldSpared := young (SQLiteIdempotencyStore.not_refuses_of_same lookup same)
        rw [holdersMachine,
          Pool.event_eq
            (holderAct_told ready (SQLiteIdempotencyStore.reserve_found lookup same) nofun)]
        apply owned.extend
        · intro other held _ holds
          exact (owned.record?_purge heldSpared holds).1
        · exact nofun
        · exact nofun
      · -- A conflict rolls the purge back
        rw [holdersMachine,
          Pool.event_eq
            (holderAct_told ready
              (SQLiteIdempotencyStore.reserve_refused ⟨record, lookup, same⟩) nofun)]
        exact owned.extend_same rfl (Or.inl rfl) nofun

omit [DecidableEq W] in
/-- The record of a worker's reservation is in the store, in progress. -/
theorem Owned.reserved (owned : Owned past s) (holds : s.phase worker = .holding reservation)
    : s.shared.store.Reserved (reservation.tenantId, reservation.key)
        reservation.requestFingerprint := by
  obtain ⟨record, _, found, same, status⟩ := owned.own worker reservation holds
  exact ⟨record, found, same, status⟩

omit [DecidableEq W] in
/-- The other workers have other keys. -/
theorem Owned.key_ne (owned : Owned past s) (holds : s.phase worker = .holding reservation)
    {other : W} {held : RecordKey} (different : other ≠ worker)
    (otherHolds : (s.phase other).key? = some held)
    : reservation.recordKey ≠ held := by
  rintro rfl
  exact different (owned.exclusive other worker _ otherHolds (by rw [holds]; rfl))

/-- The worker completes its own record, and succeeds. -/
theorem Owned.step_complete (owned : Owned past s)
    (holds : s.phase worker = .holding reservation) (resultJson : String)
    : Owned (past ++ [(holdersMachine W).event s (worker, .complete resultJson)])
        ((holdersMachine W).event s (worker, .complete resultJson)).after := by
  have completed :=
    SQLiteIdempotencyStore.complete_reserved (owned.reserved holds) resultJson
  cases call : s.shared.store.complete reservation.tenantId reservation.key
      reservation.requestFingerprint resultJson with
  | mk answer store =>
  rw [call] at completed
  obtain ⟨rfl, record, _, _, records⟩ := completed
  have acts
      : holderAct s.shared (s.phase worker) (.complete resultJson)
        = (.completed (.ok ⟨reservation.tenantId, reservation.key,
            reservation.requestFingerprint, resultJson, .completed⟩),
          { s.shared with store },
          .idle) := by
    rw [holds, holderAct, call]
  rw [holdersMachine, Pool.event_eq acts]
  apply owned.extend
  · intro other held different otherHolds
    exact (records held).trans (if_neg (owned.key_ne holds different otherHolds))
  · exact nofun
  · exact nofun

/-- The worker frees its own record. -/
theorem Owned.step_abandon (owned : Owned past s)
    (holds : s.phase worker = .holding reservation)
    : Owned (past ++ [(holdersMachine W).event s (worker, .abandon)])
        ((holdersMachine W).event s (worker, .abandon)).after := by
  have records := SQLiteIdempotencyStore.abandon_reserved (owned.reserved holds)
  rw [holdersMachine, Pool.event_eq (by rw [holds, holderAct])]
  apply owned.extend
  · intro other held different otherHolds
    exact (records held).trans (if_neg (owned.key_ne holds different otherHolds))
  · exact nofun
  · exact nofun

/-- A step that finds the reservations young keeps the ownership, by cases on where the worker
is and what it does.
-/
theorem Owned.step (owned : Owned past s) {input : W × HolderAction} (young : HeldYoung s input)
    : Owned (past ++ [(holdersMachine W).event s input])
        ((holdersMachine W).event s input).after := by
  obtain ⟨worker, action⟩ := input
  have unchanged (output : HolderAnswer) {now : Int}
      (acts
        : holderAct s.shared (s.phase worker) action
          = (output, { s.shared with now }, s.phase worker))
      (completes : ∀ error, output ≠ .completed (.error error))
      : Owned (past ++ [(holdersMachine W).event s (worker, action)])
          ((holdersMachine W).event s (worker, action)).after := by
    rw [holdersMachine, Pool.event_eq acts]
    exact owned.extend_same rfl (Or.inr rfl) completes
  cases phase : s.phase worker with
  | idle =>
      cases action with
      | reserve reservation => exact owned.step_reserve phase young
      | complete resultJson => exact unchanged .notReady (by rw [phase]; rfl) nofun
      | abandon => exact unchanged .notReady (by rw [phase]; rfl) nofun
      | advance seconds => exact unchanged .done (by rw [phase]; rfl) nofun
  | holding reservation =>
      cases action with
      | reserve other => exact unchanged .notReady (by rw [phase]; rfl) nofun
      | complete resultJson => exact owned.step_complete phase resultJson
      | abandon => exact owned.step_abandon phase
      | advance seconds => exact unchanged .done (by rw [phase]; rfl) nofun

omit [DecidableEq W] in
/-- A record that is there since a reservation is the one that the last step has left. -/
theorem ReservedSince.getLast (since : ReservedSince past worker reservation record)
    : ∃ event,
        past.getLast? = some event
        ∧ event.after.record? reservation.recordKey = some record := by
  obtain ⟨earlier, own, later, rfl, _, _, same⟩ := since
  rw [List.getLast?_append_of_ne_nil _ (List.cons_ne_nil own later)]
  exact ⟨_, List.getLast?_eq_some_getLast (List.cons_ne_nil own later), same _ (List.getLast_mem _)⟩

omit [DecidableEq W] in
/-- What another worker does last is not the reservation. -/
theorem ReservedSince.of_snoc {event : HolderEvent W}
    (since : ReservedSince (past ++ [event]) worker reservation record)
    (other : event.input.1 ≠ worker)
    : ReservedSince past worker reservation record := by
  obtain ⟨earlier, own, later, split, input, output, same⟩ := since
  rcases List.eq_nil_or_concat later with rfl | ⟨before, last, rfl⟩
  · obtain ⟨_, rfl⟩ := List.append_inj' split rfl |>.imp_right List.cons.inj |>.imp_right And.left
    exact absurd (congrArg Prod.fst input) other
  · rw [List.concat_eq_append, ← List.cons_append, ← List.append_assoc] at split
    obtain ⟨rfl, _⟩ := List.append_inj' split rfl
    refine ⟨earlier, own, before, rfl, input, output, fun since member => same since ?_⟩
    rw [List.concat_eq_append, ← List.cons_append]
    exact List.mem_append_left _ member

/-- A reservation after which every worker still has its own record was one that found the
reservations young: its purge would have taken an old one, and a new record of the same key
would be younger than the one that its holder has reserved.
-/
theorem Owned.heldYoung (owned : Owned past s) {input : W × HolderAction}
    (after
      : Owned (past ++ [(holdersMachine W).event s input])
          ((holdersMachine W).event s input).after)
    : HeldYoung s input := by
  obtain ⟨worker, action⟩ := input
  unfold HeldYoung
  split
  · rename_i reservation ready reserves
    obtain rfl : action = .reserve reservation := reserves
    have ready : s.phase worker = .idle := ready
    intro goesThrough holder held holds record found
    by_contra old
    cases phase : s.phase holder with
    | idle =>
        rw [phase] at holds
        cases holds
    | holding own =>
    rw [phase] at holds
    obtain rfl := Option.some.inj holds
    have different : worker ≠ holder := by
      rintro rfl
      cases ready.symm.trans phase
    -- An old record of the holder would be purged by this very call
    have purged : (s.shared.store.purge s.shared.now).record? own.recordKey = none := by
      unfold Holders.record? at found
      rw [SQLiteIdempotencyStore.record?_purge_eq, Option.mem_def.mp found]
      simpa [Option.filter_some] using old
    cases lookup : (s.shared.store.purge s.shared.now).record? reservation.recordKey with
    | none =>
        rw [holdersMachine,
          Pool.event_eq (holderAct_given ready (SQLiteIdempotencyStore.reserve_free lookup))]
          at after
        obtain ⟨kept, since, there, _⟩ :=
          after.own holder own ((Function.update_of_ne different.symm _ _).trans phase)
        have replaced := (Dict.get?_set _ _ _ _).symm.trans there
        split at replaced
        · -- The key was given to the worker, and the new record is younger than the holder's
          obtain rfl := Option.some.inj replaced
          obtain ⟨event, last, written⟩ := (since.of_snoc different).getLast
          obtain ⟨before, sinceBefore, foundBefore, _⟩ := owned.own holder own phase
          obtain ⟨same, lastBefore, writtenBefore⟩ := sinceBefore.getLast
          obtain rfl := Option.some.inj (last.symm.trans lastBefore)
          obtain rfl := Option.some.inj (written.symm.trans writtenBefore)
          obtain rfl := Option.some.inj (foundBefore.symm.trans found)
          have := s.shared.store.retentionPositive
          dsimp only at old
          omega
        · cases purged.symm.trans replaced
    | some other =>
        by_cases same : other.requestFingerprint = reservation.requestFingerprint
        · -- The worker is told of another record, and the purge stands
          rw [holdersMachine,
            Pool.event_eq
              (holderAct_told ready (SQLiteIdempotencyStore.reserve_found lookup same)
                (fun free => Option.some_ne_none _ (Except.ok.inj free)))]
            at after
          obtain ⟨kept, _, there, _⟩ :=
            after.own holder own ((Function.update_of_ne different.symm _ _).trans phase)
          cases purged.symm.trans there
        · exact absurd ⟨other, lookup, same⟩ goesThrough
  · trivial

end Steps

/-- Keys are owned throughout in exactly those interleavings in which no reservation goes
through while some worker's reservation is older than the retention time.
-/
theorem ownedThroughout_iff {W : Type} [DecidableEq W] (s : TimedStore)
    (inputs : List (W × HolderAction))
    : OwnedThroughout s inputs ↔ (holdersMachine W).Admits HeldYoung (.opened s) inputs := by
  have opened : Owned [] (Holders.opened s : Holders W) :=
    ⟨nofun, nofun, List.forall_mem_nil _⟩
  apply (holdersMachine W).throughout_iff Owned Owned
  · exact fun _ _ owned => owned
  · exact fun _ _ _ owned young => owned.step young
  · exact fun _ _ _ owned after => owned.heldYoung after
  · exact opened

section Sample

theorem sampleWeekPositive : (0 : Int) < 604800 := by decide

/-- A payment that takes more than a week, and a second one with the same key. -/
def slowPayment : List (Nat × HolderAction) :=
  [
    (0, .reserve ⟨"TENANT-ORG", "key-1", "3c"⟩),
    (0, .advance 604801),
    (1, .reserve ⟨"TENANT-ORG", "key-1", "3c"⟩)
  ]

/-- The second worker is given the key that the first one has. -/
theorem slow_payment_shares_key
    : let s : TimedStore := ⟨⟨604800, .empty, .empty, sampleWeekPositive⟩, 0⟩
      ((holdersMachine Nat).history (.opened s) slowPayment).map Event.output
        = [.reserved (.ok none), .done, .reserved (.ok none)]
      ∧ ¬ OwnedThroughout s slowPayment := by
  intro s
  refine ⟨by decide +kernel, fun owned => ?_⟩
  have exclusive := (owned slowPayment List.prefix_rfl).exclusive
  have first
      : (((holdersMachine Nat).exec (.opened s) slowPayment).phase 0).key?
        = some ("TENANT-ORG", "key-1") := by
    decide +kernel
  have second
      : (((holdersMachine Nat).exec (.opened s) slowPayment).phase 1).key?
        = some ("TENANT-ORG", "key-1") := by
    decide +kernel
  cases exclusive 0 1 _ first second

end Sample

end PettyFlow.Idempotency
