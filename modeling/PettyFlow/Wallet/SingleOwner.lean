import PettyFlow.Wallet.Workers

/-! However the steps of many calls interleave, a key has one owner at a time, at most one
payment is made for it, and every call that returns a result returns the same one.
-/

namespace PettyFlow.Wallet

open Foundation Idempotency

abbrev WorkerEvent (W : Type) := Event (Workers W) (W × WorkerAction) WorkerAnswer

namespace WorkerEvent

variable {W : Type}

/-- The step reserves the key for its worker. -/
def reserves (key : RecordKey) (event : WorkerEvent W) : Bool :=
  match event.input.2, event.output with
  | .reserve request _, .underway => request.recordKey = key
  | _, _ => false

/-- The step completes or abandons its worker's reservation of the key. -/
def settles (key : RecordKey) (event : WorkerEvent W) : Bool :=
  match event.input.2, event.output with
  | .settle, .finished request _ => request.recordKey = key
  | _, _ => false

/-- How many cards and disbursements the step creates under the key. -/
def created (key : RecordKey) (event : WorkerEvent W) : Nat :=
  Backends.created event.before.shared event.after.shared key

/-- The step ends a call for the key with a result. -/
def Returns (key : RecordKey) (result : FloatDisbursementResult) (event : WorkerEvent W) : Prop :=
  ∃ request, request.recordKey = key ∧ event.output = .finished request (.ok result)

end WorkerEvent

/-- The worker has a key and has not paid for it. -/
def WorkerPhase.Unpaid : WorkerPhase → Prop
  | .reserved _ | .refused _ _ => True
  | .idle | .paid _ _ _ _ => False

/-- How many cards and disbursements a history has created under a key. -/
def payments {W : Type} (key : RecordKey) (past : List (WorkerEvent W)) : Nat :=
  (past.map (WorkerEvent.created key)).sum

theorem payments_append {W : Type} (key : RecordKey) (past : List (WorkerEvent W))
    (event : WorkerEvent W)
    : payments key (past ++ [event]) = payments key past + event.created key := by
  simp [payments]

/-- The record of a key holds the result that its calls return. -/
def Settled (s : SQLiteIdempotencyStore) (key : RecordKey) (result : FloatDisbursementResult)
    : Prop :=
  ∃ record,
    s.record? key = some record
    ∧ record.status ≠ .inProgress
    ∧ resultOfText record.resultJson = some result

theorem Settled.congr {s after : SQLiteIdempotencyStore} {key : RecordKey}
    {result : FloatDisbursementResult} (settled : Settled s key result)
    (same : after.record? key = s.record? key)
    : Settled after key result := by
  obtain ⟨record, found, terminal, described⟩ := settled
  exact ⟨record, same.trans found, terminal, described⟩

theorem reserved_congr {s after : SQLiteIdempotencyStore} {key : RecordKey}
    {requestFingerprint : String} (reserved : s.Reserved key requestFingerprint)
    (same : after.record? key = s.record? key)
    : after.Reserved key requestFingerprint := by
  obtain ⟨record, found, own, progress⟩ := reserved
  exact ⟨record, same.trans found, own, progress⟩

/-- A returned result of a longer history was returned before, or by the last step. -/
theorem returned_append {W : Type} {key : RecordKey} {result : FloatDisbursementResult}
    {past : List (WorkerEvent W)} {last : WorkerEvent W}
    (returned : ∃ event ∈ past ++ [last], event.Returns key result)
    : (∃ event ∈ past, event.Returns key result) ∨ last.Returns key result := by
  obtain ⟨event, member, returns⟩ := returned
  rcases List.mem_append.mp member with earlier | final
  · exact Or.inl ⟨event, earlier, returns⟩
  · obtain rfl := List.mem_singleton.mp final
    exact Or.inr returns

/-- What every interleaving keeps, of the history and the state that it has led to. -/
structure SingleOwner {W : Type} (digests : Digests) (past : List (WorkerEvent W))
    (s : Workers W) : Prop where
  /-- No two workers have the same key. -/
  exclusive : Pool.Exclusive WorkerPhase.key? s.phase
  /-- A worker's key has a record in progress for the worker's request. -/
  reserved
    : ∀ worker request,
        (s.phase worker).request? = some request
        → s.shared.store.Reserved request.recordKey (request.fingerprint digests)
  /-- For a key without a record all reservations are settled, and nothing was paid. -/
  free
    : ∀ key,
        s.shared.store.record? key = none
        → payments key past = 0
          ∧ past.countP (WorkerEvent.reserves key) ≤ past.countP (WorkerEvent.settles key)
  unpaid
    : ∀ worker key,
        (s.phase worker).key? = some key → (s.phase worker).Unpaid → payments key past = 0
  once : ∀ key, payments key past ≤ 1
  turns
    : ∀ key,
        past.countP (WorkerEvent.reserves key) ≤ past.countP (WorkerEvent.settles key) + 1
  answered
    : ∀ key result,
        (∃ event ∈ past, event.Returns key result) → Settled s.shared.store key result

/-- At the start nobody has a key and nothing has happened. -/
theorem SingleOwner.opened {W : Type} (digests : Digests) (backends : Backends)
    : SingleOwner digests [] (Workers.opened backends : Workers W) where
  exclusive _ _ _ held := nomatch held
  reserved _ _ held := nomatch held
  free _ _ := ⟨rfl, le_refl _⟩
  unpaid _ _ held := nomatch held
  once _ := Nat.zero_le _
  turns _ := Nat.zero_le _
  answered _ _ returned := by
    obtain ⟨event, member, _⟩ := returned
    cases member

namespace SingleOwner

variable {W : Type} [DecidableEq W] {digests : Digests}

section Step

variable {past : List (WorkerEvent W)} {s : Workers W} {worker : W} {action : WorkerAction}
  {output : WorkerAnswer} {after : Backends} {next : WorkerPhase}

/-- A step that leaves the records as they are, reserves no key, and creates a payment only
for a worker that had not paid.
-/
theorem step_kept (owned : SingleOwner digests past s)
    (records : after.store.record? = s.shared.store.record?)
    (holder : next.request? = none ∨ next.request? = (s.phase worker).request?)
    (payment
      : (∀ key, Backends.created s.shared after key = 0) ∧ (next.Unpaid → (s.phase worker).Unpaid)
        ∨ ∃ request,
            (s.phase worker).request? = some request
            ∧ (s.phase worker).Unpaid
            ∧ ¬ next.Unpaid
            ∧ Backends.created s.shared after request.recordKey ≤ 1
            ∧ ∀ key, request.recordKey ≠ key → Backends.created s.shared after key = 0)
    (noReservation : ∀ request now, action = .reserve request now → output ≠ .underway)
    (answer
      : ∀ request result,
          output = .finished request (.ok result)
          → Settled s.shared.store request.recordKey result)
    : SingleOwner digests
        (past ++ [⟨s, (worker, action), output, ⟨after, Function.update s.phase worker next⟩⟩])
        ⟨after, Function.update s.phase worker next⟩ := by
  have created (key : RecordKey) (free : s.shared.store.record? key = none)
      : Backends.created s.shared after key = 0 := by
    rcases payment with ⟨nothing, _⟩ | ⟨request, held, _, _, _, elsewhere⟩
    · exact nothing key
    · apply elsewhere
      rintro rfl
      obtain ⟨record, found, _⟩ := owned.reserved worker request held
      rw [free] at found
      cases found
  have unreserved
      : ∀ key,
          WorkerEvent.reserves key
            ⟨s, (worker, action), output, ⟨after, Function.update s.phase worker next⟩⟩
          = false := by
    intro key
    unfold WorkerEvent.reserves
    split
    · rename_i request now reserve underway
      exact absurd underway (noReservation request now reserve)
    · rfl
  have kept (request : FloatDisbursementRequest) (held : next.request? = some request)
      : (s.phase worker).request? = some request := by
    rcases holder with none | same
    · rw [none] at held
      cases held
    · exact same.symm.trans held
  refine ⟨?exclusive, ?reserved, ?free, ?unpaid, ?once, ?turns, ?answered⟩
  case exclusive =>
    apply owned.exclusive.update
    intro key held
    obtain ⟨request, requested, rfl⟩ := WorkerPhase.key?_eq_some.mp held
    exact Or.inl (WorkerPhase.key?_eq_some.mpr ⟨request, kept request requested, rfl⟩)
  case reserved =>
    intro other request held
    have before : (s.phase other).request? = some request := by
      rcases Pool.held_update held with ⟨rfl, own⟩ | ⟨_, before⟩
      · exact kept request own
      · exact before
    exact reserved_congr (owned.reserved other request before) (congrFun records _)
  case free =>
    intro key free
    rw [records] at free
    obtain ⟨unpaid, turns⟩ := owned.free key free
    rw [payments_append, unpaid, List.countP_append, List.countP_append, List.countP_singleton,
      unreserved key]
    exact ⟨by simpa [WorkerEvent.created] using created key free, by simp; omega⟩
  case unpaid =>
    intro other key held unpaid
    rw [payments_append]
    by_cases own : other = worker
    · subst own
      simp only [Function.update_self] at held unpaid
      obtain ⟨request, requested, rfl⟩ := WorkerPhase.key?_eq_some.mp held
      have before := WorkerPhase.key?_eq_some.mpr ⟨request, kept request requested, rfl⟩
      rcases payment with ⟨nothing, still⟩ | ⟨_, _, _, paid, _⟩
      · rw [owned.unpaid other _ before (still unpaid), Nat.zero_add]
        exact nothing _
      · exact absurd unpaid paid
    · simp only [Function.update_of_ne own] at held unpaid
      rw [owned.unpaid other key held unpaid, Nat.zero_add]
      rcases payment with ⟨nothing, _⟩ | ⟨request, requested, _, _, _, elsewhere⟩
      · exact nothing key
      · apply elsewhere
        rintro rfl
        -- The paying worker is the only one that has its key
        have before := WorkerPhase.key?_eq_some.mpr ⟨request, requested, rfl⟩
        exact own (owned.exclusive other worker _ held before)
  case once =>
    intro key
    rw [payments_append]
    rcases payment with ⟨nothing, _⟩ | ⟨request, requested, unpaid, _, atMostOne, elsewhere⟩
    · have once := owned.once key
      have same := nothing key
      simp only [WorkerEvent.created]
      omega
    · by_cases own : request.recordKey = key
      · subst own
        rw [owned.unpaid worker _ (WorkerPhase.key?_eq_some.mpr ⟨request, requested, rfl⟩) unpaid,
          Nat.zero_add]
        exact atMostOne
      · have once := owned.once key
        have same := elsewhere key own
        simp only [WorkerEvent.created]
        omega
  case turns =>
    intro key
    have turns := owned.turns key
    rw [List.countP_append, List.countP_append, List.countP_singleton, unreserved key]
    simp
    omega
  case answered =>
    intro key result returned
    rcases returned_append returned with earlier | ⟨request, rfl, last⟩
    · exact (owned.answered key result earlier).congr (congrFun records key)
    · exact (answer request result last).congr (congrFun records _)

/-- A worker that is not in a call reserves a key that has no record. -/
theorem step_reserves (owned : SingleOwner digests past s) {request : FloatDisbursementRequest}
    {now : Int} {store : SQLiteIdempotencyStore} (ready : (s.phase worker).request? = none)
    (free : s.shared.store.record? request.recordKey = none)
    (records
      : ∀ other,
          store.record? other
          = if request.recordKey = other then
              some ⟨request.fingerprint digests, "", .inProgress, now⟩
            else
              s.shared.store.record? other)
    : let next : Workers W :=
        ⟨{ s.shared with store }, Function.update s.phase worker (.reserved request)⟩
      SingleOwner digests (past ++ [⟨s, (worker, .reserve request now), .underway, next⟩]) next := by
  have elsewhere
      : ∀ {key},
          request.recordKey ≠ key → store.record? key = s.shared.store.record? key := by
    intro key different
    rw [records, if_neg different]
  -- A worker with the key would have a record under it, and there is none
  have nobody : ∀ other, (s.phase other).key? ≠ some request.recordKey := by
    intro other held
    obtain ⟨earlier, requested, same⟩ := WorkerPhase.key?_eq_some.mp held
    obtain ⟨record, found, _⟩ := owned.reserved other earlier requested
    rw [same, free] at found
    cases found
  refine ⟨?exclusive, ?reserved, ?free, ?unpaid, ?once, ?turns, ?answered⟩
  case exclusive =>
    apply owned.exclusive.update
    intro key held
    obtain rfl : request.recordKey = key := Option.some.inj held
    exact Or.inr nobody
  case reserved =>
    intro other earlier held
    rcases Pool.held_update held with ⟨rfl, own⟩ | ⟨_, before⟩
    · obtain rfl : request = earlier := Option.some.inj own
      refine ⟨⟨request.fingerprint digests, "", .inProgress, now⟩, ?_, rfl, rfl⟩
      exact (records _).trans (if_pos rfl)
    · apply reserved_congr (owned.reserved other earlier before)
      apply elsewhere
      intro same
      exact nobody other (WorkerPhase.key?_eq_some.mpr ⟨earlier, before, same.symm⟩)
  case free =>
    intro key unrecorded
    have different : request.recordKey ≠ key := by
      rintro rfl
      rw [records, if_pos rfl] at unrecorded
      cases unrecorded
    rw [elsewhere different] at unrecorded
    obtain ⟨unpaid, turns⟩ := owned.free key unrecorded
    rw [payments_append]
    simpa [WorkerEvent.created, WorkerEvent.reserves, WorkerEvent.settles, different] using
      ⟨unpaid, turns⟩
  case unpaid =>
    intro other key held unpaid
    -- The new holder takes a key that was free, and free keys are unpaid
    have before : payments key past = 0 := by
      by_cases own : other = worker
      · subst own
        simp only [Function.update_self] at held
        obtain rfl : request.recordKey = key := Option.some.inj held
        exact (owned.free _ free).1
      · simp only [Function.update_of_ne own] at held unpaid
        exact owned.unpaid other key held unpaid
    simpa [payments_append, WorkerEvent.created] using before
  case once =>
    intro key
    simpa [payments_append, WorkerEvent.created] using owned.once key
  case turns =>
    intro key
    by_cases own : request.recordKey = key
    · subst own
      have turns := (owned.free _ free).2
      simp [WorkerEvent.reserves, WorkerEvent.settles]
      omega
    · simpa [WorkerEvent.reserves, WorkerEvent.settles, own] using owned.turns key
  case answered =>
    intro key result returned
    rcases returned_append returned with earlier | ⟨_, _, last⟩
    · have settled := owned.answered key result earlier
      apply settled.congr
      apply elsewhere
      rintro rfl
      obtain ⟨record, found, _⟩ := settled
      rw [free] at found
      cases found
    · cases last

/-- The owner of a key completes or abandons it. An abandoned key has not been paid for, and
a completed one has a record that holds the result that is returned.
-/
theorem step_settles (owned : SingleOwner digests past s) {request : FloatDisbursementRequest}
    {outcome : Except ManagerError FloatDisbursementResult} {store : SQLiteIdempotencyStore}
    {filed : Option IdempotencyRecord} (held : (s.phase worker).request? = some request)
    (records
      : ∀ other,
          store.record? other
          = if request.recordKey = other then filed else s.shared.store.record? other)
    (abandoned : filed = none → (s.phase worker).Unpaid)
    (answer : ∀ result, outcome = .ok result → Settled store request.recordKey result)
    : let next : Workers W := ⟨{ s.shared with store }, Function.update s.phase worker .idle⟩
      SingleOwner digests (past ++ [⟨s, (worker, .settle), .finished request outcome, next⟩])
        next := by
  have own : (s.phase worker).key? = some request.recordKey :=
    WorkerPhase.key?_eq_some.mpr ⟨request, held, rfl⟩
  have elsewhere
      : ∀ {key},
          request.recordKey ≠ key → store.record? key = s.shared.store.record? key := by
    intro key different
    rw [records, if_neg different]
  refine ⟨?exclusive, ?reserved, ?free, ?unpaid, ?once, ?turns, ?answered⟩
  case exclusive =>
    apply owned.exclusive.update
    intro key idle
    cases idle
  case reserved =>
    intro other earlier held
    rcases Pool.held_update held with ⟨_, idle⟩ | ⟨different, before⟩
    · cases idle
    · apply reserved_congr (owned.reserved other earlier before)
      apply elsewhere
      intro same
      -- A second owner of the key would be the worker itself
      have second := WorkerPhase.key?_eq_some.mpr ⟨earlier, before, same.symm⟩
      exact different (owned.exclusive other worker _ second own)
  case free =>
    intro key unrecorded
    by_cases same : request.recordKey = key
    · subst same
      rw [records, if_pos rfl] at unrecorded
      have turns := owned.turns request.recordKey
      constructor
      · simpa [payments_append, WorkerEvent.created] using
          owned.unpaid worker _ own (abandoned unrecorded)
      · simp [WorkerEvent.reserves, WorkerEvent.settles]
        omega
    · rw [elsewhere same] at unrecorded
      simpa [payments_append, WorkerEvent.created, WorkerEvent.reserves, WorkerEvent.settles, same]
        using owned.free key unrecorded
  case unpaid =>
    intro other key held unpaid
    have before : payments key past = 0 := by
      rcases Pool.held_update held with ⟨_, idle⟩ | ⟨different, before⟩
      · cases idle
      · simp only [Function.update_of_ne different] at unpaid
        exact owned.unpaid other key before unpaid
    simpa [payments_append, WorkerEvent.created] using before
  case once =>
    intro key
    simpa [payments_append, WorkerEvent.created] using owned.once key
  case turns =>
    intro key
    have turns := owned.turns key
    rw [List.countP_append, List.countP_append]
    simp [WorkerEvent.reserves]
    omega
  case answered =>
    intro key result returned
    rcases returned_append returned with earlier | ⟨settled, rfl, last⟩
    · have before := owned.answered key result earlier
      apply before.congr
      apply elsewhere
      rintro rfl
      -- The owner's record is still in progress, so that no call has returned yet
      obtain ⟨record, found, terminal, _⟩ := before
      obtain ⟨same, progress, _, status⟩ := owned.reserved worker request held
      obtain rfl := Option.some.inj (progress.symm.trans found)
      exact terminal status
    · obtain ⟨same, ok⟩ := WorkerAnswer.finished.inj last
      rw [← same]
      exact answer result ok

end Step

/-- A step that has no place in the worker's call changes nothing. -/
theorem step_notReady {past : List (WorkerEvent W)} {s : Workers W} {worker : W}
    {action : WorkerAction} (owned : SingleOwner digests past s)
    (idle
      : workerAct digests s.shared (s.phase worker) action
        = (.notReady, s.shared, s.phase worker))
    : SingleOwner digests (past ++ [(workersMachine digests W).event s (worker, action)])
        ((workersMachine digests W).event s (worker, action)).after := by
  rw [workersMachine, Pool.event_eq idle]
  apply step_kept owned
  · rfl
  · exact Or.inr rfl
  · exact Or.inl ⟨fun key => Backends.created_self _ key, id⟩
  · intro _ _ _ underway
    cases underway
  · intro _ _ finished
    cases finished

/-- A step that ends the call with an error leaves the store and the adapters as they are. -/
theorem step_raised {past : List (WorkerEvent W)} {s : Workers W} {worker : W}
    {action : WorkerAction} {request : FloatDisbursementRequest} {error : ManagerError}
    (owned : SingleOwner digests past s)
    (raises
      : workerAct digests s.shared (s.phase worker) action
        = (.finished request (.error error), s.shared, .idle))
    : SingleOwner digests (past ++ [(workersMachine digests W).event s (worker, action)])
        ((workersMachine digests W).event s (worker, action)).after := by
  rw [workersMachine, Pool.event_eq raises]
  apply step_kept owned
  · rfl
  · exact Or.inl rfl
  · exact Or.inl ⟨fun key => Backends.created_self _ key, False.elim⟩
  · intro _ _ _ underway
    cases underway
  · intro _ _ finished
    cases (WorkerAnswer.finished.inj finished).2

/-- The first step of a call answers from a record, is refused, or takes a free key. -/
theorem step_reserve {past : List (WorkerEvent W)} {s : Workers W} {worker : W}
    (owned : SingleOwner digests past s) (ready : s.phase worker = .idle)
    (request : FloatDisbursementRequest) {now : Int} (young : s.shared.store.Young now)
    : SingleOwner digests
        (past ++ [(workersMachine digests W).event s (worker, .reserve request now)])
        ((workersMachine digests W).event s (worker, .reserve request now)).after := by
  have quiet (store : SQLiteIdempotencyStore) (key : RecordKey)
      : Backends.created s.shared { s.shared with store } key = 0 :=
    Backends.created_store s.shared store key
  by_cases printable : request.Printable
  swap
  · -- The call raises before it asks the store
    have acts
        : workerAct digests s.shared (s.phase worker) (.reserve request now)
          = (.finished request (.error (.valueError tooLargeToWrite)), s.shared, .idle) := by
      rw [ready, workerAct_reserve_unprintable digests s.shared printable]
    exact step_raised owned acts
  have reserves
      : workerAct digests s.shared (s.phase worker) (.reserve request now)
        = reserveKey s.shared request now (request.fingerprint digests) := by
    rw [ready, workerAct_reserve_printable digests s.shared printable]
  have cases :=
    SQLiteIdempotencyStore.reserve_cases young request.tenantId request.idempotencyKey
      (request.fingerprint digests)
  cases call : s.shared.store.reserve now request.tenantId request.idempotencyKey
      (request.fingerprint digests) with
  | mk answer store =>
  rw [call] at cases
  rcases cases with ⟨record, found, rfl, same⟩ | ⟨error, refused⟩ | ⟨free, rfl, records⟩
  · -- The key has a record of the same request: the worker is answered from it
    have acts
        : workerAct digests s.shared (s.phase worker) (.reserve request now)
          = (.finished request (storedAnswer
                ⟨request.tenantId, request.idempotencyKey, record.requestFingerprint,
                  record.resultJson, record.status⟩),
            { s.shared with store },
            .idle) := by
      simp only [reserves, reserveKey, SQLiteIdempotencyStore.getOrReserve, call]
    rw [workersMachine, Pool.event_eq acts]
    apply step_kept owned
    · exact same
    · exact Or.inl rfl
    · exact Or.inl ⟨quiet store, False.elim⟩
    · intro _ _ _ underway
      cases underway
    · intro other result finished
      obtain ⟨rfl, answered⟩ := WorkerAnswer.finished.inj finished
      obtain ⟨terminal, described⟩ := storedAnswer_ok answered
      exact ⟨record, found, terminal, described⟩
  · -- The store refuses, and the worker is idle again
    obtain ⟨rfl, rfl⟩ := Prod.mk.inj refused
    have acts
        : workerAct digests s.shared (s.phase worker) (.reserve request now)
          = (.finished request (.error (.store error)), s.shared, .idle) := by
      simp only [reserves, reserveKey, SQLiteIdempotencyStore.getOrReserve, call]
    exact step_raised owned acts
  · have acts
        : workerAct digests s.shared (s.phase worker) (.reserve request now)
          = (.underway, { s.shared with store }, .reserved request) := by
      simp only [reserves, reserveKey, SQLiteIdempotencyStore.getOrReserve, call]
    rw [workersMachine, Pool.event_eq acts]
    apply step_reserves owned _ free records
    rw [ready]
    rfl

/-- The adapter's step: a refused payment changes nothing, and the worker that makes a
payment had not made one.
-/
theorem step_pay {past : List (WorkerEvent W)} {s : Workers W} {worker : W}
    (owned : SingleOwner digests past s) {request : FloatDisbursementRequest}
    (reserved : s.phase worker = .reserved request) (draw : PaymentDraw)
    : SingleOwner digests (past ++ [(workersMachine digests W).event s (worker, .pay draw)])
        ((workersMachine digests W).event s (worker, .pay draw)).after := by
  have held : (s.phase worker).request? = some request := by rw [reserved]; rfl
  have unpaid : (s.phase worker).Unpaid := by rw [reserved]; trivial
  have outcome := Backends.pay_outcome digests s.shared draw request
  cases call : s.shared.pay digests draw request with
  | mk answer after =>
  rw [call] at outcome
  cases answer with
  | error error =>
      obtain rfl : after = s.shared := outcome.refused error rfl
      have acts
          : workerAct digests s.shared (s.phase worker) (.pay draw)
            = (.underway, s.shared, .refused request error) := by
        simp only [reserved, workerAct, call]
      rw [workersMachine, Pool.event_eq acts]
      apply step_kept owned
      · rfl
      · exact Or.inr held.symm
      · exact Or.inl ⟨fun key => Backends.created_self _ key, fun _ => unpaid⟩
      · intro _ _ other
        cases other
      · intro _ _ finished
        cases finished
  | ok result =>
      cases written : resultText result with
      | none =>
          -- The result cannot be written, so the call ends and its reservation stays behind
          have acts
              : workerAct digests s.shared (s.phase worker) (.pay draw)
                = (.finished request
                    (.error (.overflowError "int too large to convert to float")),
                  after, .idle) := by
            simp only [reserved, workerAct, call, afterPayment_none written]
          rw [workersMachine, Pool.event_eq acts]
          apply step_kept owned
          · exact congrArg _ outcome.store
          · exact Or.inl rfl
          · exact Or.inr ⟨request, held, unpaid, id, outcome.createdOwn, outcome.createdOther⟩
          · intro _ _ other
            cases other
          · intro _ _ finished
            cases (WorkerAnswer.finished.inj finished).2
      | some text =>
          have acts
              : workerAct digests s.shared (s.phase worker) (.pay draw)
                = (.underway, after, .paid request result text written) := by
            simp only [reserved, workerAct, call, afterPayment_some written]
          rw [workersMachine, Pool.event_eq acts]
          apply step_kept owned
          · exact congrArg _ outcome.store
          · exact Or.inr held.symm
          · exact Or.inr ⟨request, held, unpaid, id, outcome.createdOwn, outcome.createdOther⟩
          · intro _ _ other
            cases other
          · intro _ _ finished
            cases finished

/-- The last step of a call that was paid for: the owner completes its own record, with the
text of its result.
-/
theorem step_complete {past : List (WorkerEvent W)} {s : Workers W} {worker : W}
    (owned : SingleOwner digests past s) {request : FloatDisbursementRequest}
    {result : FloatDisbursementResult} {text : String} {written : resultText result = some text}
    (paid : s.phase worker = .paid request result text written)
    : SingleOwner digests (past ++ [(workersMachine digests W).event s (worker, .settle)])
        ((workersMachine digests W).event s (worker, .settle)).after := by
  have held : (s.phase worker).request? = some request := by rw [paid]; rfl
  have completed :=
    SQLiteIdempotencyStore.complete_reserved (owned.reserved worker request held) text
  cases call : s.shared.store.complete request.tenantId request.idempotencyKey
      (request.fingerprint digests) text with
  | mk answer store =>
  rw [call] at completed
  obtain ⟨rfl, record, filed, status, records⟩ := completed
  have acts
      : workerAct digests s.shared (s.phase worker) .settle
        = (.finished request (.ok result), { s.shared with store }, .idle) := by
    simp only [paid, workerAct, call]
  rw [workersMachine, Pool.event_eq acts]
  apply step_settles owned held records
  · intro none
    cases none
  · intro returned ok
    obtain rfl := Except.ok.inj ok
    refine ⟨record, (records _).trans (if_pos rfl), by simp [status], ?_⟩
    rw [filed]
    exact resultOfText_resultText written

/-- The last step of a call that was refused: the owner frees its key. -/
theorem step_abandon {past : List (WorkerEvent W)} {s : Workers W} {worker : W}
    (owned : SingleOwner digests past s) {request : FloatDisbursementRequest}
    {error : PaymentError} (refused : s.phase worker = .refused request error)
    : SingleOwner digests (past ++ [(workersMachine digests W).event s (worker, .settle)])
        ((workersMachine digests W).event s (worker, .settle)).after := by
  have held : (s.phase worker).request? = some request := by rw [refused]; rfl
  have records :=
    SQLiteIdempotencyStore.abandon_reserved (owned.reserved worker request held)
  have acts
      : workerAct digests s.shared (s.phase worker) .settle
        = (.finished request (.error (.payment error)),
          {
            s.shared with
            store :=
              s.shared.store.abandon request.tenantId request.idempotencyKey
                (request.fingerprint digests)
          },
          .idle) := by
    simp only [refused, workerAct]
  rw [workersMachine, Pool.event_eq acts]
  apply step_settles owned held records
  · intro _
    rw [refused]
    trivial
  · intro _ ok
    cases ok

/-- Every step keeps the invariant. -/
theorem step {past : List (WorkerEvent W)} {s : Workers W} (owned : SingleOwner digests past s)
    (input : W × WorkerAction) (young : InRetention s input)
    : SingleOwner digests (past ++ [(workersMachine digests W).event s input])
        ((workersMachine digests W).step s input).2 := by
  obtain ⟨worker, action⟩ := input
  cases phase : s.phase worker with
  | idle =>
      cases action with
      | reserve request now => exact owned.step_reserve phase request young
      | pay draw => exact owned.step_notReady (by rw [phase]; rfl)
      | settle => exact owned.step_notReady (by rw [phase]; rfl)
  | reserved request =>
      cases action with
      | reserve other now => exact owned.step_notReady (by rw [phase]; rfl)
      | pay draw => exact owned.step_pay phase draw
      | settle => exact owned.step_notReady (by rw [phase]; rfl)
  | paid request result text written =>
      cases action with
      | reserve other now => exact owned.step_notReady (by rw [phase]; rfl)
      | pay draw => exact owned.step_notReady (by rw [phase]; rfl)
      | settle => exact owned.step_complete phase
  | refused request error =>
      cases action with
      | reserve other now => exact owned.step_notReady (by rw [phase]; rfl)
      | pay draw => exact owned.step_notReady (by rw [phase]; rfl)
      | settle => exact owned.step_abandon phase

/-- Every interleaving keeps the invariant, by induction over its steps. -/
theorem run (digests : Digests) (backends : Backends) {inputs : List (W × WorkerAction)}
    (young : (workersMachine digests W).Admits InRetention (Workers.opened backends) inputs)
    : SingleOwner digests
        ((workersMachine digests W).history (Workers.opened backends) inputs)
        ((workersMachine digests W).exec (Workers.opened backends) inputs) := by
  have kept :=
    (workersMachine digests W).history_invariant (motive := SingleOwner digests)
      (fun _ _ input owned young => step owned input young) (opened digests backends) young
  simpa only [List.nil_append] using kept

end SingleOwner

/-- In every interleaving of any number of calls, while no record is older than the
retention time: no two workers have a key at the same time, and it is reserved again only
after it was settled; the adapters create at most one card or disbursement for it; all calls
that return a result return the same one; and a worker that has a key can complete it.
-/
theorem workers_singleOwner {W : Type} [DecidableEq W] (digests : Digests) (backends : Backends)
    (inputs : List (W × WorkerAction))
    (young : (workersMachine digests W).Admits InRetention (Workers.opened backends) inputs)
    : let past := (workersMachine digests W).history (Workers.opened backends) inputs
      let s := (workersMachine digests W).exec (Workers.opened backends) inputs
      (∀ left right key,
        (s.phase left).key? = some key → (s.phase right).key? = some key → left = right)
      ∧ (∀ key,
        past.countP (WorkerEvent.reserves key) ≤ past.countP (WorkerEvent.settles key) + 1)
      ∧ (∀ key, payments key past ≤ 1)
      ∧ (∀ key result other,
        (∃ event ∈ past, WorkerEvent.Returns key result event)
        → (∃ event ∈ past, WorkerEvent.Returns key other event)
        → result = other)
      ∧ ∀ worker request,
          (s.phase worker).request? = some request
          → ∀ text,
              ∃ stored,
                (s.shared.store.complete request.tenantId request.idempotencyKey
                  (request.fingerprint digests) text).1
                = .ok stored := by
  have owned := SingleOwner.run digests backends young
  refine ⟨owned.exclusive, owned.turns, owned.once, ?_, ?_⟩
  · intro key result other returned otherReturned
    obtain ⟨record, found, _, described⟩ := owned.answered key result returned
    obtain ⟨same, otherFound, _, otherDescribed⟩ := owned.answered key other otherReturned
    obtain rfl := Option.some.inj (found.symm.trans otherFound)
    exact Option.some.inj (described.symm.trans otherDescribed)
  · intro worker request held text
    have completed :=
      SQLiteIdempotencyStore.complete_reserved (owned.reserved worker request held) text
    exact ⟨_, completed.1⟩

/-- A request for a card, as it stands after a key was drawn for it. -/
def sampleRequest : FloatDisbursementRequest :=
  {
    tenantId := "TENANT-ORG"
    custodianId := "CUST-001"
    fundId := "F001"
    amountScaled := 1500000
    channel := .virtualCard
    currency := "USD"
    recipientAddress := ""
    cardholderName := "John Smith"
    description := ""
    idempotencyKey := "auto-1"
    metadata := .empty
    tenantNamed := by decide
    custodianNamed := by decide
    fundNamed := by decide
    amountPositive := by decide
    keyGiven := by decide
  }

/-- The SHA-256 of the sample request's payload, and the MD5 of its card's identifier. -/
def samplePaymentDigests : Digests :=
  ⟨fun _ => 0x41eaab6d0787cd6e4194ad878b632df9c2e536e449d79aa0bad91c2791959d58,
    fun _ => 0x53cd0ed85040d969f5d641dac2e8dce0⟩

def samplePayment (fault : Option String) : PaymentDraw :=
  ⟨⟨0x9a2f4c5d6e7b48a19c0d1e2f3a4b5c6d⟩, ⟨1700000000000000⟩,
    ⟨⟨0x4f1d2c3b5a69478897a6b5c4d3e2f101⟩, ⟨1700000000000000⟩⟩, fault⟩

/-- The first worker's payment fails while the second one is told to wait; the second one
tries again and pays, and the first one is given its result.
-/
def sampleCalls : List (Nat × WorkerAction) :=
  [
    (0, .reserve sampleRequest 100),
    (1, .reserve sampleRequest 100),
    (0, .pay (samplePayment (some "provider unavailable"))),
    (0, .settle),
    (1, .reserve sampleRequest 101),
    (1, .pay (samplePayment none)),
    (0, .reserve sampleRequest 102),
    (1, .settle),
    (0, .reserve sampleRequest 103)
  ]

theorem sampleRetention_pos : (0 : Int) < 604800 := by decide

def sampleBackends : Backends :=
  ⟨⟨604800, .empty, .empty, sampleRetention_pos⟩, .new .mock, .new .mock false⟩

theorem workers_singleOwner_sample
    : let past :=
        (workersMachine samplePaymentDigests Nat).history (Workers.opened sampleBackends)
          sampleCalls
      payments sampleRequest.recordKey past ≤ 1
      ∧ ∀ result other,
          (∃ event ∈ past, WorkerEvent.Returns sampleRequest.recordKey result event)
          → (∃ event ∈ past, WorkerEvent.Returns sampleRequest.recordKey other event)
          → result = other := by
  obtain ⟨_, _, once, same, _⟩ :=
    workers_singleOwner samplePaymentDigests sampleBackends sampleCalls (by decide +kernel)
  exact ⟨once sampleRequest.recordKey, same sampleRequest.recordKey⟩

end PettyFlow.Wallet
