import PettyFlow.Foundation.Pool
import PettyFlow.Wallet.DisbursementManager

/-! Workers that call `disburseFloat` on one store and one pair of adapters. A call is cut
into its atomic steps: reserve the key, pay, and settle the reservation. Between two steps of
one call the other workers may take any number of theirs. What a manager files of the result
after that is its own.
-/

namespace PettyFlow.Wallet

open Foundation Adapters Idempotency

/-- What a caller is told whose key has a record already. -/
def storedAnswer (stored : StoredIdempotencyResult)
    : Except ManagerError FloatDisbursementResult :=
  if stored.status = .inProgress then
    .error (.idempotencyInProgress "disbursement for this idempotency key is already in progress")
  else
    orRaise (resultOfText stored.resultJson) (.undecodable stored.resultJson)

/-- A caller is given a result when the record has one. -/
theorem storedAnswer_ok {stored : StoredIdempotencyResult} {result : FloatDisbursementResult}
    (answered : storedAnswer stored = .ok result)
    : stored.status ≠ .inProgress ∧ resultOfText stored.resultJson = some result := by
  unfold storedAnswer at answered
  split at answered
  · cases answered
  · rename_i terminal
    exact ⟨terminal, orRaise_ok answered⟩

/-- How far a worker has come with its call. A payment is held with the text of its result. -/
inductive WorkerPhase where
  | idle
  | reserved (request : FloatDisbursementRequest)
  | paid (request : FloatDisbursementRequest) (result : FloatDisbursementResult) (text : String)
      (written : resultText result = some text)
  | refused (request : FloatDisbursementRequest) (error : PaymentError)

namespace WorkerPhase

/-- The request whose key the worker has reserved, until it completes or abandons it. -/
def request? : WorkerPhase → Option FloatDisbursementRequest
  | idle => none
  | reserved request | paid request _ _ _ | refused request _ => some request

/-- The key that the worker has reserved. -/
def key? (phase : WorkerPhase) : Option RecordKey :=
  phase.request?.map FloatDisbursementRequest.recordKey

theorem key?_eq_some {phase : WorkerPhase} {key : RecordKey}
    : phase.key? = some key
      ↔ ∃ request, phase.request? = some request ∧ request.recordKey = key :=
  Option.map_eq_some_iff

end WorkerPhase

inductive WorkerAction where
  | reserve (request : FloatDisbursementRequest) (now : Int)
  | pay (draw : PaymentDraw)
  | settle

/-- What a step tells: the call goes on, the call is over, or the worker is not there. -/
inductive WorkerAnswer where
  | underway
  | finished (request : FloatDisbursementRequest)
      (outcome : Except ManagerError FloatDisbursementResult)
  | notReady

/-- The end of a payment. Its text is written before the store is asked, and outside of the
block that abandons the reservation.
-/
def afterPayment (s : Backends) (request : FloatDisbursementRequest)
    (result : FloatDisbursementResult)
    : WorkerAnswer × Backends × WorkerPhase :=
  match written : resultText result with
  | none =>
      (.finished request (.error (.overflowError "int too large to convert to float")), s, .idle)
  | some text => (.underway, s, .paid request result text written)

theorem afterPayment_none {result : FloatDisbursementResult} (unwritten : resultText result = none)
    (s : Backends) (request : FloatDisbursementRequest)
    : afterPayment s request result
      = (.finished request (.error (.overflowError "int too large to convert to float")), s,
        .idle) := by
  unfold afterPayment
  split
  · rfl
  · rename_i text written
    cases written.symm.trans unwritten

theorem afterPayment_some {result : FloatDisbursementResult} {text : String}
    (written : resultText result = some text) (s : Backends) (request : FloatDisbursementRequest)
    : afterPayment s request result = (.underway, s, .paid request result text written) := by
  unfold afterPayment
  split
  · rename_i unwritten
    cases unwritten.symm.trans written
  · rename_i other written'
    cases written'.symm.trans written
    rfl

/-- The reservation of a request with its fingerprint. -/
def reserveKey (s : Backends) (request : FloatDisbursementRequest) (now : Int)
    (requestFingerprint : String)
    : WorkerAnswer × Backends × WorkerPhase :=
  match s.store.getOrReserve now request.tenantId request.idempotencyKey requestFingerprint
      none with
  | (.error error, store) =>
      (.finished request (.error (.store error)), { s with store }, .idle)
  | (.ok (some stored), store) =>
      (.finished request (storedAnswer stored), { s with store }, .idle)
  | (.ok none, store) => (.underway, { s with store }, .reserved request)

/-- One atomic step of one worker. A request without a fingerprint raises before the store is
asked.
-/
def workerAct (digests : Digests) (s : Backends)
    : WorkerPhase → WorkerAction → WorkerAnswer × Backends × WorkerPhase
  | .idle, .reserve request now =>
      match Idempotency.fingerprint digests request.payload with
      | none => (.finished request (.error (.valueError tooLargeToWrite)), s, .idle)
      | some requestFingerprint => reserveKey s request now requestFingerprint
  | .reserved request, .pay draw =>
      match s.pay digests draw request with
      | (.error error, s) => (.underway, s, .refused request error)
      | (.ok result, s) => afterPayment s request result
  | .paid request result text _, .settle =>
      match s.store.complete request.tenantId request.idempotencyKey
          (request.fingerprint digests) text with
      | (.error error, store) =>
          (.finished request (.error (.store error)), { s with store }, .idle)
      | (.ok _, store) => (.finished request (.ok result), { s with store }, .idle)
  | .refused request error, .settle =>
      (.finished request (.error (.payment error)),
        {
          s with
          store :=
            s.store.abandon request.tenantId request.idempotencyKey (request.fingerprint digests)
        },
        .idle)
  | phase, _ => (.notReady, s, phase)

theorem workerAct_reserve_printable (digests : Digests) (s : Backends)
    {request : FloatDisbursementRequest} (printable : request.Printable) (now : Int)
    : workerAct digests s .idle (.reserve request now)
      = reserveKey s request now (request.fingerprint digests) := by
  rw [workerAct, request.fingerprint_payload digests printable]

theorem workerAct_reserve_unprintable (digests : Digests) (s : Backends)
    {request : FloatDisbursementRequest} (unprintable : ¬ request.Printable) (now : Int)
    : workerAct digests s .idle (.reserve request now)
      = (.finished request (.error (.valueError tooLargeToWrite)), s, .idle) := by
  rw [workerAct, request.fingerprint_unprintable digests unprintable]

/-- The workers of a type, any number of them. -/
abbrev Workers (W : Type) := Pool W Backends WorkerPhase

def workersMachine (digests : Digests) (W : Type) [DecidableEq W]
    : Machine (Workers W) (W × WorkerAction) WorkerAnswer :=
  Pool.machine (workerAct digests)

/-- Nobody has started a call yet. -/
def Workers.opened {W : Type} (backends : Backends) : Workers W := ⟨backends, fun _ => .idle⟩

/-- A reservation is made while no record is older than the retention time. -/
def InRetention {W : Type} (s : Workers W) (input : W × WorkerAction) : Prop :=
  match input.2 with
  | .reserve _ now => s.shared.store.Young now
  | .pay _ | .settle => True

instance {W : Type} (s : Workers W) (input : W × WorkerAction) : Decidable (InRetention s input) :=
  match input with
  | (_, .reserve _ now) => inferInstanceAs (Decidable (s.shared.store.Young now))
  | (_, .pay _) | (_, .settle) => isTrue trivial

namespace Backends

/-- The card that was issued under a key. -/
def card? (s : Backends) (key : RecordKey) : Option VirtualCardResult :=
  s.cardIssuer.issuedCards.get? (.scoped key.1 key.2)

/-- The disbursement that was made under a key. -/
def disbursement? (s : Backends) (key : RecordKey) : Option DisbursementResult :=
  s.mobileAdapter.disbursements.get? key

/-- How many cards and disbursements a step creates under a key. -/
def created (before after : Backends) (key : RecordKey) : Nat :=
  (if before.card? key = after.card? key then 0 else 1)
    + (if before.disbursement? key = after.disbursement? key then 0 else 1)

@[simp] theorem created_self (s : Backends) (key : RecordKey) : created s s key = 0 := by
  simp [created]

@[simp] theorem created_store (s : Backends) (store : SQLiteIdempotencyStore) (key : RecordKey)
    : created s { s with store } key = 0 := by
  simp [created, card?, disbursement?]

/-- Issuing a card touches the tenant's own key only. -/
theorem createVirtualCard_issued (digests : Digests) (s : CardIssuerAdapter) (draw : Draw)
    (request : VirtualCardRequest) {other : IssuedKey}
    (different : .scoped request.tenantId request.idempotencyKey ≠ other)
    : (s.createVirtualCard digests draw request).2.issuedCards.get? other
      = s.issuedCards.get? other := by
  unfold CardIssuerAdapter.createVirtualCard
  split
  · rfl
  · exact Dict.get?_set_ne _ _ different

/-- A disbursement touches the tenant's own key only. -/
theorem disburse_disbursements (digests : Digests) (s : MobileMoneyAdapter) (draw : Draw)
    (request : DisbursementRequest) {other : RecordKey}
    (different : (request.tenantId, request.idempotencyKey) ≠ other)
    : (s.disburse digests draw request).2.disbursements.get? other
      = s.disbursements.get? other := by
  unfold MobileMoneyAdapter.disburse
  split
  · rfl
  · exact Dict.get?_set_ne _ _ different

/-- What a payment does: it is refused and changes nothing, or it creates at most one card
or disbursement, under the request's own key.
-/
structure PayOutcome (s : Backends) (request : FloatDisbursementRequest)
    (call : Except PaymentError FloatDisbursementResult × Backends) : Prop where
  refused : ∀ error, call.1 = .error error → call.2 = s
  store : call.2.store = s.store
  createdOwn : created s call.2 request.recordKey ≤ 1
  createdOther : ∀ key, request.recordKey ≠ key → created s call.2 key = 0

theorem PayOutcome.of_refused (s : Backends) (request : FloatDisbursementRequest)
    (error : PaymentError)
    : PayOutcome s request (.error error, s) where
  refused _ _ := rfl
  store := rfl
  createdOwn := by simp
  createdOther key _ := created_self s key

/-- The checks of a payment pass with the adapter's request as it was built. -/
theorem unfaulted {α : Type} {built : Except RequestError α} {toError : RequestError → PaymentError}
    {fault : Option String} {request : α}
    (passed
      : (do
          let request ← built.mapError toError
          match fault with
          | some message => .error (.provider message)
          | none => .ok request)
        = Except.ok request)
    : built = .ok request := by
  obtain ⟨value, checked, passed⟩ := bind_ok passed
  cases fault with
  | some message => cases passed
  | none =>
      obtain rfl := Except.ok.inj passed
      exact mapError_ok checked

theorem disburseViaCard_outcome (digests : Digests) (s : Backends) (draw : PaymentDraw)
    (request : FloatDisbursementRequest)
    : PayOutcome s request (s.disburseViaCard digests draw request) := by
  unfold disburseViaCard
  apply attempt_elim
  · intro error _
    exact .of_refused s request error
  · intro cardRequest passed
    obtain ⟨tenant, key⟩ := VirtualCardRequest.new_given request.keyGiven (unfaulted passed)
    refine ⟨nofun, rfl, ?_, ?_⟩
    · simp only [created, disbursement?, if_true]
      split <;> omega
    · intro other different
      have foreign
          : IssuedKey.scoped cardRequest.tenantId cardRequest.idempotencyKey
            ≠ .scoped other.1 other.2 := by
        rw [tenant, key]
        intro same
        injection same with sameTenant sameKey
        exact different (Prod.ext sameTenant sameKey)
      simp [created, card?, disbursement?,
        createVirtualCard_issued digests s.cardIssuer draw.adapter cardRequest foreign]

theorem disburseViaMobile_outcome (digests : Digests) (s : Backends) (draw : PaymentDraw)
    (request : FloatDisbursementRequest)
    : PayOutcome s request (s.disburseViaMobile digests draw request) := by
  unfold disburseViaMobile
  apply attempt_elim
  · intro error _
    exact .of_refused s request error
  · intro mobileRequest passed
    obtain ⟨tenant, key⟩ := DisbursementRequest.new_given request.keyGiven (unfaulted passed)
    refine ⟨nofun, rfl, ?_, ?_⟩
    · simp only [created, card?, if_true]
      split <;> omega
    · intro other different
      have foreign : (mobileRequest.tenantId, mobileRequest.idempotencyKey) ≠ other := by
        rw [tenant, key]
        exact different
      simp [created, card?, disbursement?,
        disburse_disbursements digests s.mobileAdapter draw.adapter mobileRequest foreign]

theorem pay_outcome (digests : Digests) (s : Backends) (draw : PaymentDraw)
    (request : FloatDisbursementRequest)
    : PayOutcome s request (s.pay digests draw request) := by
  unfold pay
  split
  · exact disburseViaCard_outcome digests s draw request
  · exact disburseViaMobile_outcome digests s draw request
  · exact disburseViaMobile_outcome digests s draw request

end Backends

section SingleCall

variable (digests : Digests) (hmac : Bytes → Bytes → Bytes) (s : DisbursementManager)
  (draw : DisburseDraw) (request : FloatDisbursementRequest)

/-- The steps of one call, taken without a pause: they leave what the manager's method leaves,
and one of them answers what the method answers, unless the method raises afterwards because it
cannot file the result. A call that is over ignores later steps.
-/
theorem disburseFloat_steps
    : let call := s.disburseFloat digests hmac draw request
      let reserved := workerAct digests s.backends .idle (.reserve request draw.storeTime)
      let paid := workerAct digests reserved.2.1 reserved.2.2 (.pay draw.payment)
      let settled := workerAct digests paid.2.1 paid.2.2 .settle
      settled.2 = (call.2.backends, .idle)
      ∧ (.finished request call.1 ∈ [reserved.1, paid.1, settled.1]
        ∨ ∃ result message,
            settled.1 = .finished request (.ok result)
            ∧ draw.filedAt.addSeconds s.idempotencyTtlSeconds = .error message
            ∧ call.1 = .error (.overflowError message)) := by
  by_cases printable : request.Printable
  swap
  · rw [workerAct_reserve_unprintable digests s.backends printable,
      DisbursementManager.disburseFloat_unprintable digests hmac s draw printable]
    simp [workerAct]
  rw [workerAct_reserve_printable digests s.backends printable,
    DisbursementManager.disburseFloat_printable digests hmac s draw printable]
  unfold DisbursementManager.disburseAs reserveKey
  cases reserve : s.backends.store.getOrReserve draw.storeTime request.tenantId
      request.idempotencyKey (request.fingerprint digests) none with
  | mk answer store =>
  cases answer with
  | error error => simp [workerAct, DisbursementManager.log, DisbursementManager.withStore]
  | ok found =>
  cases found with
  | some stored =>
      have answer
          : ((s.withStore store).reuse hmac draw.audit request stored).1 = storedAnswer stored := by
        unfold DisbursementManager.reuse storedAnswer
        split <;> rfl
      have backends
          : ((s.withStore store).reuse hmac draw.audit request stored).2.backends
            = { s.backends with store } := by
        unfold DisbursementManager.reuse
        split <;> rfl
      simp [workerAct, answer, backends]
  | none =>
  cases payment : { s.backends with store }.pay digests draw.payment request with
  | mk answer after =>
  cases answer with
  | error error =>
      simp [workerAct, payment, DisbursementManager.log, DisbursementManager.withStore]
  | ok result =>
      cases written : resultText result with
      | none =>
          simp [workerAct, payment, afterPayment_none written, written,
            DisbursementManager.withStore, DisbursementManager.finish]
      | some text =>
          cases complete : after.store.complete request.tenantId request.idempotencyKey
              (request.fingerprint digests) text with
          | mk answer completed =>
          cases answer with
          | error error =>
              simp [workerAct, payment, afterPayment_some written, written, complete,
                DisbursementManager.withStore, DisbursementManager.finish]
          | ok stored =>
              cases filed : draw.filedAt.addSeconds s.idempotencyTtlSeconds <;>
                simp [workerAct, payment, afterPayment_some written, written, complete, filed,
                  DisbursementManager.withStore, DisbursementManager.finish,
                  DisbursementManager.log, DisbursementManager.recordIdempotentResult]

end SingleCall

end PettyFlow.Wallet
