import PettyFlow.Wallet.Payments
import PettyFlow.Wallet.ProviderEvents

/-! What one call of the manager does to the store, the adapters and the tenant's records, and
the runs of such calls.
-/

namespace PettyFlow.Wallet

open Foundation Idempotency

/-- The outcomes of a call: raising at once because the request cannot be written, refused for
another request's record, answered by the record of the same request, refused by the payment,
raising after the payment because a text cannot be written or the result cannot be filed, or
completed.
-/
inductive CallOutcome (digests : Digests) (s : DisbursementManager) (draw : DisburseDraw)
    (request : FloatDisbursementRequest)
    : Except ManagerError FloatDisbursementResult → DisbursementManager → Prop where
  | unprinted (unprintable : ¬ request.Printable)
      : CallOutcome digests s draw request (.error (.valueError tooLargeToWrite)) s
  | refused (after : DisbursementManager)
      (printable : request.Printable)
      (refuses
        : s.backends.store.Refuses draw.storeTime request.tenantId request.idempotencyKey
            (request.fingerprint digests))
      (backends : after.backends = s.backends)
      (trail : after.auditTrail = s.auditTrail)
      : CallOutcome digests s draw request
          (.error
            (.store
              (.idempotencyConflict "idempotency key was already used for a different request")))
          after
  | reused (after : DisbursementManager) (record : IdempotencyRecord)
      (printable : request.Printable)
      (found
        : (s.backends.store.purge draw.storeTime).record? request.recordKey = some record)
      (same : record.requestFingerprint = request.fingerprint digests)
      (backends
        : after.backends
          = { s.backends with store := s.backends.store.purge draw.storeTime })
      (trail : after.auditTrail = s.auditTrail)
      : CallOutcome digests s draw request
          (storedAnswer
            ⟨request.tenantId, request.idempotencyKey, record.requestFingerprint,
              record.resultJson, record.status⟩)
          after
  | unpaid (after : DisbursementManager) (error : PaymentError)
      (printable : request.Printable)
      (free : (s.backends.store.purge draw.storeTime).record? request.recordKey = none)
      (payment : (s.backends.pay digests draw.payment request).1 = .error error)
      (cardIssuer : after.backends.cardIssuer = s.backends.cardIssuer)
      (mobileAdapter : after.backends.mobileAdapter = s.backends.mobileAdapter)
      (records
        : ∀ other,
            after.backends.store.record? other
            = if request.recordKey = other then
                none
              else
                (s.backends.store.purge draw.storeTime).record? other)
      (trail : after.auditTrail = s.auditTrail)
      : CallOutcome digests s draw request (.error (.payment error)) after
  | unwritten (after : DisbursementManager) (result : FloatDisbursementResult)
      (printable : request.Printable)
      (free : (s.backends.store.purge draw.storeTime).record? request.recordKey = none)
      (payment : (s.backends.pay digests draw.payment request).1 = .ok result)
      (text : resultText result = none)
      (records
        : ∀ other,
            after.backends.store.record? other
            = if request.recordKey = other then
                some ⟨request.fingerprint digests, "", .inProgress, draw.storeTime⟩
              else
                (s.backends.store.purge draw.storeTime).record? other)
      (trail : after.auditTrail = s.auditTrail)
      : CallOutcome digests s draw request
          (.error (.overflowError "int too large to convert to float")) after
  | unfiled (after : DisbursementManager) (result : FloatDisbursementResult) (text : String)
      (message : String)
      (printable : request.Printable)
      (free : (s.backends.store.purge draw.storeTime).record? request.recordKey = none)
      (payment : (s.backends.pay digests draw.payment request).1 = .ok result)
      (written : resultText result = some text)
      (filing : draw.filedAt.addSeconds s.idempotencyTtlSeconds = .error message)
      (cardIssuer
        : after.backends.cardIssuer = (s.backends.pay digests draw.payment request).2.cardIssuer)
      (mobileAdapter
        : after.backends.mobileAdapter
          = (s.backends.pay digests draw.payment request).2.mobileAdapter)
      (records
        : ∀ other,
            after.backends.store.record? other
            = if request.recordKey = other then
                some ⟨request.fingerprint digests, text, .completed, draw.storeTime⟩
              else
                (s.backends.store.purge draw.storeTime).record? other)
      (trail : after.auditTrail = s.auditTrail)
      : CallOutcome digests s draw request (.error (.overflowError message)) after
  | completed (after : DisbursementManager) (result : FloatDisbursementResult) (text : String)
      (expiresAt : Instant)
      (printable : request.Printable)
      (free : (s.backends.store.purge draw.storeTime).record? request.recordKey = none)
      (payment : (s.backends.pay digests draw.payment request).1 = .ok result)
      (written : resultText result = some text)
      (filing : draw.filedAt.addSeconds s.idempotencyTtlSeconds = .ok expiresAt)
      (records
        : ∀ other,
            after.backends.store.record? other
            = if request.recordKey = other then
                some ⟨request.fingerprint digests, text, .completed, draw.storeTime⟩
              else
                (s.backends.store.purge draw.storeTime).record? other)
      (trail : after.auditTrail = s.auditTrail ++ [result])
      : CallOutcome digests s draw request (.ok result) after

/-- Of two values written under one key the last one stays, and all others are as before both. -/
theorem overwritten {κ β : Type} [DecidableEq κ] {before between after : κ → β} {key : κ}
    {first last : β} (writes : ∀ other, between other = if key = other then first else before other)
    (overwrites : ∀ other, after other = if key = other then last else between other) (other : κ)
    : after other = if key = other then last else before other := by
  rw [overwrites other]
  split
  · rfl
  · rename_i foreign
    rw [writes other, if_neg foreign]

namespace DisbursementManager

variable (digests : Digests) (hmac : Bytes → Bytes → Bytes) (s : DisbursementManager)
  (draw : DisburseDraw) (request : FloatDisbursementRequest)

/-- What is told of a stored result, and where that leaves the manager. -/
theorem reuse_eq (stored : StoredIdempotencyResult)
    : (s.reuse hmac draw.audit request stored).1 = storedAnswer stored
      ∧ (s.reuse hmac draw.audit request stored).2.backends = s.backends
      ∧ (s.reuse hmac draw.audit request stored).2.auditTrail = s.auditTrail := by
  unfold reuse storedAnswer
  split <;> exact ⟨rfl, rfl, rfl⟩

/-- Every call has one of the outcomes, by cases on the record of the key, on the payment and
on the text of its result.
-/
theorem disburseFloat_outcome
    : CallOutcome digests s draw request
        (s.disburseFloat digests hmac draw request).1
        (s.disburseFloat digests hmac draw request).2 := by
  by_cases printable : request.Printable
  swap
  · rw [disburseFloat_unprintable digests hmac s draw printable]
    exact .unprinted printable
  rw [disburseFloat_printable digests hmac s draw printable]
  unfold disburseAs SQLiteIdempotencyStore.getOrReserve
  dsimp only
  cases lookup : (s.backends.store.purge draw.storeTime).record? request.recordKey with
  | some record =>
      by_cases same : record.requestFingerprint = request.fingerprint digests
      · rw [SQLiteIdempotencyStore.reserve_found lookup same]
        dsimp only
        obtain ⟨answer, backends, trail⟩ :=
          reuse_eq hmac (s.withStore (s.backends.store.purge draw.storeTime)) draw request
            ⟨request.tenantId, request.idempotencyKey, record.requestFingerprint,
              record.resultJson, record.status⟩
        rw [answer]
        exact .reused _ record printable lookup same backends trail
      · have refuses
            : s.backends.store.Refuses draw.storeTime request.tenantId request.idempotencyKey
                (request.fingerprint digests) :=
          ⟨record, lookup, same⟩
        rw [SQLiteIdempotencyStore.reserve_refused refuses]
        exact .refused _ printable refuses rfl rfl
  | none =>
      -- The call owns the key now, and whatever follows writes over its reservation
      rw [SQLiteIdempotencyStore.reserve_free lookup]
      simp only [withStore, Backends.pay_withStore]
      have records :=
        s.backends.store.record?_reserved draw.storeTime request.tenantId request.idempotencyKey
          (request.fingerprint digests)
      generalize s.backends.store.reserved draw.storeTime request.tenantId request.idempotencyKey
        (request.fingerprint digests) = store at records ⊢
      have own
          : store.record? (request.tenantId, request.idempotencyKey)
            = some ⟨request.fingerprint digests, "", .inProgress, draw.storeTime⟩ :=
        (records _).trans (if_pos rfl)
      have outcome := Backends.pay_outcome digests s.backends draw.payment request
      cases payment : s.backends.pay digests draw.payment request with
      | mk answer after =>
      rw [payment] at outcome
      cases answer with
      | error error =>
          obtain rfl : after = s.backends := outcome.refused error rfl
          have abandoned := SQLiteIdempotencyStore.abandon_reserved ⟨_, own, rfl, rfl⟩
          exact .unpaid _ error printable lookup (by rw [payment]) rfl rfl (overwritten records abandoned) rfl
      | ok result =>
          cases written : resultText result with
          | none =>
              -- Raised between the payment and the completion: nothing abandons the key
              simp only [finish, written]
              exact .unwritten _ result printable lookup (by rw [payment]) written records rfl
          | some text =>
              have completes := SQLiteIdempotencyStore.complete_record own rfl text
              dsimp only at completes
              cases call : store.complete request.tenantId request.idempotencyKey
                  (request.fingerprint digests) text with
              | mk answer completed =>
              rw [call] at completes
              obtain ⟨rfl, overwrites⟩ := completes
              have overwrites := overwritten records overwrites
              simp only [finish, written, call, recordIdempotentResult, withStore]
              cases filing : draw.filedAt.addSeconds s.idempotencyTtlSeconds with
              | error message =>
                  -- Raised after the completion: the record stays, and nothing is filed
                  exact .unfiled _ result text message printable lookup (by rw [payment]) written
                    filing (by rw [payment]) (by rw [payment]) overwrites rfl
              | ok expiresAt =>
                  exact .completed _ result text expiresAt printable lookup (by rw [payment])
                    written filing overwrites rfl

theorem disburseFloat_retentionSeconds
    : (s.disburseFloat digests hmac draw request).2.backends.store.retentionSeconds
      = s.backends.store.retentionSeconds := by
  by_cases printable : request.Printable
  swap
  · rw [disburseFloat_unprintable digests hmac s draw printable]
  rw [disburseFloat_printable digests hmac s draw printable]
  unfold disburseAs SQLiteIdempotencyStore.getOrReserve
  have reserved :=
    s.backends.store.reserve_retentionSeconds draw.storeTime request.tenantId
      request.idempotencyKey (request.fingerprint digests)
  cases call : s.backends.store.reserve draw.storeTime request.tenantId request.idempotencyKey
      (request.fingerprint digests) with
  | mk answer store =>
  rw [call] at reserved
  cases answer with
  | error error => exact reserved
  | ok found =>
  cases found with
  | some stored =>
      dsimp only
      rw [(reuse_eq hmac (s.withStore store) draw request stored).2.1]
      exact reserved
  | none =>
      -- The store is untouched by the payment, and each way of ending it keeps the period
      have paid :=
        (Backends.pay_outcome digests (s.withStore store).backends draw.payment request).store
      dsimp only
      cases payment : (s.withStore store).backends.pay digests draw.payment request with
      | mk answer after =>
      rw [payment] at paid
      dsimp only at paid
      cases answer with
      | error error =>
          dsimp only [log, withStore]
          rw [SQLiteIdempotencyStore.abandon_retentionSeconds, paid]
          exact reserved
      | ok result =>
          dsimp only [finish]
          cases resultText result with
          | none =>
              dsimp only
              rw [paid]
              exact reserved
          | some text =>
              have completed :=
                after.store.finish_retentionSeconds .completed
                  "idempotency record cannot be completed" request.tenantId
                  request.idempotencyKey (request.fingerprint digests) text
              change (after.store.complete request.tenantId request.idempotencyKey
                (request.fingerprint digests) text).2.retentionSeconds = _ at completed
              cases complete : after.store.complete request.tenantId request.idempotencyKey
                  (request.fingerprint digests) text with
              | mk answer store' =>
              rw [complete, paid] at completed
              dsimp only
              rw [complete]
              cases answer with
              | error error => exact completed.trans reserved
              | ok stored =>
                  dsimp only [recordIdempotentResult, withStore]
                  cases draw.filedAt.addSeconds s.idempotencyTtlSeconds <;>
                    exact completed.trans reserved

/-- Taking in an event leaves the records, the adapters and the tenant's results alone. -/
theorem ingestProviderEvent_frame (now : Int) (audit : Draw)
    (tenantId provider eventId : String) (payload : ProviderPayload)
    (currentState : SettlementState)
    : let after :=
        (s.ingestProviderEvent digests hmac now audit tenantId provider eventId payload
          currentState).2
      after.backends.store.records = s.backends.store.records
      ∧ after.backends.store.retentionSeconds = s.backends.store.retentionSeconds := by
  -- A claim changes the provider events only
  have claimed (fingerprint : String)
      : let store :=
          (s.backends.store.claimProviderEvent now tenantId provider eventId fingerprint).2
        store.records = s.backends.store.records
        ∧ store.retentionSeconds = s.backends.store.retentionSeconds := by
    unfold SQLiteIdempotencyStore.claimProviderEvent
    split
    · split <;> exact ⟨rfl, rfl⟩
    · exact ⟨rfl, rfl⟩
  unfold ingestProviderEvent
  cases payloadJson payload with
  | error error => exact ⟨rfl, rfl⟩
  | ok json =>
      have same := claimed (payloadDigest digests json)
      dsimp only at same ⊢
      cases call : s.backends.store.claimProviderEvent now tenantId provider eventId
          (payloadDigest digests json) with
      | mk answer store =>
      rw [call] at same
      cases answer with
      | error error => exact same
      | ok isNew =>
      cases isNew with
      | false => exact same
      | true =>
          dsimp only
          cases requestedState json with
          | error error => exact same
          | ok requested =>
              dsimp only
              cases validateSettlementTransition currentState requested <;> exact same

end DisbursementManager

/-- The calls of the manager that use the store. -/
inductive ManagerCall where
  | disburseFloat (draw : DisburseDraw) (request : FloatDisbursementRequest)
  | ingestProviderEvent (now : Int) (audit : Draw) (tenantId provider eventId : String)
      (payload : ProviderPayload) (currentState : SettlementState)

/-- When a call reads the clock of the store. -/
def ManagerCall.storeTime : ManagerCall → Int
  | disburseFloat draw _ => draw.storeTime
  | ingestProviderEvent now .. => now

inductive ManagerAnswer where
  | disbursed (outcome : Except ManagerError FloatDisbursementResult)
  | ingested (outcome : Except ManagerError Bool)

def managerMachine (digests : Digests) (hmac : Bytes → Bytes → Bytes)
    : Machine DisbursementManager ManagerCall ManagerAnswer where
  step s
    | .disburseFloat draw request =>
        (s.disburseFloat digests hmac draw request).map .disbursed id
    | .ingestProviderEvent now audit tenantId provider eventId payload currentState =>
        (s.ingestProviderEvent digests hmac now audit tenantId provider eventId payload
          currentState).map .ingested id

end PettyFlow.Wallet
