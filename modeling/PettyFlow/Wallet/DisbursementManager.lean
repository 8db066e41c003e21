import PettyFlow.Audit.TamperLog
import PettyFlow.Idempotency.Store
import PettyFlow.Wallet.Disbursement
import PettyFlow.Wallet.Settlement

/-! The disbursement manager: it reserves the key of a request, pays through one of two
adapters, and completes or abandons the reservation; and it takes in the settlement events
of providers.
-/

namespace PettyFlow.Wallet

open Foundation Adapters Audit Idempotency

/-- What a payment raises: an invalid request, or the fault of an adapter. -/
inductive PaymentError where
  | valueError (message : String)
  | provider (message : String)
deriving DecidableEq

def PaymentError.message : PaymentError → String
  | valueError message => message
  | provider message => message

/-- The exceptions of the manager, by class or origin, with their texts or the value at
fault.
-/
inductive ManagerError where
  | store (error : StoreError)
  | payment (error : PaymentError)
  | idempotencyInProgress (message : String)
  | valueError (message : String)
  | recursionError (message : String)
  | overflowError (message : String)
  | undecodable (text : String)
  | typeError (message : String)
  | keyError (name : String)
  | notASettlementState (value : Json)
  | settlementTransition (error : SettlementTransitionError)

/-- What the workers of all managers share. -/
structure Backends where
  store : SQLiteIdempotencyStore
  cardIssuer : CardIssuerAdapter
  mobileAdapter : MobileMoneyAdapter

namespace FloatDisbursementRequest

def recordKey (request : FloatDisbursementRequest) : RecordKey :=
  (request.tenantId, request.idempotencyKey)

def payload (request : FloatDisbursementRequest) : Json :=
  .obj [
    ("tenant_id", .str request.tenantId),
    ("custodian_id", .str request.custodianId),
    ("fund_id", .str request.fundId),
    ("amount_scaled", .int request.amountScaled),
    ("channel", .str request.channel.value),
    ("currency", .str request.currency),
    ("recipient_address", .str request.recipientAddress),
    ("cardholder_name", .str request.cardholderName),
    ("description", .str request.description),
    ("metadata", .ofTexts request.metadata)
  ]

/-- The request can be written, so that it has a fingerprint. -/
def Printable (request : FloatDisbursementRequest) : Prop := HasDecimal request.amountScaled

instance (request : FloatDisbursementRequest) : Decidable request.Printable :=
  inferInstanceAs (Decidable (HasDecimal _))

/-- The fingerprint of a request that can be written. -/
def fingerprint (digests : Digests) (request : FloatDisbursementRequest) : String :=
  payloadDigest digests request.payload

theorem payload_printable_iff (request : FloatDisbursementRequest)
    : request.payload.printable = true ↔ request.Printable := by
  simp [payload, Printable]

theorem fingerprint_payload (digests : Digests) {request : FloatDisbursementRequest}
    (printable : request.Printable)
    : Idempotency.fingerprint digests request.payload = some (request.fingerprint digests) :=
  fingerprint_of_printable digests ((payload_printable_iff request).mpr printable)

theorem fingerprint_unprintable (digests : Digests) {request : FloatDisbursementRequest}
    (unprintable : ¬ request.Printable)
    : Idempotency.fingerprint digests request.payload = none :=
  fingerprint_of_unprintable digests (mt (payload_printable_iff request).mp unprintable)

end FloatDisbursementRequest

/-- What a payment takes from its surroundings. A fault is raised by the adapter before it
records anything.
-/
structure PaymentDraw where
  disbursement : Uuid
  startedAt : Instant
  adapter : Draw
  fault : Option String
deriving DecidableEq

def floatDisbursementId (uuid : Uuid) : String := "fdisb_" ++ String.ofList (uuid.digits.take 16)

namespace Backends

def disburseViaCard (digests : Digests) (s : Backends) (draw : PaymentDraw)
    (request : FloatDisbursementRequest)
    : Except PaymentError FloatDisbursementResult × Backends :=
  attempt s
    (do
      let cardRequest ←
        (VirtualCardRequest.new digests request.tenantId request.custodianId request.fundId
          request.amountScaled request.currency request.cardholderName
          (some request.idempotencyKey) request.metadata).mapError
          (fun (.valueError message) => PaymentError.valueError message)
      match draw.fault with
      | some message => .error (.provider message)
      | none => .ok cardRequest)
    (fun cardRequest =>
      let (card, cardIssuer) := s.cardIssuer.createVirtualCard digests draw.adapter cardRequest
      ({
          disbursementId := floatDisbursementId draw.disbursement
          tenantId := request.tenantId
          custodianId := request.custodianId
          fundId := request.fundId
          channel := .virtualCard
          amountScaled := request.amountScaled
          currency := request.currency
          status := "completed"
          idempotencyKey := request.idempotencyKey
          virtualCard := some card
          mobileDisbursement := none
          initiatedAt := draw.startedAt.isoformat
          completedAt := some draw.startedAt.isoformat
          failureReason := none
        },
        { s with cardIssuer }))

def disburseViaMobile (digests : Digests) (s : Backends) (draw : PaymentDraw)
    (request : FloatDisbursementRequest)
    : Except PaymentError FloatDisbursementResult × Backends :=
  attempt s
    (do
      let mobileRequest ←
        (DisbursementRequest.new digests request.tenantId request.custodianId request.fundId
          request.recipientAddress request.amountScaled request.currency request.description
          (some request.idempotencyKey) request.metadata).mapError
          (fun (.valueError message) => PaymentError.valueError message)
      match draw.fault with
      | some message => .error (.provider message)
      | none => .ok mobileRequest)
    (fun mobileRequest =>
      let (mobile, mobileAdapter) := s.mobileAdapter.disburse digests draw.adapter mobileRequest
      ({
          disbursementId := floatDisbursementId draw.disbursement
          tenantId := request.tenantId
          custodianId := request.custodianId
          fundId := request.fundId
          channel := request.channel
          amountScaled := request.amountScaled
          currency := request.currency
          status := mobile.status.value
          idempotencyKey := request.idempotencyKey
          virtualCard := none
          mobileDisbursement := some mobile
          initiatedAt := draw.startedAt.isoformat
          completedAt := mobile.completedAt
          failureReason := mobile.failureReason
        },
        { s with mobileAdapter }))

/-- Pay through the adapter of the request's channel. -/
def pay (digests : Digests) (s : Backends) (draw : PaymentDraw)
    (request : FloatDisbursementRequest)
    : Except PaymentError FloatDisbursementResult × Backends :=
  match request.channel with
  | .virtualCard => s.disburseViaCard digests draw request
  | .mobileMoney | .ach => s.disburseViaMobile digests draw request

end Backends

structure DisbursementManager where
  backends : Backends
  idempotencyTtlSeconds : Int
  auditLogger : WORMAuditLogger
  results : Dict RecordKey (FloatDisbursementResult × Instant)
  auditTrail : List FloatDisbursementResult
  ttlPositive : 0 < idempotencyTtlSeconds

/-- What a disbursement takes from its surroundings: the clock of the store, the payment,
the time at which the result is filed, and the entry of the audit log.
-/
structure DisburseDraw where
  storeTime : Int
  payment : PaymentDraw
  filedAt : Instant
  audit : Draw
deriving DecidableEq

namespace DisbursementManager

def log (hmac : Bytes → Bytes → Bytes) (s : DisbursementManager) (draw : Draw)
    (tenantId eventType : String) (payload : List (String × Json))
    : DisbursementManager :=
  {
    s with
    auditLogger :=
      (s.auditLogger.appendEvent hmac draw tenantId eventType "system" (.obj payload)).2
  }

/-- Keep a result for the time that it lives, and for the tenant's records. An end of that time
beyond the calendar raises, and keeps nothing.
-/
def recordIdempotentResult (s : DisbursementManager) (now : Instant)
    (request : FloatDisbursementRequest) (result : FloatDisbursementResult)
    : Except ManagerError DisbursementManager :=
  match now.addSeconds s.idempotencyTtlSeconds with
  | .error message => .error (.overflowError message)
  | .ok expiresAt =>
      .ok {
        s with
        results := s.results.set request.recordKey (result, expiresAt)
        auditTrail := s.auditTrail ++ [result]
      }

def getAuditTrail (s : DisbursementManager) (tenantId : String) : List FloatDisbursementResult :=
  s.auditTrail.filter (fun result => result.tenantId = tenantId)

def withStore (s : DisbursementManager) (store : SQLiteIdempotencyStore) : DisbursementManager :=
  { s with backends := { s.backends with store } }

/-- Answer a call whose key has a record already. -/
def reuse (hmac : Bytes → Bytes → Bytes) (s : DisbursementManager) (draw : Draw)
    (request : FloatDisbursementRequest) (stored : StoredIdempotencyResult)
    : Except ManagerError FloatDisbursementResult × DisbursementManager :=
  if stored.status = .inProgress then
    (.error (.idempotencyInProgress
        "disbursement for this idempotency key is already in progress"),
      s)
  else
    (orRaise (resultOfText stored.resultJson) (.undecodable stored.resultJson),
      s.log hmac draw request.tenantId "DISBURSEMENT_RESULT_REUSED"
        [("idempotency_key", .str request.idempotencyKey)])

/-- Complete the reservation of a payment. An amount that cannot be written raises before
that, and leaves the reservation; what is raised where the result is filed leaves the
completed record.
-/
def finish (hmac : Bytes → Bytes → Bytes) (s : DisbursementManager) (draw : DisburseDraw)
    (request : FloatDisbursementRequest) (requestFingerprint : String)
    (result : FloatDisbursementResult)
    : Except ManagerError FloatDisbursementResult × DisbursementManager :=
  match resultText result with
  | none => (.error (.overflowError "int too large to convert to float"), s)
  | some text =>
      match s.backends.store.complete request.tenantId request.idempotencyKey requestFingerprint
          text with
      | (.error error, store) => (.error (.store error), s.withStore store)
      | (.ok _, store) =>
          match (s.withStore store).recordIdempotentResult draw.filedAt request result with
          | .error error => (.error error, s.withStore store)
          | .ok s =>
              (.ok result,
                s.log hmac draw.audit request.tenantId "DISBURSEMENT_CANONICAL_RESULT"
                  [
                    ("idempotency_key", .str request.idempotencyKey),
                    ("disbursement_id", .str result.disbursementId),
                    ("status", .str result.status)
                  ])

/-- Route a disbursement through its channel, once for each key of a tenant. -/
def disburseAs (digests : Digests) (hmac : Bytes → Bytes → Bytes) (s : DisbursementManager)
    (draw : DisburseDraw) (request : FloatDisbursementRequest) (requestFingerprint : String)
    : Except ManagerError FloatDisbursementResult × DisbursementManager :=
  match s.backends.store.getOrReserve draw.storeTime request.tenantId request.idempotencyKey
      requestFingerprint none with
  | (.error error, store) =>
      (.error (.store error),
        (s.withStore store).log hmac draw.audit request.tenantId
          "DISBURSEMENT_IDEMPOTENCY_CONFLICT"
          [("idempotency_key", .str request.idempotencyKey), ("error", .str error.message)])
  | (.ok (some stored), store) => (s.withStore store).reuse hmac draw.audit request stored
  | (.ok none, store) =>
      let s := s.withStore store
      match s.backends.pay digests draw.payment request with
      | (.ok result, backends) =>
          { s with backends }.finish hmac draw request requestFingerprint result
      | (.error error, backends) =>
          let store :=
            backends.store.abandon request.tenantId request.idempotencyKey requestFingerprint
          (.error (.payment error),
            ({ s with backends }.withStore store).log hmac draw.audit request.tenantId
              "DISBURSEMENT_DOWNSTREAM_FAILURE"
              [("idempotency_key", .str request.idempotencyKey), ("error", .str error.message)])

/-- Route a disbursement. A request without a fingerprint raises before anything is done. -/
def disburseFloat (digests : Digests) (hmac : Bytes → Bytes → Bytes) (s : DisbursementManager)
    (draw : DisburseDraw) (request : FloatDisbursementRequest)
    : Except ManagerError FloatDisbursementResult × DisbursementManager :=
  match Idempotency.fingerprint digests request.payload with
  | none => (.error (.valueError tooLargeToWrite), s)
  | some requestFingerprint => s.disburseAs digests hmac draw request requestFingerprint

section Fingerprint

variable (digests : Digests) (hmac : Bytes → Bytes → Bytes) (s : DisbursementManager)
  (draw : DisburseDraw) {request : FloatDisbursementRequest}

theorem disburseFloat_printable (printable : request.Printable)
    : s.disburseFloat digests hmac draw request
      = s.disburseAs digests hmac draw request (request.fingerprint digests) := by
  rw [disburseFloat, request.fingerprint_payload digests printable]

theorem disburseFloat_unprintable (unprintable : ¬ request.Printable)
    : s.disburseFloat digests hmac draw request = (.error (.valueError tooLargeToWrite), s) := by
  rw [disburseFloat, request.fingerprint_unprintable digests unprintable]

end Fingerprint

end DisbursementManager

end PettyFlow.Wallet
