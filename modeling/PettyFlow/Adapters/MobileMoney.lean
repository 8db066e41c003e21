import PettyFlow.Adapters.CardIssuer
import PettyFlow.Foundation.Casing

/-! Mobile money and bank disbursements, made once for each idempotency key of a tenant. -/

namespace PettyFlow.Adapters

open Foundation

inductive MobileMoneyBackend where
  | mPesa
  | ach
  | venmo
  | mock
deriving DecidableEq

def MobileMoneyBackend.value : MobileMoneyBackend → String
  | .mPesa => "mpesa"
  | .ach => "ach"
  | .venmo => "venmo"
  | .mock => "mock"

/-- The backend that a text names. -/
def MobileMoneyBackend.ofValue? : String → Option MobileMoneyBackend :=
  memberOf [.mPesa, .ach, .venmo, .mock] value

@[simp] theorem MobileMoneyBackend.ofValue?_value (backend : MobileMoneyBackend)
    : ofValue? backend.value = some backend := by
  cases backend <;> rfl

inductive DisbursementStatus where
  | pending
  | processing
  | completed
  | failed
  | reversed
deriving DecidableEq

def DisbursementStatus.value : DisbursementStatus → String
  | .pending => "pending"
  | .processing => "processing"
  | .completed => "completed"
  | .failed => "failed"
  | .reversed => "reversed"

/-- The status that a text names. -/
def DisbursementStatus.ofValue? : String → Option DisbursementStatus :=
  memberOf [.pending, .processing, .completed, .failed, .reversed] value

@[simp] theorem DisbursementStatus.ofValue?_value (status : DisbursementStatus)
    : ofValue? status.value = some status := by
  cases status <;> rfl

/-- A valid request for a disbursement. The description is not passed on to the result. -/
structure DisbursementRequest where
  tenantId : String
  custodianId : String
  fundId : String
  recipientPhoneOrAccount : String
  amountScaled : Int
  currency : String
  description : String
  idempotencyKey : String
  metadata : Metadata
  amountPositive : 0 < amountScaled
  currencyLength : currency.length = 3
  recipientGiven : recipientPhoneOrAccount ≠ ""

/-- Build a request; a missing or empty key is derived from the request's parameters, whose
amount is then one that can be written (`HasDecimal`).
-/
def DisbursementRequest.new (digests : Digests)
    (tenantId custodianId fundId recipientPhoneOrAccount : String) (amountScaled : Int)
    (currency description : String) (idempotencyKey : Option String) (metadata : Metadata)
    : Except RequestError DisbursementRequest :=
  if amountPositive : 0 < amountScaled then
    if currencyLength : currency.length = 3 then
      if recipientGiven : recipientPhoneOrAccount ≠ "" then
        let keyMaterial :=
          s!"{tenantId}:{custodianId}:{fundId}:{recipientPhoneOrAccount}:{amountScaled}"
        let derived := String.ofList ((hexDigest (digests.sha256 keyMaterial)).take 32)
        .ok {
          tenantId
          custodianId
          fundId
          recipientPhoneOrAccount
          amountScaled
          currency
          description
          idempotencyKey :=
            match idempotencyKey with
            | none | some "" => derived
            | some key => key
          metadata
          amountPositive
          currencyLength
          recipientGiven
        }
      else
        .error (.valueError "recipient_phone_or_account cannot be empty")
    else
      .error (.valueError s!"currency must be ISO-4217 3-char code, got '{currency}'")
  else
    .error (.valueError s!"amount_scaled must be positive, got {amountScaled}")

/-- A given key is kept. -/
theorem DisbursementRequest.new_given {digests : Digests}
    {tenantId custodianId fundId recipientPhoneOrAccount currency description key : String}
    {amountScaled : Int} {metadata : Metadata} {request : DisbursementRequest} (given : key ≠ "")
    (built
      : DisbursementRequest.new digests tenantId custodianId fundId recipientPhoneOrAccount
          amountScaled currency description (some key) metadata
        = .ok request)
    : request.tenantId = tenantId ∧ request.idempotencyKey = key := by
  unfold DisbursementRequest.new at built
  split at built
  · split at built
    · split at built
      · obtain rfl := Except.ok.inj built
        exact ⟨rfl, by simp⟩
      · cases built
    · cases built
  · cases built

/-- A request is built with its own arguments. -/
theorem DisbursementRequest.new_fields {digests : Digests}
    {tenantId custodianId fundId recipientPhoneOrAccount currency description : String}
    {amountScaled : Int} {idempotencyKey : Option String} {metadata : Metadata}
    {request : DisbursementRequest}
    (built
      : DisbursementRequest.new digests tenantId custodianId fundId recipientPhoneOrAccount
          amountScaled currency description idempotencyKey metadata
        = .ok request)
    : request.tenantId = tenantId
      ∧ request.custodianId = custodianId
      ∧ request.fundId = fundId
      ∧ request.recipientPhoneOrAccount = recipientPhoneOrAccount
      ∧ request.amountScaled = amountScaled
      ∧ request.currency = currency := by
  unfold DisbursementRequest.new at built
  split at built
  · split at built
    · split at built
      · obtain rfl := Except.ok.inj built
        exact ⟨rfl, rfl, rfl, rfl, rfl, rfl⟩
      · cases built
    · cases built
  · cases built

/-- A request is built when its amount, its currency and its recipient are valid. -/
theorem DisbursementRequest.new_isOk_iff (digests : Digests)
    (tenantId custodianId fundId recipientPhoneOrAccount : String) (amountScaled : Int)
    (currency description : String) (idempotencyKey : Option String) (metadata : Metadata)
    : (∃ request,
        DisbursementRequest.new digests tenantId custodianId fundId recipientPhoneOrAccount
          amountScaled currency description idempotencyKey metadata
        = .ok request)
      ↔ 0 < amountScaled ∧ currency.length = 3 ∧ recipientPhoneOrAccount ≠ "" := by
  unfold DisbursementRequest.new
  split
  · split
    · split
      · rename_i positive length given
        exact iff_of_true ⟨_, rfl⟩ ⟨positive, length, given⟩
      · rename_i missing
        exact iff_of_false nofun (fun valid => missing valid.2.2)
    · rename_i length
      exact iff_of_false nofun (fun valid => length valid.2.1)
  · rename_i positive
    exact iff_of_false nofun (fun valid => positive valid.1)

structure DisbursementResult where
  disbursementId : String
  tenantId : String
  custodianId : String
  fundId : String
  recipientPhoneOrAccount : String
  amountScaled : Int
  currency : String
  status : DisbursementStatus
  backend : MobileMoneyBackend
  idempotencyKey : String
  referenceNumber : String
  initiatedAt : String
  completedAt : Option String
  failureReason : Option String
  metadata : Metadata
deriving DecidableEq

structure MobileMoneyAdapter where
  backend : MobileMoneyBackend
  simulateFailure : Bool
  disbursements : Dict (String × String) DisbursementResult
  byId : Dict String DisbursementResult
deriving DecidableEq

def disbursementId (uuid : Uuid) : String := "disb_" ++ String.ofList (uuid.digits.take 16)

def referenceNumber (digests : Digests) (disbursementId : String) : String :=
  "REF-" ++ upper (String.ofList ((hexDigest (digests.md5 disbursementId)).take 8))

namespace MobileMoneyAdapter

def new (backend : MobileMoneyBackend) (simulateFailure : Bool) : MobileMoneyAdapter :=
  ⟨backend, simulateFailure, .empty, .empty⟩

/-- The result that a new request is answered with. A simulated failure is recorded like a
success, but completes nothing.
-/
def initiate (digests : Digests) (backend : MobileMoneyBackend) (simulateFailure : Bool)
    (draw : Draw) (request : DisbursementRequest)
    : DisbursementResult :=
  let disbursementId := disbursementId draw.uuid
  {
    disbursementId
    tenantId := request.tenantId
    custodianId := request.custodianId
    fundId := request.fundId
    recipientPhoneOrAccount := request.recipientPhoneOrAccount
    amountScaled := request.amountScaled
    currency := request.currency
    status := if simulateFailure then .failed else .completed
    backend
    idempotencyKey := request.idempotencyKey
    referenceNumber := referenceNumber digests disbursementId
    initiatedAt := draw.now.isoformat
    completedAt := if simulateFailure then none else some draw.now.isoformat
    failureReason := if simulateFailure then some "Simulated provider failure" else none
    metadata :=
      if simulateFailure then
        request.metadata
      else
        (request.metadata.insert "tenant_id" request.tenantId).insert "fund_id" request.fundId
  }

/-- Make a disbursement, or return the one made before under the tenant's key. -/
def disburse (digests : Digests) (s : MobileMoneyAdapter) (draw : Draw)
    (request : DisbursementRequest)
    : DisbursementResult × MobileMoneyAdapter :=
  match s.disbursements.get? (request.tenantId, request.idempotencyKey) with
  | some existing => (existing, s)
  | none =>
      let result := initiate digests s.backend s.simulateFailure draw request
      (result,
        {
          s with
          disbursements :=
            s.disbursements.set (request.tenantId, request.idempotencyKey) result
          byId := s.byId.set result.disbursementId result
        })

/-- Look a disbursement up, for one tenant or for any. -/
def getDisbursementStatus (s : MobileMoneyAdapter) (disbursementId : String)
    (tenantId : Option String)
    : Option DisbursementResult :=
  match s.byId.get? disbursementId with
  | none => none
  | some result => if ∃ tenant ∈ tenantId, result.tenantId ≠ tenant then none else some result

end MobileMoneyAdapter

end PettyFlow.Adapters
