import Mathlib
import PettyFlow.Foundation.Clock
import PettyFlow.Foundation.Dict
import PettyFlow.Foundation.Digest
import PettyFlow.Foundation.Machine
import PettyFlow.Foundation.SortedMap
import PettyFlow.Foundation.Values

/-! The virtual card issuer: cards created once for each idempotency key of a tenant, and
their cancellation.
-/

namespace PettyFlow.Adapters

open Foundation

/-- Free-form annotations. Their order is never observed. -/
abbrev Metadata := SortedMap String String

/-- The error an adapter request raises on invalid arguments, with its text. -/
inductive RequestError where
  | valueError (message : String)
deriving DecidableEq

inductive CardStatus where
  | active
  | inactive
  | cancelled
  | expired
deriving DecidableEq

def CardStatus.value : CardStatus → String
  | .active => "active"
  | .inactive => "inactive"
  | .cancelled => "cancelled"
  | .expired => "expired"

/-- The status that a text names. -/
def CardStatus.ofValue? : String → Option CardStatus :=
  memberOf [.active, .inactive, .cancelled, .expired] value

@[simp] theorem CardStatus.ofValue?_value (status : CardStatus)
    : ofValue? status.value = some status := by
  cases status <;> rfl

inductive CardIssuerBackend where
  | stripe
  | marqeta
  | mock
deriving DecidableEq

def CardIssuerBackend.value : CardIssuerBackend → String
  | .stripe => "stripe"
  | .marqeta => "marqeta"
  | .mock => "mock"

/-- The backend that a text names. -/
def CardIssuerBackend.ofValue? : String → Option CardIssuerBackend :=
  memberOf [.stripe, .marqeta, .mock] value

@[simp] theorem CardIssuerBackend.ofValue?_value (backend : CardIssuerBackend)
    : ofValue? backend.value = some backend := by
  cases backend <;> rfl

/-- A valid request for a card. The name of the cardholder is not passed on to the card. -/
structure VirtualCardRequest where
  tenantId : String
  custodianId : String
  fundId : String
  spendingLimitScaled : Int
  currency : String
  cardholderName : String
  idempotencyKey : String
  metadata : Metadata
  limitPositive : 0 < spendingLimitScaled
  currencyLength : currency.length = 3

/-- Build a request; a missing or empty key is derived from the request's parameters, whose
amount is then one that can be written (`HasDecimal`).
-/
def VirtualCardRequest.new (digests : Digests) (tenantId custodianId fundId : String)
    (spendingLimitScaled : Int) (currency cardholderName : String)
    (idempotencyKey : Option String) (metadata : Metadata)
    : Except RequestError VirtualCardRequest :=
  if limitPositive : 0 < spendingLimitScaled then
    if currencyLength : currency.length = 3 then
      let keyMaterial := s!"{tenantId}:{custodianId}:{fundId}:{spendingLimitScaled}"
      let derived := String.ofList ((hexDigest (digests.sha256 keyMaterial)).take 32)
      .ok {
        tenantId
        custodianId
        fundId
        spendingLimitScaled
        currency
        cardholderName
        idempotencyKey :=
          match idempotencyKey with
          | none | some "" => derived
          | some key => key
        metadata
        limitPositive
        currencyLength
      }
    else
      .error (.valueError s!"currency must be ISO-4217 3-char code, got '{currency}'")
  else
    .error (.valueError s!"spending_limit_scaled must be positive, got {spendingLimitScaled}")

/-- A given key is kept. -/
theorem VirtualCardRequest.new_given {digests : Digests}
    {tenantId custodianId fundId currency cardholderName key : String} {spendingLimitScaled : Int}
    {metadata : Metadata} {request : VirtualCardRequest} (given : key ≠ "")
    (built
      : VirtualCardRequest.new digests tenantId custodianId fundId spendingLimitScaled currency
          cardholderName (some key) metadata
        = .ok request)
    : request.tenantId = tenantId ∧ request.idempotencyKey = key := by
  unfold VirtualCardRequest.new at built
  split at built
  · split at built
    · obtain rfl := Except.ok.inj built
      exact ⟨rfl, by simp⟩
    · cases built
  · cases built

/-- A request is built with its own arguments. -/
theorem VirtualCardRequest.new_fields {digests : Digests}
    {tenantId custodianId fundId currency cardholderName : String} {spendingLimitScaled : Int}
    {idempotencyKey : Option String} {metadata : Metadata} {request : VirtualCardRequest}
    (built
      : VirtualCardRequest.new digests tenantId custodianId fundId spendingLimitScaled currency
          cardholderName idempotencyKey metadata
        = .ok request)
    : request.tenantId = tenantId
      ∧ request.custodianId = custodianId
      ∧ request.fundId = fundId
      ∧ request.spendingLimitScaled = spendingLimitScaled
      ∧ request.currency = currency := by
  unfold VirtualCardRequest.new at built
  split at built
  · split at built
    · obtain rfl := Except.ok.inj built
      exact ⟨rfl, rfl, rfl, rfl, rfl⟩
    · cases built
  · cases built

/-- A request is built when its limit and its currency are valid. -/
theorem VirtualCardRequest.new_isOk_iff (digests : Digests)
    (tenantId custodianId fundId : String) (spendingLimitScaled : Int)
    (currency cardholderName : String) (idempotencyKey : Option String) (metadata : Metadata)
    : (∃ request,
        VirtualCardRequest.new digests tenantId custodianId fundId spendingLimitScaled currency
          cardholderName idempotencyKey metadata
        = .ok request)
      ↔ 0 < spendingLimitScaled ∧ currency.length = 3 := by
  unfold VirtualCardRequest.new
  split
  · split
    · rename_i positive length
      exact iff_of_true ⟨_, rfl⟩ ⟨positive, length⟩
    · rename_i length
      exact iff_of_false nofun (fun valid => length valid.2)
  · rename_i positive
    exact iff_of_false nofun (fun valid => positive valid.1)

structure VirtualCardResult where
  cardId : String
  tenantId : String
  custodianId : String
  fundId : String
  lastFour : String
  cardStatus : CardStatus
  spendingLimitScaled : Int
  currency : String
  idempotencyKey : String
  backend : CardIssuerBackend
  createdAt : String
  expiresAt : String
  metadata : Metadata
deriving DecidableEq

/-- The keys that occur in the table of issued cards: a tenant with an idempotency key, or
an idempotency key alone. A pair is never equal to a text.
-/
inductive IssuedKey where
  | scoped (tenantId idempotencyKey : String)
  | bare (idempotencyKey : String)
deriving DecidableEq

structure CardIssuerAdapter where
  backend : CardIssuerBackend
  issuedCards : Dict IssuedKey VirtualCardResult
  cardsById : Dict String VirtualCardResult
deriving DecidableEq

def CardIssuerAdapter.new (backend : CardIssuerBackend) : CardIssuerAdapter :=
  ⟨backend, .empty, .empty⟩

def cardId (uuid : Uuid) : String := "card_" ++ String.ofList (uuid.digits.take 16)

/-- The masked number of a card: the first four digits of a digest of its identifier, as a
number of at most four decimal digits.
-/
def lastFour (digests : Digests) (cardId : String) : String :=
  zeroPadded 4 (((digests.md5 cardId).toNat / 16 ^ 28) % 10000 : Nat)

namespace CardIssuerAdapter

/-- The card that a new request is answered with. -/
def issue (digests : Digests) (backend : CardIssuerBackend) (draw : Draw)
    (request : VirtualCardRequest)
    : VirtualCardResult :=
  let cardId := cardId draw.uuid
  {
    cardId
    tenantId := request.tenantId
    custodianId := request.custodianId
    fundId := request.fundId
    lastFour := lastFour digests cardId
    cardStatus := .active
    spendingLimitScaled := request.spendingLimitScaled
    currency := request.currency
    idempotencyKey := request.idempotencyKey
    backend
    createdAt := draw.now.isoformat
    expiresAt := (draw.now.addDays 365).yearMonth
    metadata :=
      (request.metadata.insert "tenant_id" request.tenantId).insert "fund_id" request.fundId
  }

/-- Create a card, or return the one issued before under the tenant's key. -/
def createVirtualCard (digests : Digests) (s : CardIssuerAdapter) (draw : Draw)
    (request : VirtualCardRequest)
    : VirtualCardResult × CardIssuerAdapter :=
  match s.issuedCards.get? (.scoped request.tenantId request.idempotencyKey) with
  | some existing => (existing, s)
  | none =>
      let result := issue digests s.backend draw request
      (result,
        {
          s with
          issuedCards :=
            s.issuedCards.set (.scoped request.tenantId request.idempotencyKey) result
          cardsById := s.cardsById.set result.cardId result
        })

/-- Look a card up, for one tenant or for any. -/
def getCard (s : CardIssuerAdapter) (cardId : String) (tenantId : Option String)
    : Option VirtualCardResult :=
  match s.cardsById.get? cardId with
  | none => none
  | some card => if ∃ tenant ∈ tenantId, card.tenantId ≠ tenant then none else some card

/-- Cancel a card; the answer says whether there was one to cancel. -/
def cancelCard (s : CardIssuerAdapter) (cardId : String) (tenantId : Option String)
    : Bool × CardIssuerAdapter :=
  match s.cardsById.get? cardId with
  | none => (false, s)
  | some card =>
      if ∃ tenant ∈ tenantId, card.tenantId ≠ tenant then
        (false, s)
      else
        let cancelled := { card with cardStatus := .cancelled }
        (true,
          {
            s with
            cardsById := s.cardsById.set cardId cancelled
            -- The cancelled card is filed under its key alone, without the tenant
            issuedCards := s.issuedCards.set (.bare card.idempotencyKey) cancelled
          })

end CardIssuerAdapter

inductive CardCall where
  | createVirtualCard (draw : Draw) (request : VirtualCardRequest)
  | cancelCard (cardId : String) (tenantId : Option String)

inductive CardAnswer where
  | card (result : VirtualCardResult)
  | cancelled (done : Bool)
deriving DecidableEq

def cardStep (digests : Digests) (s : CardIssuerAdapter)
    : CardCall → CardAnswer × CardIssuerAdapter
  | .createVirtualCard draw request =>
      (s.createVirtualCard digests draw request).map .card id
  | .cancelCard cardId tenantId => (s.cancelCard cardId tenantId).map .cancelled id

def cardMachine (digests : Digests) : Machine CardIssuerAdapter CardCall CardAnswer :=
  ⟨cardStep digests⟩

end PettyFlow.Adapters
