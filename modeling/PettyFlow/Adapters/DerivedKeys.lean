import PettyFlow.Adapters.CardIndexes
import PettyFlow.Adapters.MobileMoney
import PettyFlow.Adapters.ReplayIsolation
import PettyFlow.Foundation.Bytes
import PettyFlow.Foundation.RecordMakers
import PettyFlow.Foundation.Separators

/-! Requests without an idempotency key get one from a text of some of their fields. When two of
them get the same key, and what the adapters answer them with.
-/

namespace PettyFlow.Adapters

open Foundation

/-- The fields of a request by which its payment is told from others: the names that its key is
made of, the amount, the currency, and for a transfer the account of the beneficiary.
-/
@[ext] structure RequestTerms where
  names : List String
  amountScaled : Int
  currency : String
  beneficiaryAccount : Option BankAccount
deriving DecidableEq

namespace RequestTerms

/-- The names, joined with a colon. -/
def joinedNames (terms : RequestTerms) : String := ":".intercalate terms.names

/-- The text that a key is derived from. -/
def text (terms : RequestTerms) : String := terms.joinedNames ++ ":" ++ toString terms.amountScaled

/-- The terms are told from others by what a key is derived from: where the joined names and the
amounts are the same, all else is the same too.
-/
def ToldFrom (terms other : RequestTerms) : Prop :=
  terms.joinedNames = other.joinedNames
  → terms.amountScaled = other.amountScaled
  → terms.names = other.names
    ∧ terms.currency = other.currency
    ∧ terms.beneficiaryAccount = other.beneficiaryAccount

/-- An amount is written without a colon, so the last colon of the text ends the names. -/
theorem text_eq_iff (terms other : RequestTerms)
    : terms.text = other.text
      ↔ terms.joinedNames = other.joinedNames ∧ terms.amountScaled = other.amountScaled := by
  have clean (amount : Int) : ':' ∉ (toString amount).toList := by
    intro member
    rcases mem_repr member with digit | sign
    · cases digit
    · cases sign
  constructor
  · intro same
    have chars
        : terms.joinedNames.toList ++ ':' :: (toString terms.amountScaled).toList
          = other.joinedNames.toList ++ ':' :: (toString other.amountScaled).toList := by
      simpa [text] using congrArg String.toList same
    obtain ⟨names, amounts⟩ := split_last (clean _) (clean _) chars
    exact ⟨String.toList_inj.mp names, Int.repr_injective (String.toList_inj.mp amounts)⟩
  · rintro ⟨names, amounts⟩
    rw [text, text, names, amounts]

end RequestTerms

/-- The key that is derived from a text: the first digits of its SHA-256. -/
def derivedKey (digests : Digests) (keyMaterial : String) : String :=
  String.ofList ((hexDigest (digests.sha256 keyMaterial)).take 32)

/-- A class of requests that get a derived key when they are built without one. -/
structure RequestClass (ι : Type) where
  terms : ι → RequestTerms
  keyMaterial : ι → String
  idempotencyKey : ι → String
  /-- The request has been built without a key. -/
  WithoutKey : Digests → ι → Prop
  keyMaterial_eq : ∀ request, keyMaterial request = (terms request).text
  withoutKey_iff
    : ∀ digests request,
        WithoutKey digests request
        ↔ idempotencyKey request = derivedKey digests (keyMaterial request)

/-- Two requests built without a key agree whenever they get the same key, exactly when their
terms are told apart by the joined names and the amount.
-/
theorem RequestClass.agree_iff {ι : Type} (c : RequestClass ι) {digests : Digests}
    {request other : ι} (built : c.WithoutKey digests request)
    (builtOther : c.WithoutKey digests other)
    (apart
      : derivedKey digests (c.keyMaterial request) = derivedKey digests (c.keyMaterial other)
        → c.keyMaterial request = c.keyMaterial other)
    : (c.idempotencyKey request = c.idempotencyKey other → c.terms request = c.terms other)
      ↔ (c.terms request).ToldFrom (c.terms other) := by
  have keys
      : c.idempotencyKey request = c.idempotencyKey other
        ↔ (c.terms request).joinedNames = (c.terms other).joinedNames
          ∧ (c.terms request).amountScaled = (c.terms other).amountScaled := by
    rw [← RequestTerms.text_eq_iff, ← c.keyMaterial_eq, ← c.keyMaterial_eq,
      (c.withoutKey_iff digests request).mp built, (c.withoutKey_iff digests other).mp builtOther]
    exact ⟨apart, congrArg (derivedKey digests)⟩
  rw [keys]
  constructor
  · intro agree names amounts
    rw [agree ⟨names, amounts⟩]
    exact ⟨rfl, rfl, rfl⟩
  · -- The text holds the names and the amount, so only the other terms can differ
    rintro told ⟨joined, amounts⟩
    obtain ⟨names, currencies, accounts⟩ := told joined amounts
    exact RequestTerms.ext names amounts currencies accounts

section Requests

/-- The request is what is built from its fields without a key. -/
def VirtualCardRequest.WithoutKey (digests : Digests) (request : VirtualCardRequest) : Prop :=
  VirtualCardRequest.new digests request.tenantId request.custodianId request.fundId
      request.spendingLimitScaled request.currency request.cardholderName none request.metadata
    = .ok request

/-- The request is what is built from its fields without a key. -/
def DisbursementRequest.WithoutKey (digests : Digests) (request : DisbursementRequest) : Prop :=
  DisbursementRequest.new digests request.tenantId request.custodianId request.fundId
      request.recipientPhoneOrAccount request.amountScaled request.currency request.description
      none request.metadata
    = .ok request

/-- The request is what is built from its fields without a key. -/
def ACHTransferRequest.WithoutKey (digests : Digests) (request : ACHTransferRequest) : Prop :=
  ACHTransferRequest.new digests request.tenantId request.referenceDocument
      request.initiatingAccount request.beneficiaryAccount request.amountScaled request.currency
      request.serviceLevel request.purpose none
    = .ok request

/-- The key of a card does not depend on the currency. -/
def cardRequests : RequestClass VirtualCardRequest where
  terms request :=
    ⟨[request.tenantId, request.custodianId, request.fundId], request.spendingLimitScaled,
      request.currency, none⟩
  keyMaterial request :=
    s!"{request.tenantId}:{request.custodianId}:{request.fundId}:{request.spendingLimitScaled}"
  idempotencyKey request := request.idempotencyKey
  WithoutKey := VirtualCardRequest.WithoutKey
  keyMaterial_eq _ := rfl
  withoutKey_iff digests request := by
    rw [VirtualCardRequest.WithoutKey, VirtualCardRequest.new, dif_pos request.limitPositive,
      dif_pos request.currencyLength]
    constructor
    · intro built
      exact (congrArg VirtualCardRequest.idempotencyKey (Except.ok.inj built)).symm
    · intro key
      cases request
      dsimp only at key
      rw [key]
      rfl

/-- The key of a disbursement does not depend on the currency. -/
def disbursementRequests : RequestClass DisbursementRequest where
  terms request :=
    ⟨[request.tenantId, request.custodianId, request.fundId, request.recipientPhoneOrAccount],
      request.amountScaled, request.currency, none⟩
  keyMaterial
    | { tenantId, custodianId, fundId, recipientPhoneOrAccount, amountScaled, .. } =>
        s!"{tenantId}:{custodianId}:{fundId}:{recipientPhoneOrAccount}:{amountScaled}"
  idempotencyKey request := request.idempotencyKey
  WithoutKey := DisbursementRequest.WithoutKey
  keyMaterial_eq _ := rfl
  withoutKey_iff digests request := by
    rw [DisbursementRequest.WithoutKey, DisbursementRequest.new, dif_pos request.amountPositive,
      dif_pos request.currencyLength, dif_pos request.recipientGiven]
    constructor
    · intro built
      exact (congrArg DisbursementRequest.idempotencyKey (Except.ok.inj built)).symm
    · intro key
      cases request
      dsimp only at key
      rw [key]
      rfl

/-- The key of a transfer depends neither on the currency nor on the beneficiary. -/
def transferRequests : RequestClass ACHTransferRequest where
  terms request :=
    ⟨[request.tenantId, request.referenceDocument], request.amountScaled, request.currency,
      some request.beneficiaryAccount⟩
  keyMaterial request :=
    s!"{request.tenantId}:{request.referenceDocument}:{request.amountScaled}"
  idempotencyKey request := request.idempotencyKey
  WithoutKey := ACHTransferRequest.WithoutKey
  keyMaterial_eq _ := rfl
  withoutKey_iff digests request := by
    rw [ACHTransferRequest.WithoutKey, ACHTransferRequest.new, dif_pos request.amountPositive]
    constructor
    · intro built
      exact (congrArg ACHTransferRequest.idempotencyKey (Except.ok.inj built)).symm
    · intro key
      cases request
      dsimp only at key
      rw [key]
      rfl

end Requests

section Replays

variable (digests : Digests)

namespace CardCall

def key? : CardCall → Option (String × String)
  | createVirtualCard _ request => some (request.tenantId, request.idempotencyKey)
  | cancelCard _ _ => none

/-- What a call asks for, if it asks for a card. -/
def terms? : CardCall → Option RequestTerms
  | createVirtualCard _ request => some (cardRequests.terms request)
  | cancelCard _ _ => none

end CardCall

/-- The card that was issued under a tenant's key. -/
def CardIssuerAdapter.issued? (s : CardIssuerAdapter) (key : String × String)
    : Option VirtualCardResult :=
  s.issuedCards.get? (.scoped key.1 key.2)

/-- A cancelled card is filed anew, but under no tenant's key. -/
theorem CardIssuerAdapter.issued?_cancelCard (s : CardIssuerAdapter) (cardId : String)
    (tenantId : Option String) (key : String × String)
    : (s.cancelCard cardId tenantId).2.issued? key = s.issued? key := by
  unfold CardIssuerAdapter.cancelCard
  split
  · rfl
  · split
    · rfl
    · exact Dict.get?_set_ne _ _ nofun

/-- The card issuer as a replay cache; a cancellation looks no key up. -/
def cardReplays
    : ReplayCache (cardMachine digests) (String × String) (Option String) VirtualCardResult where
  key := CardCall.key?
  tenant
    | .createVirtualCard _ request => some request.tenantId
    | .cancelCard _ tenantId => tenantId
  record := CardIssuerAdapter.issued?
  owner card := some card.tenantId
  returned
    | .card result => some result
    | .cancelled _ => none
  outcome event :=
    match event.input, event.input.key?.bind event.before.issued? with
    | .createVirtualCard _ _, none => .posted
    | _, _ => .answered
  alone
    | .createVirtualCard _ _ => .posted
    | .cancelCard _ _ => .answered
  hit_returned s call key card looked found := by
    cases call with
    | cancelCard cardId tenantId => cases looked
    | createVirtualCard draw request =>
        obtain rfl := Option.some.inj looked
        simp only [cardMachine, cardStep,
          CardIssuerAdapter.createVirtualCard_replay digests draw found, Prod.map_fst]
  hit_outcome s call key card looked found := by
    simp only [Machine.event, looked, Option.bind_some, found]
  hit_record s call key card looked found other := by
    cases call with
    | cancelCard cardId tenantId => cases looked
    | createVirtualCard draw request =>
        obtain rfl := Option.some.inj looked
        simp only [cardMachine, cardStep,
          CardIssuerAdapter.createVirtualCard_replay digests draw found, Prod.map_snd, id_eq]
  miss_outcome s call missed := by
    cases call with
    | cancelCard cardId tenantId => rfl
    | createVirtualCard draw request =>
        simp only [Machine.event, CardCall.key?, Option.bind_some, missed _ rfl]
  miss_owner s call missed card returned := by
    cases call with
    | cancelCard cardId tenantId => cases returned
    | createVirtualCard draw request =>
        simp only [cardMachine, cardStep,
          CardIssuerAdapter.createVirtualCard_issue digests draw (missed _ rfl),
          Prod.map_fst] at returned
        obtain rfl := Option.some.inj returned
        rfl
  miss_filed s call missed posted key looked := by
    cases call with
    | cancelCard cardId tenantId => cases posted
    | createVirtualCard draw request =>
        obtain rfl := Option.some.inj looked
        simp only [cardMachine, cardStep,
          CardIssuerAdapter.createVirtualCard_issue digests draw (missed _ rfl), Prod.map_fst,
          Prod.map_snd, id_eq]
        exact ⟨_, rfl, Dict.get?_set_self _ _ _⟩
  miss_record s call missed other unfiled := by
    cases call with
    | cancelCard cardId tenantId => exact s.issued?_cancelCard cardId tenantId other
    | createVirtualCard draw request =>
        simp only [cardMachine, cardStep,
          CardIssuerAdapter.createVirtualCard_issue digests draw (missed _ rfl), Prod.map_snd,
          id_eq]
        -- Scoped keys are the same only when tenant and key are
        refine Dict.get?_set_ne _ _ fun same => unfiled rfl ?_
        obtain ⟨tenant, key⟩ := IssuedKey.scoped.inj same
        exact congrArg some (Prod.ext tenant key)

/-- A card tells its tenant and its key. -/
theorem cardReplays_tellsKey
    : (cardReplays digests).TellsKey (fun card => (card.tenantId, card.idempotencyKey)) := by
  intro s call missed card returned
  cases call with
  | cancelCard cardId tenantId => cases returned
  | createVirtualCard draw request =>
      simp only [cardReplays, cardMachine, cardStep,
        CardIssuerAdapter.createVirtualCard_issue digests draw (missed _ rfl),
        Prod.map_fst] at returned
      obtain rfl := Option.some.inj returned
      exact ⟨rfl, rfl⟩

structure DisburseCall where
  draw : Draw
  request : DisbursementRequest

/-- Disbursements as a posting service; a failed one is recorded like the others. -/
def mobilePosting
    : Posting MobileMoneyAdapter DisburseCall RequestError (String × String) String
        DisbursementResult where
  checks _ := .ok ()
  key call := some (call.request.tenantId, call.request.idempotencyKey)
  tenant call := call.request.tenantId
  records s := s.disbursements
  owner result := result.tenantId
  count s := s.disbursements.entries.length
  post s call :=
    let result :=
      MobileMoneyAdapter.initiate digests s.backend s.simulateFailure call.draw call.request
    .ok (result,
      {
        s with
        disbursements :=
          s.disbursements.set (call.request.tenantId, call.request.idempotencyKey) result
        byId := s.byId.set result.disbursementId result
      })
  succeeds _ := true
  post_raised := nofun
  post_ok _ _ _ := ⟨_, _, rfl⟩
  post_owner := by
    rintro s call _ _ ⟨⟩
    rfl
  post_records := by
    rintro s call _ _ ⟨⟩
    rfl
  post_count := by
    rintro s call _ _ new ⟨⟩
    exact Dict.length_set_new _ _ (new _ rfl)

/-- The posting service answers what the adapter answers, and never raises. -/
theorem mobilePosting_step (s : MobileMoneyAdapter) (call : DisburseCall)
    : (mobilePosting digests).machine.step s call
      = (s.disburse digests call.draw call.request).map .ok id := by
  unfold MobileMoneyAdapter.disburse
  cases found : s.disbursements.get? (call.request.tenantId, call.request.idempotencyKey) with
  | none => simp only [Posting.machine, mobilePosting, Option.bind_some, found, replayOrPost,
      Prod.map_apply, id_eq]
  | some existing => simp only [Posting.machine, mobilePosting, Option.bind_some, found,
      replayOrPost, Prod.map_apply, id_eq]

theorem mobilePosting_tellsKey
    : (mobilePosting digests).cache.TellsKey
        (fun result => (result.tenantId, result.idempotencyKey)) := by
  apply Posting.cache_tellsKey
  rintro s call _ _ ⟨⟩
  rfl

theorem plaidPosting_tellsKey
    : plaidPosting.cache.TellsKey ACHTransferResult.idempotencyKey := by
  apply Posting.cache_tellsKey
  intro s call posted next ok
  obtain ⟨_, _, built⟩ := bind_ok (PlaidAdapter.post_ok ok).1
  obtain rfl := Except.ok.inj built
  rfl

end Replays

/-- Any two requests of the class that are built without a key agree whenever they get the same
key, exactly when their terms are told apart. Digests are taken to differ where the texts do.
-/
def RequestClass.AgreeIffTold {ι : Type} (c : RequestClass ι) (digests : Digests) : Prop :=
  ∀ request other,
    c.WithoutKey digests request
    → c.WithoutKey digests other
    → (derivedKey digests (c.keyMaterial request) = derivedKey digests (c.keyMaterial other)
      → c.keyMaterial request = c.keyMaterial other)
    → ((c.idempotencyKey request = c.idempotencyKey other → c.terms request = c.terms other)
      ↔ (c.terms request).ToldFrom (c.terms other))

/-- Two requests that are built without a key agree whenever they get the same key, exactly when
the names joined by colons and the amount tell their terms apart. And in every run of an adapter a
request is answered with what was made for the same terms, exactly when the first call under its
key has named the same terms.
-/
theorem derivedKeys_agree_iff (digests : Digests)
    : cardRequests.AgreeIffTold digests
      ∧ disbursementRequests.AgreeIffTold digests
      ∧ transferRequests.AgreeIffTold digests
      ∧ (∀ backend before draw request,
          (cardReplays digests).AnsweredAlike CardCall.terms? (.new backend) before
              (.createVirtualCard draw request)
          ↔ ∀ first
              ∈ (cardReplays digests).filer (request.tenantId, request.idempotencyKey) before,
              first.terms? = some (cardRequests.terms request))
      ∧ (∀ backend simulateFailure before draw request,
          (mobilePosting digests).cache.AnsweredAlike
              (fun call => disbursementRequests.terms call.request)
              (.new backend simulateFailure) before ⟨draw, request⟩
          ↔ ∀ first
              ∈ (mobilePosting digests).cache.filer (request.tenantId, request.idempotencyKey)
                before,
              disbursementRequests.terms first.request = disbursementRequests.terms request)
      ∧ (∀ mockMode before draw request,
          plaidPosting.cache.AnsweredAlike (fun call => transferRequests.terms call.request)
              (.new mockMode) before ⟨draw, request⟩
          ↔ ∀ first ∈ plaidPosting.cache.filer request.idempotencyKey before,
              transferRequests.terms first.request = transferRequests.terms request) := by
  refine ⟨?_, ?_, ?_, ?_, ?_, ?_⟩
  · exact fun _ _ => cardRequests.agree_iff
  · exact fun _ _ => disbursementRequests.agree_iff
  · exact fun _ _ => transferRequests.agree_iff
  · intro backend before draw request
    exact (cardReplays digests).answeredAlike_iff (fun _ => rfl) (cardReplays_tellsKey digests)
      CardCall.terms? before rfl
  · intro backend simulateFailure before draw request
    exact (mobilePosting digests).cache.answeredAlike_iff (fun _ => rfl)
      (mobilePosting_tellsKey digests) (fun call => disbursementRequests.terms call.request)
      before rfl
  · intro mockMode before draw request
    exact plaidPosting.cache.answeredAlike_iff (fun _ => rfl) plaidPosting_tellsKey
      (fun call => transferRequests.terms call.request) before rfl

section Sample

theorem limit_pos : (0 : Int) < 1000000 := by decide

theorem dollars_length : "USD".length = 3 := by decide

theorem euros_length : "EUR".length = 3 := by decide

theorem transferAmount_pos : (0 : Int) < 5000000 := by decide

/-- A card in dollars, with the key that is derived for it. -/
def dollarCard : VirtualCardRequest where
  tenantId := "acme"
  custodianId := "dana"
  fundId := "float"
  spendingLimitScaled := 1000000
  currency := "USD"
  cardholderName := "Dana"
  idempotencyKey := "4afa32b93c63e108b5eff722ecb1c302"
  metadata := .empty
  limitPositive := limit_pos
  currencyLength := dollars_length

/-- The same card in euros has the same key. -/
def euroCard : VirtualCardRequest :=
  { dollarCard with currency := "EUR", currencyLength := euros_length }

theorem derivedKeys_agree_iff_sample
    : (dollarCard.idempotencyKey = euroCard.idempotencyKey
        → cardRequests.terms dollarCard = cardRequests.terms euroCard)
      ↔ (cardRequests.terms dollarCard).ToldFrom (cardRequests.terms euroCard) :=
  (derivedKeys_agree_iff sampleDigests).1 dollarCard euroCard
    ((cardRequests.withoutKey_iff _ _).mpr (by decide +kernel))
    ((cardRequests.withoutKey_iff _ _).mpr (by decide +kernel)) (fun _ => rfl)

/-- The SHA-256 of the text that both transfers' keys are derived from. -/
def transferDigests : Digests :=
  ⟨fun _ => 0x5cf43a4b6fc46038b15dd62f6e334d13e359f8b36c8f9c986493762c9932a6a5, fun _ => 0⟩

/-- A transfer to a supplier. -/
def supplierTransfer : ACHTransferRequest where
  tenantId := "acme"
  referenceDocument := "TX-1"
  initiatingAccount := {
    accountHolder := "Acme"
    accountNumber := "1000"
    routingNumber := "021000021"
    bankName := "First Bank"
  }
  beneficiaryAccount := {
    accountHolder := "Supplier"
    accountNumber := "2000"
    routingNumber := "011401533"
    bankName := "Second Bank"
  }
  amountScaled := 5000000
  currency := "USD"
  serviceLevel := .nurg
  purpose := "Petty Cash Replenishment"
  idempotencyKey := "5cf43a4b6fc46038b15dd62f6e334d13"
  amountPositive := transferAmount_pos

/-- A transfer to somebody else for the same document. -/
def landlordTransfer : ACHTransferRequest :=
  {
    supplierTransfer with
    beneficiaryAccount := {
      accountHolder := "Landlord"
      accountNumber := "3000"
      routingNumber := "026009593"
      bankName := "Third Bank"
    }
  }

def transferDraw : TransferDraw :=
  ⟨⟨1⟩, ⟨2⟩, ⟨3⟩, ⟨1785542400000000⟩, ⟨2026, 8, 1⟩⟩

/-- Both transfers get one key, so the second one is answered with the first one, and nothing is
sent to its beneficiary.
-/
theorem landlord_answered_with_supplier
    : let first := (PlaidAdapter.new true).initiateTransfer transferDraw supplierTransfer
      let second := first.2.initiateTransfer transferDraw landlordTransfer
      supplierTransfer.WithoutKey transferDigests
      ∧ landlordTransfer.WithoutKey transferDigests
      ∧ supplierTransfer.idempotencyKey = landlordTransfer.idempotencyKey
      ∧ supplierTransfer.beneficiaryAccount ≠ landlordTransfer.beneficiaryAccount
      ∧ first.1.isOk
      ∧ second.1 = first.1
      ∧ ¬ plaidPosting.cache.AnsweredAlike (fun call => transferRequests.terms call.request)
          (.new true) [⟨transferDraw, supplierTransfer⟩] ⟨transferDraw, landlordTransfer⟩ := by
  intro first second
  refine ⟨(transferRequests.withoutKey_iff _ _).mpr (by decide +kernel),
    (transferRequests.withoutKey_iff _ _).mpr (by decide +kernel), rfl, by decide +kernel,
    by decide +kernel, by decide +kernel, fun alike => ?_⟩
  have files
      : plaidPosting.cache.filer landlordTransfer.idempotencyKey
          [⟨transferDraw, supplierTransfer⟩]
        = some ⟨transferDraw, supplierTransfer⟩ :=
    List.find?_cons_of_pos (by decide +kernel)
  have same :=
    (plaidPosting.cache.answeredAlike_iff (fun _ => rfl) plaidPosting_tellsKey
      (fun call => transferRequests.terms call.request) _ rfl).mp alike _ files
  exact absurd same (by decide +kernel)

end Sample

end PettyFlow.Adapters
