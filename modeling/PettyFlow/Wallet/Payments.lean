import PettyFlow.Wallet.Workers

/-! What a payment is about, in one form for both adapters, and which payment an adapter reports:
the one that it has on file under the tenant's key, or a new one for the request.
-/

namespace PettyFlow.Wallet

open Foundation Adapters

/-- What is paid to whom. A card has no recipient. -/
structure PaymentFacts where
  tenantId : String
  custodianId : String
  fundId : String
  amountScaled : Int
  currency : String
  recipient : Option String
deriving DecidableEq

def cardFacts (card : VirtualCardResult) : PaymentFacts :=
  ⟨card.tenantId, card.custodianId, card.fundId, card.spendingLimitScaled, card.currency, none⟩

def disbursementFacts (disbursement : DisbursementResult) : PaymentFacts :=
  ⟨disbursement.tenantId, disbursement.custodianId, disbursement.fundId,
    disbursement.amountScaled, disbursement.currency,
    some disbursement.recipientPhoneOrAccount⟩

/-- What a request asks for. -/
def FloatDisbursementRequest.facts (request : FloatDisbursementRequest) : PaymentFacts :=
  ⟨request.tenantId, request.custodianId, request.fundId, request.amountScaled, request.currency,
    match request.channel with
    | .virtualCard => none
    | .mobileMoney | .ach => some request.recipientAddress⟩

/-- The payment that is nested in a result. -/
def FloatDisbursementResult.nested? (result : FloatDisbursementResult) : Option PaymentFacts :=
  match result.virtualCard, result.mobileDisbursement with
  | some card, none => some (cardFacts card)
  | none, some disbursement => some (disbursementFacts disbursement)
  | _, _ => none

/-- A result has the values of a request, and so has the payment that is nested in it. -/
structure Fits (request : FloatDisbursementRequest) (result : FloatDisbursementResult) : Prop where
  tenant : result.tenantId = request.tenantId
  custodian : result.custodianId = request.custodianId
  fund : result.fundId = request.fundId
  amount : result.amountScaled = request.amountScaled
  currency : result.currency = request.currency
  nested : result.nested? = some request.facts

/-- The request's channel accepts it, and its adapter has no fault. -/
def Payable (request : FloatDisbursementRequest) (fault : Option String) : Prop :=
  request.currency.length = 3
  ∧ (request.channel ≠ .virtualCard → request.recipientAddress ≠ "")
  ∧ fault = none

namespace Backends

/-- The payment that the adapter of the request's channel has on file under the tenant's key. -/
def onFile? (s : Backends) (request : FloatDisbursementRequest) : Option PaymentFacts :=
  match request.channel with
  | .virtualCard => (s.card? request.recordKey).map cardFacts
  | .mobileMoney | .ach => (s.disbursement? request.recordKey).map disbursementFacts

/-- What is true of the result of a payment, apart from the payment nested in it. -/
structure OuterFits (draw : PaymentDraw) (request : FloatDisbursementRequest)
    (result : FloatDisbursementResult)
    : Prop where
  tenant : result.tenantId = request.tenantId
  custodian : result.custodianId = request.custodianId
  fund : result.fundId = request.fundId
  amount : result.amountScaled = request.amountScaled
  currency : result.currency = request.currency
  drawn : result.disbursementId = floatDisbursementId draw.disbursement

/-- The checks before a payment pass when the request is built and the adapter has no fault. -/
theorem checks_isOk_iff {α : Type} {built : Except RequestError α}
    {toError : RequestError → PaymentError} {fault : Option String}
    : (∃ request,
        (do
          let request ← built.mapError toError
          match fault with
          | some message => .error (.provider message)
          | none => .ok request)
        = Except.ok request)
      ↔ (∃ request, built = .ok request) ∧ fault = none := by
  constructor
  · rintro ⟨request, passed⟩
    refine ⟨⟨request, unfaulted passed⟩, ?_⟩
    obtain ⟨_, _, passed⟩ := bind_ok passed
    cases fault with
    | some message => cases passed
    | none => rfl
  · rintro ⟨⟨request, rfl⟩, rfl⟩
    exact ⟨request, rfl⟩

/-- A payment is made exactly for a payable request. -/
theorem pay_isOk_iff (digests : Digests) (s : Backends) (draw : PaymentDraw)
    (request : FloatDisbursementRequest)
    : (∃ result, (s.pay digests draw request).1 = .ok result) ↔ Payable request draw.fault := by
  have positive := request.amountPositive
  unfold pay Payable
  split
  · rename_i card
    unfold disburseViaCard
    refine attempt_isOk_iff.trans (checks_isOk_iff.trans ?_)
    rw [VirtualCardRequest.new_isOk_iff]
    simp [card, positive]
  · rename_i mobile
    unfold disburseViaMobile
    refine attempt_isOk_iff.trans (checks_isOk_iff.trans ?_)
    rw [DisbursementRequest.new_isOk_iff]
    simp [mobile, positive, and_assoc]
  · rename_i ach
    unfold disburseViaMobile
    refine attempt_isOk_iff.trans (checks_isOk_iff.trans ?_)
    rw [DisbursementRequest.new_isOk_iff]
    simp [ach, positive, and_assoc]

/-- A payment leaves the store as it is and does not depend on it. -/
theorem pay_withStore (digests : Digests) (s : Backends) (draw : PaymentDraw)
    (request : FloatDisbursementRequest) (store : Idempotency.SQLiteIdempotencyStore)
    : { s with store }.pay digests draw request
      = ((s.pay digests draw request).1,
        { (s.pay digests draw request).2 with store }) := by
  unfold pay
  split
  · unfold disburseViaCard attempt
    split <;> rfl
  · unfold disburseViaMobile attempt
    split <;> rfl
  · unfold disburseViaMobile attempt
    split <;> rfl

theorem disburseViaCard_ok {digests : Digests} {s : Backends} {draw : PaymentDraw}
    {request : FloatDisbursementRequest} {result : FloatDisbursementResult}
    (paid : (s.disburseViaCard digests draw request).1 = .ok result)
    : OuterFits draw request result
      ∧ ∃ card,
          result.virtualCard = some card
          ∧ result.mobileDisbursement = none
          ∧ cardFacts card
            = ((s.card? request.recordKey).map cardFacts).getD
                ⟨request.tenantId, request.custodianId, request.fundId, request.amountScaled,
                  request.currency, none⟩ := by
  unfold disburseViaCard at paid
  obtain ⟨cardRequest, passed, rfl⟩ := attempt_ok paid
  have built := unfaulted passed
  obtain ⟨tenant, key⟩ := VirtualCardRequest.new_given request.keyGiven built
  obtain ⟨_, custodian, fund, limit, currency⟩ := VirtualCardRequest.new_fields built
  refine ⟨⟨rfl, rfl, rfl, rfl, rfl, rfl⟩, _, rfl, rfl, ?_⟩
  unfold CardIssuerAdapter.createVirtualCard
  rw [card?, FloatDisbursementRequest.recordKey, tenant, key]
  split
  · rename_i card found
    simp [found]
  · rename_i none_
    simp [none_, cardFacts, CardIssuerAdapter.issue, tenant, custodian, fund, limit, currency]

theorem disburseViaMobile_ok {digests : Digests} {s : Backends} {draw : PaymentDraw}
    {request : FloatDisbursementRequest} {result : FloatDisbursementResult}
    (paid : (s.disburseViaMobile digests draw request).1 = .ok result)
    : OuterFits draw request result
      ∧ ∃ disbursement,
          result.virtualCard = none
          ∧ result.mobileDisbursement = some disbursement
          ∧ disbursementFacts disbursement
            = ((s.disbursement? request.recordKey).map disbursementFacts).getD
                ⟨request.tenantId, request.custodianId, request.fundId, request.amountScaled,
                  request.currency, some request.recipientAddress⟩ := by
  unfold disburseViaMobile at paid
  obtain ⟨mobileRequest, passed, rfl⟩ := attempt_ok paid
  have built := unfaulted passed
  obtain ⟨tenant, key⟩ := DisbursementRequest.new_given request.keyGiven built
  obtain ⟨_, custodian, fund, recipient, amount, currency⟩ :=
    DisbursementRequest.new_fields built
  refine ⟨⟨rfl, rfl, rfl, rfl, rfl, rfl⟩, _, rfl, rfl, ?_⟩
  unfold MobileMoneyAdapter.disburse
  rw [disbursement?, FloatDisbursementRequest.recordKey, tenant, key]
  split
  · rename_i disbursement found
    simp [found]
  · rename_i none_
    simp [none_, disbursementFacts, MobileMoneyAdapter.initiate, tenant, custodian, fund,
      recipient, amount, currency]

/-- The result of a payment reports the payment on file, or a new one for the request. -/
theorem pay_ok {digests : Digests} {s : Backends} {draw : PaymentDraw}
    {request : FloatDisbursementRequest} {result : FloatDisbursementResult}
    (paid : (s.pay digests draw request).1 = .ok result)
    : OuterFits draw request result
      ∧ result.nested? = some ((s.onFile? request).getD request.facts) := by
  unfold pay at paid
  unfold onFile? FloatDisbursementRequest.facts FloatDisbursementResult.nested?
  cases channel : request.channel with
  | virtualCard =>
      rw [channel] at paid
      obtain ⟨outer, card, isCard, noMobile, facts⟩ := disburseViaCard_ok paid
      simp only [isCard, noMobile, facts]
      exact ⟨outer, trivial⟩
  | mobileMoney =>
      rw [channel] at paid
      obtain ⟨outer, disbursement, noCard, isMobile, facts⟩ := disburseViaMobile_ok paid
      simp only [noCard, isMobile, facts]
      exact ⟨outer, trivial⟩
  | ach =>
      rw [channel] at paid
      obtain ⟨outer, disbursement, noCard, isMobile, facts⟩ := disburseViaMobile_ok paid
      simp only [noCard, isMobile, facts]
      exact ⟨outer, trivial⟩

theorem createVirtualCard_files (digests : Digests) (s : CardIssuerAdapter) (draw : Draw)
    (request : VirtualCardRequest)
    : let key := IssuedKey.scoped request.tenantId request.idempotencyKey
      let after := (s.createVirtualCard digests draw request).2
      (s.issuedCards.get? key ≠ none → after = s) ∧ after.issuedCards.get? key ≠ none := by
  intro key after
  unfold after CardIssuerAdapter.createVirtualCard
  split
  · rename_i card found
    exact ⟨fun _ => rfl, by rw [found]; exact nofun⟩
  · rename_i free
    exact ⟨fun filed => absurd free filed, by rw [Dict.get?_set, if_pos rfl]; exact nofun⟩

theorem disburse_files (digests : Digests) (s : MobileMoneyAdapter) (draw : Draw)
    (request : DisbursementRequest)
    : let key := (request.tenantId, request.idempotencyKey)
      let after := (s.disburse digests draw request).2
      (s.disbursements.get? key ≠ none → after = s) ∧ after.disbursements.get? key ≠ none := by
  intro key after
  unfold after MobileMoneyAdapter.disburse
  split
  · rename_i disbursement found
    exact ⟨fun _ => rfl, by rw [found]; exact nofun⟩
  · rename_i free
    exact ⟨fun filed => absurd free filed, by rw [Dict.get?_set, if_pos rfl]; exact nofun⟩

/-- A payment by card is on file afterwards, and changes nothing where one was on file. -/
theorem disburseViaCard_files {digests : Digests} {s : Backends} {draw : PaymentDraw}
    {request : FloatDisbursementRequest} {result : FloatDisbursementResult}
    (paid : (s.disburseViaCard digests draw request).1 = .ok result)
    : let after := (s.disburseViaCard digests draw request).2
      (s.card? request.recordKey ≠ none → after = s) ∧ after.card? request.recordKey ≠ none := by
  unfold disburseViaCard at paid ⊢
  obtain ⟨cardRequest, passed, after⟩ := attempt_committed paid
  obtain ⟨tenant, key⟩ := VirtualCardRequest.new_given request.keyGiven (unfaulted passed)
  obtain ⟨kept, filed⟩ := createVirtualCard_files digests s.cardIssuer draw.adapter cardRequest
  rw [tenant, key] at kept filed
  rw [after]
  exact ⟨fun known => by dsimp only; rw [kept known], filed⟩

theorem disburseViaMobile_files {digests : Digests} {s : Backends} {draw : PaymentDraw}
    {request : FloatDisbursementRequest} {result : FloatDisbursementResult}
    (paid : (s.disburseViaMobile digests draw request).1 = .ok result)
    : let after := (s.disburseViaMobile digests draw request).2
      (s.disbursement? request.recordKey ≠ none → after = s)
      ∧ after.disbursement? request.recordKey ≠ none := by
  unfold disburseViaMobile at paid ⊢
  obtain ⟨mobileRequest, passed, after⟩ := attempt_committed paid
  obtain ⟨tenant, key⟩ := DisbursementRequest.new_given request.keyGiven (unfaulted passed)
  obtain ⟨kept, filed⟩ := disburse_files digests s.mobileAdapter draw.adapter mobileRequest
  rw [tenant, key] at kept filed
  rw [after]
  exact ⟨fun known => by dsimp only; rw [kept known], filed⟩

/-- A payment leaves the adapters as they are exactly when one is on file under the key. -/
theorem pay_kept_iff {digests : Digests} {s : Backends} {draw : PaymentDraw}
    {request : FloatDisbursementRequest} {result : FloatDisbursementResult}
    (paid : (s.pay digests draw request).1 = .ok result)
    : (s.pay digests draw request).2.cardIssuer = s.cardIssuer
        ∧ (s.pay digests draw request).2.mobileAdapter = s.mobileAdapter
      ↔ s.onFile? request ≠ none := by
  unfold pay at paid ⊢
  unfold onFile?
  cases channel : request.channel with
  | virtualCard =>
      rw [channel] at paid
      obtain ⟨kept, filed⟩ := disburseViaCard_files paid
      rw [ne_eq, Option.map_eq_none_iff]
      constructor
      · rintro ⟨same, _⟩ free
        exact filed (by rw [card?, same]; exact free)
      · exact fun known => ⟨by rw [kept known], by rw [kept known]⟩
  | mobileMoney | ach =>
      rw [channel] at paid
      obtain ⟨kept, filed⟩ := disburseViaMobile_files paid
      rw [ne_eq, Option.map_eq_none_iff]
      constructor
      · rintro ⟨_, same⟩ free
        exact filed (by rw [disbursement?, same]; exact free)
      · exact fun known => ⟨by rw [kept known], by rw [kept known]⟩

end Backends

/-- A result has no text exactly when its amount or the nested payment's is too large. -/
theorem resultText_none_iff {result : FloatDisbursementResult} {facts : PaymentFacts}
    (reported : result.nested? = some facts)
    : resultText result = none
      ↔ amountText result.amountScaled = none ∨ amountText facts.amountScaled = none := by
  have outer : amountFormatted result.amountScaled = none ↔ amountText result.amountScaled = none :=
    Option.map_eq_none_iff
  have inner : amountFormatted facts.amountScaled = none ↔ amountText facts.amountScaled = none :=
    Option.map_eq_none_iff
  rw [← outer, ← inner, resultText_eq, Option.map_eq_none_iff]
  unfold FloatDisbursementResult.nested? at reported
  unfold FloatDisbursementResult.toDict
  split at reported
  · rename_i card isCard noMobile
    obtain rfl := Option.some.inj reported
    rw [isCard, noMobile]
    cases amountFormatted result.amountScaled <;>
      cases limit : amountFormatted card.spendingLimitScaled <;>
        simp [nested, cardToDict, cardFacts, limit]
  · rename_i disbursement noCard isMobile
    obtain rfl := Option.some.inj reported
    rw [noCard, isMobile]
    cases amountFormatted result.amountScaled <;>
      cases limit : amountFormatted disbursement.amountScaled <;>
        simp [nested, mobileToDict, disbursementFacts, limit]
  · cases reported

end PettyFlow.Wallet
