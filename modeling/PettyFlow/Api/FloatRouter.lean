import PettyFlow.Api.Endpoint
import PettyFlow.Funds.Service

/-! The endpoints of the petty-cash funds, with the bodies that their schemas accept. -/

namespace PettyFlow.Api

open Foundation PettyFlow.Funds

structure CreateFundRequest where
  tenantId : Uuid
  name : String
  currency : CurrencyCode
  custodianId : Uuid
  initialAmountScaled : Int
  nameNotBlank : isBlank name = false
  notNegative : 0 ≤ initialAmountScaled

/-- The body of some fields, if the schema accepts them. -/
def CreateFundRequest.ofFields (tenantId : Uuid) (name currency : String) (custodianId : Uuid)
    (initialAmountScaled : Int)
    : Option CreateFundRequest :=
  if fits
    : (1 ≤ name.length ∧ name.length ≤ 255) ∧ IsCurrencyText currency ∧ 0 ≤ initialAmountScaled
      ∧ strip name ≠ "" then
    some {
      tenantId
      name := strip name
      currency := .ofText currency fits.2.1
      custodianId
      initialAmountScaled
      nameNotBlank := (isBlank_strip name).trans (decide_eq_false fits.2.2.2)
      notNegative := fits.2.2.1
    }
  else
    none

structure FloatMutationRequest where
  tenantId : Uuid
  custodianId : Uuid
  amountScaled : Int
  positive : 0 < amountScaled

def FloatMutationRequest.ofFields (tenantId custodianId : Uuid) (amountScaled : Int)
    : Option FloatMutationRequest :=
  if positive : 0 < amountScaled then
    some ⟨tenantId, custodianId, amountScaled, positive⟩
  else
    none

structure FundResponse where
  fundId : Uuid
  tenantId : Uuid
  name : String
  currency : String
  custodianId : Uuid
  availableAmountScaled : Int
deriving DecidableEq

structure CustodianBalanceResponse where
  fundId : Uuid
  tenantId : Uuid
  custodianId : Uuid
  currency : String
  amountScaled : Int
deriving DecidableEq

def FundResponse.ofFund (fund : Fund) : FundResponse :=
  ⟨fund.fundId, fund.tenantId, fund.name, fund.currency, fund.custodianId,
    fund.availableAmountScaled⟩

def CustodianBalanceResponse.ofBalance (balance : CustodianBalance) : CustodianBalanceResponse :=
  ⟨balance.fundId, balance.tenantId, balance.custodianId, balance.currency, balance.amountScaled⟩

/-- The handlers around an operation on the float. -/
def balanceErrors : FundError → EndpointError FundError
  | .fundNotFoundError message => .httpException 404 message
  | .insufficientFloatError message => .httpException 409 message
  | error => .escaped error

/-- The handler around the reading of a balance. -/
def readErrors : FundError → EndpointError FundError
  | .fundNotFoundError message => .httpException 404 message
  | error => .escaped error

/-- The response of an operation on the float. -/
def balanceResponse (result : Except FundError CustodianBalance × FundService)
    : Answer FundError CustodianBalanceResponse FundService :=
  ((result.1.map CustodianBalanceResponse.ofBalance).mapError balanceErrors, result.2)

namespace FloatRouter

/-- No handler stands around the creation of a fund. -/
def createFund (s : FundService) (drawn : Uuid) (request : CreateFundRequest)
    : Answer FundError FundResponse FundService :=
  let result :=
    s.createFund drawn request.tenantId request.name request.currency.text request.custodianId
      (.int request.initialAmountScaled)
  ((result.1.map FundResponse.ofFund).mapError .escaped, result.2)

def allocateFloat (s : FundService) (fundId : Uuid) (request : FloatMutationRequest)
    : Answer FundError CustodianBalanceResponse FundService :=
  balanceResponse
    (s.allocateFloat request.tenantId fundId request.custodianId (.int request.amountScaled))

def issueDisbursement (s : FundService) (fundId : Uuid) (request : FloatMutationRequest)
    : Answer FundError CustodianBalanceResponse FundService :=
  balanceResponse
    (s.issueDisbursement request.tenantId fundId request.custodianId (.int request.amountScaled))

def getCustodianBalance (s : FundService) (fundId custodianId tenantId : Uuid)
    : Answer FundError CustodianBalanceResponse FundService :=
  let result := s.getCustodianBalance tenantId fundId custodianId
  ((result.1.map CustodianBalanceResponse.ofBalance).mapError readErrors, result.2)

end FloatRouter

section Amounts

theorem validateAmount_int {amount : Int} {name : String} {allowZero : Bool}
    (signed : 0 < amount ∨ 0 ≤ amount ∧ allowZero = true)
    : validateAmount (.int amount) name allowZero
      = if maxInt64 < amount then
          .error (.valueError s!"{name} must not exceed protobuf int64 maximum ({maxInt64})")
        else
          .ok amount := by
  unfold validateAmount NumberArg.int?
  dsimp only
  rw [if_neg]
  rcases signed with positive | ⟨notNegative, zero⟩
  · omega
  · simp [zero, notNegative]

theorem normalizeCurrency_code (currency : CurrencyCode)
    : normalizeCurrency currency.text = .ok currency.text := by
  unfold normalizeCurrency
  dsimp only
  rw [currency.capitals, if_neg (not_not.mpr currency.letters.1),
    if_pos currency.letters.2]

end Amounts

section Endpoints

variable (s : FundService)

/-- A fund is created exactly when its amount fits the messages. -/
theorem createFund_proper_iff (drawn : Uuid) (request : CreateFundRequest)
    : Proper s (FloatRouter.createFund s drawn request)
      ↔ request.initialAmountScaled ≤ maxInt64 := by
  unfold FloatRouter.createFund FundService.createFund
  dsimp only
  rw [validateAmount_int (Or.inr ⟨request.notNegative, rfl⟩)]
  by_cases large : maxInt64 < request.initialAmountScaled
  · rw [if_pos large]
    exact iff_of_false (not_proper_escaped _ _) (not_le.mpr large)
  · rw [if_neg large, normalizeCurrency_code]
    simp only [bind, Except.bind, raiseIf, request.nameNotBlank, Bool.false_eq_true, if_false]
    exact iff_of_true (proper_ok _ _) (not_lt.mp large)

theorem getFund_cases (tenantId fundId : Uuid)
    : (∃ fund, s.getFund tenantId fundId = .ok fund)
      ∨ ∃ message, s.getFund tenantId fundId = .error (.fundNotFoundError message) := by
  unfold FundService.getFund
  cases s.funds.get? (tenantId, fundId) with
  | none => exact Or.inr ⟨_, rfl⟩
  | some fund => exact Or.inl ⟨fund, rfl⟩

/-- An operation on the float checks its amount, finds its fund and makes sure of its cover. -/
theorem mutation_proper_iff (fundId : Uuid) (request : FloatMutationRequest)
    (short : Int → Fund → Prop) [∀ amount fund, Decidable (short amount fund)]
    (message : String) (commit : Int × Fund → CustodianBalance × FundService)
    : Proper s
        (balanceResponse
          (attempt s
            (do
              let amount ← validateAmount (.int request.amountScaled) "amount_scaled" false
              let fund ← s.getFund request.tenantId fundId
              raiseIf (short amount fund) (.insufficientFloatError message)
              return (amount, fund))
            commit))
      ↔ request.amountScaled ≤ maxInt64 := by
  rw [validateAmount_int (Or.inl request.positive)]
  by_cases large : maxInt64 < request.amountScaled
  · rw [if_pos large]
    exact iff_of_false (not_proper_escaped _ _) (not_le.mpr large)
  rw [if_neg large]
  refine iff_of_true ?_ (not_lt.mp large)
  rcases getFund_cases s request.tenantId fundId with ⟨fund, found⟩ | ⟨message, missing⟩
  · by_cases uncovered : short request.amountScaled fund
    · simp only [bind, Except.bind, found, raiseIf, uncovered, if_true]
      exact proper_httpException (by decide) _
    · simp only [bind, Except.bind, found, raiseIf, uncovered, if_false]
      exact proper_ok _ _
  · simp only [bind, Except.bind, missing]
    exact proper_httpException (by decide) _

theorem allocateFloat_proper_iff (fundId : Uuid) (request : FloatMutationRequest)
    : Proper s (FloatRouter.allocateFloat s fundId request)
      ↔ request.amountScaled ≤ maxInt64 :=
  mutation_proper_iff s fundId request (fun amount fund => fund.availableAmountScaled < amount)
    _ _

theorem issueDisbursement_proper_iff (fundId : Uuid) (request : FloatMutationRequest)
    : Proper s (FloatRouter.issueDisbursement s fundId request)
      ↔ request.amountScaled ≤ maxInt64 :=
  mutation_proper_iff s fundId request
    (fun amount _ => s.balance request.tenantId fundId request.custodianId < amount) _ _

theorem getCustodianBalance_proper (fundId custodianId tenantId : Uuid)
    : Proper s (FloatRouter.getCustodianBalance s fundId custodianId tenantId) := by
  unfold FloatRouter.getCustodianBalance FundService.getCustodianBalance
  rcases getFund_cases s tenantId fundId with ⟨fund, found⟩ | ⟨message, missing⟩
  · rw [found]
    exact proper_ok _ _
  · rw [missing]
    exact proper_httpException (by decide) _

end Endpoints

end PettyFlow.Api
