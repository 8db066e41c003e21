import PettyFlow.Foundation.Casing
import PettyFlow.Foundation.Dict
import PettyFlow.Foundation.Machine
import PettyFlow.Foundation.Uuid
import PettyFlow.Foundation.Values

/-! The petty-cash fund service: tenant-scoped funds and the float allocated from them to
custodians, in fixed-point amounts.
-/

namespace PettyFlow.Funds

open Foundation

/-- The exceptions of the service, by class, with their texts. -/
inductive FundError where
  | typeError (message : String)
  | valueError (message : String)
  | fundNotFoundError (message : String)
  | insufficientFloatError (message : String)
deriving DecidableEq

structure Fund where
  fundId : Uuid
  tenantId : Uuid
  name : String
  currency : String
  custodianId : Uuid
  availableAmountScaled : Int
deriving DecidableEq

structure CustodianBalance where
  fundId : Uuid
  tenantId : Uuid
  custodianId : Uuid
  currency : String
  amountScaled : Int
deriving DecidableEq

/-- The service's two tables: funds by tenant and fund, balances by tenant, fund and
custodian. -/
structure FundService where
  funds : Dict (Uuid × Uuid) Fund
  balances : Dict (Uuid × Uuid × Uuid) Int
deriving DecidableEq

def FundService.empty : FundService := ⟨.empty, .empty⟩

def maxInt64 : Int := 2 ^ 63 - 1

/-- An integer of the sign asked for that fits the messages' signed 64-bit field. -/
def validateAmount (amountScaled : NumberArg) (name : String) (allowZero : Bool)
    : Except FundError Int :=
  match amountScaled.int? with
  | none => .error (.typeError s!"{name} must be an integer")
  | some amount =>
      if amount < 0 ∨ (amount = 0 ∧ allowZero = false) then
        let sign := if allowZero then "non-negative" else "positive"
        .error (.valueError s!"{name} must be {sign}")
      else if maxInt64 < amount then
        .error (.valueError s!"{name} must not exceed protobuf int64 maximum ({maxInt64})")
      else
        .ok amount

def currencyError : FundError :=
  .valueError "currency must be a three-letter ISO-4217 code"

def normalizeCurrency (currency : String) : Except FundError String :=
  let normalized := upper currency
  if normalized.length ≠ 3 then
    .error currencyError
  else if normalized.toList.all isAsciiAlpha then
    .ok normalized
  else
    .error currencyError

namespace FundService

def getFund (s : FundService) (tenantId fundId : Uuid) : Except FundError Fund :=
  match s.funds.get? (tenantId, fundId) with
  | some fund => .ok fund
  | none => .error (.fundNotFoundError "fund was not found for tenant")

/-- The balance of a custodian who may never have been allocated any float. -/
def balance (s : FundService) (tenantId fundId custodianId : Uuid) : Int :=
  s.balances.getD (tenantId, fundId, custodianId) 0

/-- Create a fund under the identifier drawn for it. -/
def createFund (s : FundService) (drawn tenantId : Uuid) (name currency : String)
    (custodianId : Uuid) (initialAmountScaled : NumberArg)
    : Except FundError Fund × FundService :=
  attempt s
    (do
      let amount ← validateAmount initialAmountScaled "initial_amount_scaled" true
      let normalizedCurrency ← normalizeCurrency currency
      raiseIf (isBlank name) (.valueError "name must not be blank")
      return {
        fundId := drawn
        tenantId
        name := strip name
        currency := normalizedCurrency
        custodianId
        availableAmountScaled := amount
      : Fund })
    (fun fund => (fund, { s with funds := s.funds.set (tenantId, fund.fundId) fund }))

/-- Move available float to a custodian. -/
def allocateFloat (s : FundService) (tenantId fundId custodianId : Uuid)
    (amountScaled : NumberArg)
    : Except FundError CustodianBalance × FundService :=
  attempt s
    (do
      let amount ← validateAmount amountScaled "amount_scaled" false
      let fund ← s.getFund tenantId fundId
      raiseIf (fund.availableAmountScaled < amount)
        (.insufficientFloatError "fund has insufficient available balance")
      return (amount, fund))
    (fun (amount, fund) =>
      let updated :=
        { fund with availableAmountScaled := fund.availableAmountScaled - amount }
      let balance := s.balance tenantId fundId custodianId + amount
      (⟨fundId, tenantId, custodianId, fund.currency, balance⟩,
        {
          funds := s.funds.set (tenantId, fundId) updated
          balances := s.balances.set (tenantId, fundId, custodianId) balance
        }))

/-- Pay out of a custodian's float. -/
def issueDisbursement (s : FundService) (tenantId fundId custodianId : Uuid)
    (amountScaled : NumberArg)
    : Except FundError CustodianBalance × FundService :=
  attempt s
    (do
      let amount ← validateAmount amountScaled "amount_scaled" false
      let fund ← s.getFund tenantId fundId
      raiseIf (s.balance tenantId fundId custodianId < amount)
        (.insufficientFloatError "custodian has insufficient allocated float")
      return (amount, fund))
    (fun (amount, fund) =>
      let updatedBalance := s.balance tenantId fundId custodianId - amount
      (⟨fundId, tenantId, custodianId, fund.currency, updatedBalance⟩,
        { s with balances := s.balances.set (tenantId, fundId, custodianId) updatedBalance }))

def getCustodianBalance (s : FundService) (tenantId fundId custodianId : Uuid)
    : Except FundError CustodianBalance × FundService :=
  attempt s (s.getFund tenantId fundId)
    (fun fund =>
      (⟨fundId, tenantId, custodianId, fund.currency, s.balance tenantId fundId custodianId⟩,
        s))

end FundService

inductive FundCall where
  | createFund (drawn tenantId : Uuid) (name currency : String) (custodianId : Uuid)
    (initialAmountScaled : NumberArg)
  | allocateFloat (tenantId fundId custodianId : Uuid) (amountScaled : NumberArg)
  | issueDisbursement (tenantId fundId custodianId : Uuid) (amountScaled : NumberArg)
  | getCustodianBalance (tenantId fundId custodianId : Uuid)

inductive FundAnswer where
  | fund (fund : Fund)
  | balance (balance : CustodianBalance)
deriving DecidableEq

/-- The tenant and fund a call is for. -/
def FundCall.target : FundCall → Uuid × Uuid
  | .createFund drawn tenantId .. => (tenantId, drawn)
  | .allocateFloat tenantId fundId .. => (tenantId, fundId)
  | .issueDisbursement tenantId fundId .. => (tenantId, fundId)
  | .getCustodianBalance tenantId fundId _ => (tenantId, fundId)

def answer {α : Type} (wrap : α → FundAnswer) (result : Except FundError α × FundService)
    : Except FundError FundAnswer × FundService :=
  (result.1.map wrap, result.2)

def serve (s : FundService) : FundCall → Except FundError FundAnswer × FundService
  | .createFund drawn tenantId name currency custodianId initial =>
      answer .fund (s.createFund drawn tenantId name currency custodianId initial)
  | .allocateFloat tenantId fundId custodianId amount =>
      answer .balance (s.allocateFloat tenantId fundId custodianId amount)
  | .issueDisbursement tenantId fundId custodianId amount =>
      answer .balance (s.issueDisbursement tenantId fundId custodianId amount)
  | .getCustodianBalance tenantId fundId custodianId =>
      answer .balance (s.getCustodianBalance tenantId fundId custodianId)

def fundMachine : Machine FundService FundCall (Except FundError FundAnswer) := ⟨serve⟩

end PettyFlow.Funds
