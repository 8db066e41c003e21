import PettyFlow.Foundation.UuidText
import PettyFlow.Funds.Service

/-! The remote procedures of the petty-cash funds: messages with identifiers as texts and amounts as
64-bit integers, and the status codes with which calls are aborted.
-/

namespace PettyFlow.Api.Grpc

open Foundation PettyFlow.Funds

/-! ### Messages -/

structure CreateFundRequest where
  tenantId : String
  name : String
  currency : String
  custodianId : String
  initialAmountScaled : BitVec 64
deriving DecidableEq

structure AllocateFloatRequest where
  tenantId : String
  fundId : String
  custodianId : String
  amountScaled : BitVec 64
deriving DecidableEq

/-- The two messages that move float have the same fields. -/
abbrev IssueDisbursementRequest := AllocateFloatRequest

structure GetCustodianBalanceRequest where
  tenantId : String
  fundId : String
  custodianId : String
deriving DecidableEq

structure FundMessage where
  fundId : String
  tenantId : String
  name : String
  currency : String
  custodianId : String
  availableAmountScaled : BitVec 64
deriving DecidableEq

structure CustodianBalanceMessage where
  fundId : String
  tenantId : String
  custodianId : String
  currency : String
  amountScaled : BitVec 64
deriving DecidableEq

/-! ### Errors -/

inductive StatusCode where
  | invalidArgument
  | notFound
  | failedPrecondition
deriving DecidableEq

/-- The text of an abortion, from the error that was caught. -/
inductive Details where
  | message (text : String)
  | uuid (error : UuidError)
deriving DecidableEq

inductive RpcError where
  | abort (code : StatusCode) (details : Details)
  /-- An error that no handler catches, which the server reports as unknown. -/
  | unhandled
deriving DecidableEq

/-- The handler around the creation of a fund. -/
def createErrors : FundError → RpcError
  | .typeError text => .abort .invalidArgument (.message text)
  | .valueError text => .abort .invalidArgument (.message text)
  | _ => .unhandled

/-- The handlers around an operation on the float. -/
def mutateErrors : FundError → RpcError
  | .valueError text => .abort .invalidArgument (.message text)
  | .fundNotFoundError text => .abort .notFound (.message text)
  | .insufficientFloatError text => .abort .failedPrecondition (.message text)
  | .typeError _ => .unhandled

/-- The handlers around the reading of a balance. -/
def readErrors : FundError → RpcError
  | .valueError text => .abort .invalidArgument (.message text)
  | .fundNotFoundError text => .abort .notFound (.message text)
  | _ => .unhandled

def uuidErrors (error : UuidError) : RpcError := .abort .invalidArgument (.uuid error)

/-- The field of a message for an amount, which takes no integer beyond 64 bits. -/
def int64Field (amount : Int) : Except RpcError (BitVec 64) :=
  if -2 ^ 63 ≤ amount ∧ amount ≤ maxInt64 then .ok (BitVec.ofInt 64 amount) else .error .unhandled

def fundMessage (fund : Fund) : Except RpcError FundMessage := do
  let amount ← int64Field fund.availableAmountScaled
  return ⟨fund.fundId.text, fund.tenantId.text, fund.name, fund.currency, fund.custodianId.text,
    amount⟩

def balanceMessage (balance : CustodianBalance) : Except RpcError CustodianBalanceMessage := do
  let amount ← int64Field balance.amountScaled
  return ⟨balance.fundId.text, balance.tenantId.text, balance.custodianId.text, balance.currency,
    amount⟩

/-! ### Procedures -/

section Handler

variable (tables : CharTables)

/-- The identifiers of a request, read from left to right. -/
def twoIds (tenantId custodianId : String) : Except UuidError (Uuid × Uuid) := do
  let tenantId ← Uuid.ofText tables tenantId
  let custodianId ← Uuid.ofText tables custodianId
  return (tenantId, custodianId)

def threeIds (tenantId fundId custodianId : String) : Except UuidError (Uuid × Uuid × Uuid) := do
  let tenantId ← Uuid.ofText tables tenantId
  let fundId ← Uuid.ofText tables fundId
  let custodianId ← Uuid.ofText tables custodianId
  return (tenantId, fundId, custodianId)

namespace FloatServiceHandler

def createFund (s : FundService) (drawn : Uuid) (request : CreateFundRequest)
    : Except RpcError FundMessage × FundService :=
  match twoIds tables request.tenantId request.custodianId with
  | .error error => (.error (uuidErrors error), s)
  | .ok (tenantId, custodianId) =>
      let result :=
        s.createFund drawn tenantId request.name request.currency custodianId
          (.int request.initialAmountScaled.toInt)
      (result.1.mapError createErrors >>= fundMessage, result.2)

/-- One of the two operations that move float. -/
def mutate (s : FundService)
    (operation : Uuid → Uuid → Uuid → NumberArg → Except FundError CustodianBalance × FundService)
    (request : AllocateFloatRequest)
    : Except RpcError CustodianBalanceMessage × FundService :=
  match threeIds tables request.tenantId request.fundId request.custodianId with
  | .error error => (.error (uuidErrors error), s)
  | .ok (tenantId, fundId, custodianId) =>
      let result := operation tenantId fundId custodianId (.int request.amountScaled.toInt)
      (result.1.mapError mutateErrors >>= balanceMessage, result.2)

def allocateFloat (s : FundService) (request : AllocateFloatRequest)
    : Except RpcError CustodianBalanceMessage × FundService :=
  mutate tables s s.allocateFloat request

def issueDisbursement (s : FundService) (request : IssueDisbursementRequest)
    : Except RpcError CustodianBalanceMessage × FundService :=
  mutate tables s s.issueDisbursement request

def getCustodianBalance (s : FundService) (request : GetCustodianBalanceRequest)
    : Except RpcError CustodianBalanceMessage × FundService :=
  match threeIds tables request.tenantId request.fundId request.custodianId with
  | .error error => (.error (uuidErrors error), s)
  | .ok (tenantId, fundId, custodianId) =>
      let result := s.getCustodianBalance tenantId fundId custodianId
      (result.1.mapError readErrors >>= balanceMessage, result.2)

end FloatServiceHandler

/-! ### The service -/

inductive Rpc where
  | createFund (drawn : Uuid) (request : CreateFundRequest)
  | allocateFloat (request : AllocateFloatRequest)
  | issueDisbursement (request : IssueDisbursementRequest)
  | getCustodianBalance (request : GetCustodianBalanceRequest)
deriving DecidableEq

inductive Reply where
  | fund (message : FundMessage)
  | balance (message : CustodianBalanceMessage)
deriving DecidableEq

/-- A procedure's result as a reply. -/
def reply {α : Type} (wrap : α → Reply) (result : Except RpcError α × FundService)
    : Except RpcError Reply × FundService :=
  (result.1.map wrap, result.2)

def floatMachine : Machine FundService Rpc (Except RpcError Reply) where
  step s rpc :=
    match rpc with
    | .createFund drawn request =>
        reply .fund (FloatServiceHandler.createFund tables s drawn request)
    | .allocateFloat request => reply .balance (FloatServiceHandler.allocateFloat tables s request)
    | .issueDisbursement request =>
        reply .balance (FloatServiceHandler.issueDisbursement tables s request)
    | .getCustodianBalance request =>
        reply .balance (FloatServiceHandler.getCustodianBalance tables s request)

end Handler

end PettyFlow.Api.Grpc
