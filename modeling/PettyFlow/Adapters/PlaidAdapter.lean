import PettyFlow.Adapters.SapAdapter
import PettyFlow.Foundation.Casing
import PettyFlow.Foundation.DoubleText
import PettyFlow.Foundation.Xml

/-! Bank transfers: the credit transfer document of a request, and its initiation once for
each idempotency key.
-/

namespace PettyFlow.Adapters

open Foundation

inductive ACHTransferStatus where
  | pending
  | submitted
  | settled
  | returned
  | failed
deriving DecidableEq

inductive ServiceLevel where
  | sepa
  | nurg
  | urgp
deriving DecidableEq

def ServiceLevel.value : ServiceLevel → String
  | .sepa => "SEPA"
  | .nurg => "NURG"
  | .urgp => "URGP"

structure BankAccount where
  accountHolder : String
  accountNumber : String
  routingNumber : String
  bankName : String
  currency : String := "USD"
  countryCode : String := "US"
deriving DecidableEq

/-- A valid transfer request. -/
structure ACHTransferRequest where
  tenantId : String
  referenceDocument : String
  initiatingAccount : BankAccount
  beneficiaryAccount : BankAccount
  amountScaled : Int
  currency : String
  serviceLevel : ServiceLevel
  purpose : String
  idempotencyKey : String
  amountPositive : 0 < amountScaled

/-- Build a request; a missing or empty key is derived from the request's parameters, whose
amount is then one that can be written (`HasDecimal`).
-/
def ACHTransferRequest.new (digests : Digests) (tenantId referenceDocument : String)
    (initiatingAccount beneficiaryAccount : BankAccount) (amountScaled : Int)
    (currency : String := "USD") (serviceLevel : ServiceLevel := .nurg)
    (purpose : String := "Petty Cash Replenishment") (idempotencyKey : Option String := none)
    : Except PostingError ACHTransferRequest :=
  if amountPositive : 0 < amountScaled then
    let keyMaterial := s!"{tenantId}:{referenceDocument}:{amountScaled}"
    let derived := String.ofList ((hexDigest (digests.sha256 keyMaterial)).take 32)
    .ok {
      tenantId
      referenceDocument
      initiatingAccount
      beneficiaryAccount
      amountScaled
      currency
      serviceLevel
      purpose
      idempotencyKey := (givenKey idempotencyKey).getD derived
      amountPositive
    }
  else
    .error (.valueError s!"amount_scaled must be positive, got {amountScaled}")

structure ACHTransferResult where
  transferId : String
  tenantId : String
  referenceDocument : String
  messageId : String
  paymentInfoId : String
  amountScaled : Int
  currency : String
  status : ACHTransferStatus
  idempotencyKey : String
  pain001Xml : String
  initiatedAt : String
  settledAt : Option String := none
  failureReason : Option String := none
deriving DecidableEq

def iso20022Namespace : String := "urn:iso:std:iso:20022:tech:xsd:pain.001.001.09"

/-- An element that holds a text. -/
private def leaf (tag text : String) : Xml := .element tag [] text []

/-- An element that holds other elements. -/
private def node (tag : String) (children : List Xml) : Xml := .element tag [] "" children

/-- The credit transfer document of a request. -/
def buildPain001Xml (messageId paymentInfoId creationDatetime : String) (today : CivilDate)
    (request : ACHTransferRequest)
    : Except PostingError String := do
  let amountStr ← orRaise (amountText request.amountScaled)
    (.overflowError "int too large to convert to float")
  let groupHeader := node "GrpHdr" [
    leaf "MsgId" messageId,
    leaf "CreDtTm" creationDatetime,
    leaf "NbOfTxs" "1",
    leaf "CtrlSum" amountStr,
    node "InitgPty" [leaf "Nm" request.initiatingAccount.accountHolder]
  ]
  let creditTransfer := node "CdtTrfTxInf" [
    node "PmtId" [leaf "EndToEndId" request.referenceDocument],
    node "Amt" [.element "InstdAmt" [⟨"Ccy", request.currency⟩] amountStr []],
    node "CdtrAgt" [
      node "FinInstnId" [leaf "ClrSysMmbId" request.beneficiaryAccount.routingNumber]
    ],
    node "Cdtr" [leaf "Nm" request.beneficiaryAccount.accountHolder],
    node "CdtrAcct" [node "Id" [leaf "Othr" request.beneficiaryAccount.accountNumber]],
    node "RmtInf" [leaf "Ustrd" request.purpose]
  ]
  let paymentInformation := node "PmtInf" [
    leaf "PmtInfId" paymentInfoId,
    leaf "PmtMtd" "TRF",
    leaf "NbOfTxs" "1",
    leaf "CtrlSum" amountStr,
    node "PmtTpInf" [node "SvcLvl" [leaf "Cd" request.serviceLevel.value]],
    leaf "ReqdExctnDt" (Instant.dateText today),
    node "Dbtr" [leaf "Nm" request.initiatingAccount.accountHolder],
    node "DbtrAcct" [
      node "Id" [leaf "Othr" request.initiatingAccount.accountNumber],
      leaf "Ccy" request.currency
    ],
    node "DbtrAgt" [
      node "FinInstnId" [leaf "ClrSysMmbId" request.initiatingAccount.routingNumber]
    ],
    creditTransfer
  ]
  return Xml.toText
    (.element "Document" [⟨"xmlns", iso20022Namespace⟩] ""
      [node "CstmrCdtTrfInitn" [groupHeader, paymentInformation]])

structure PlaidAdapter where
  mockMode : Bool
  transfers : Dict String ACHTransferResult
deriving DecidableEq

def PlaidAdapter.new (mockMode : Bool) : PlaidAdapter := ⟨mockMode, .empty⟩

/-- What the initiation of a transfer takes from its surroundings. -/
structure TransferDraw where
  transfer : Uuid
  message : Uuid
  paymentInfo : Uuid
  now : Instant
  today : CivilDate
deriving DecidableEq

namespace PlaidAdapter

/-- The transfer that a new request is answered with. -/
def initiate (draw : TransferDraw) (request : ACHTransferRequest)
    : Except PostingError ACHTransferResult := do
  let messageId := "MSG" ++ upper (String.ofList (draw.message.digits.take 12))
  let paymentInfoId := "PMT" ++ upper (String.ofList (draw.paymentInfo.digits.take 12))
  let pain001Xml ←
    buildPain001Xml messageId paymentInfoId draw.now.secondsText draw.today request
  return {
    transferId := "ach_" ++ String.ofList (draw.transfer.digits.take 16)
    tenantId := request.tenantId
    referenceDocument := request.referenceDocument
    messageId
    paymentInfoId
    amountScaled := request.amountScaled
    currency := request.currency
    status := .submitted
    idempotencyKey := request.idempotencyKey
    pain001Xml
    initiatedAt := draw.now.isoformat
  }

/-- Initiate the transfer of a new request and file it under the request's key. -/
def post (s : PlaidAdapter) (draw : TransferDraw) (request : ACHTransferRequest)
    : Except PostingError (ACHTransferResult × PlaidAdapter) :=
  (initiate draw request).map (fun result =>
    (result, { s with transfers := s.transfers.set request.idempotencyKey result }))

/-- Initiate a transfer, or return the one initiated before under the request's key. -/
def initiateTransfer (s : PlaidAdapter) (draw : TransferDraw) (request : ACHTransferRequest)
    : Except PostingError ACHTransferResult × PlaidAdapter :=
  replayOrPost s (.ok ()) (s.transfers.get? request.idempotencyKey) (s.post draw request)

end PlaidAdapter

end PettyFlow.Adapters
