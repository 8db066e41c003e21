import PettyFlow.Api.Endpoint
import PettyFlow.Foundation.Dict
import PettyFlow.Reconciliation.VarianceAnalyzer

/-! The endpoints of the daily closing: a closing is reconciled, analysed and filed under the
identifier that it draws; filed closings are signed off and listed.
-/

namespace PettyFlow.Reconciliation

open Foundation Ledger

/-! ### Reports -/

def ReconciliationStatus.value : ReconciliationStatus → String
  | .balanced => "BALANCED"
  | .varianceOver => "VARIANCE_OVER"
  | .varianceShort => "VARIANCE_SHORT"
  | .discrepancyPendingAudit => "DISCREPANCY_PENDING_AUDIT"

def VarianceDisposition.value : VarianceDisposition → String
  | .autoAdjusted => "AUTO_ADJUSTED"
  | .pendingApproval => "PENDING_APPROVAL"
  | .escalatedAudit => "ESCALATED_AUDIT"
  | .rejected => "REJECTED"

structure ReconciliationReport where
  reconciliationId : String
  tenantId : String
  fundId : String
  status : String
  isBalanced : Bool
  isExactMatch : Bool
  physicalCashFormatted : String
  systemExpectedFormatted : String
  bankClearedFormatted : String
  cashVarianceScaled : Int
  cashVarianceFormatted : String
  bankVarianceScaled : Int
  bankVarianceFormatted : String
  reconciledAt : String
  message : String
deriving DecidableEq

def ReconciliationResult.isExactMatch (r : ReconciliationResult) : Bool :=
  r.cashVarianceScaled = 0 ∧ r.bankVarianceScaled = 0

/-- An amount in dollars that is converted before it is divided. -/
def convertedDollars (amountScaled : Int) : Except LedgerError String :=
  (orRaise (amountText amountScaled)
    (.overflowError "int too large to convert to float")).map ("$" ++ ·)

def ReconciliationResult.toDict (r : ReconciliationResult)
    : Except LedgerError ReconciliationReport := do
  let physicalCashFormatted ← dollars r.physicalCashScaled
  let systemExpectedFormatted ← dollars r.systemExpectedScaled
  let bankClearedFormatted ← dollars r.bankClearedScaled
  let cashVarianceFormatted ← convertedDollars r.cashVarianceScaled
  let bankVarianceFormatted ← dollars r.bankVarianceScaled
  return {
    reconciliationId := r.reconciliationId
    tenantId := r.tenantId
    fundId := r.fundId
    status := r.status.value
    isBalanced := r.isBalanced
    isExactMatch := r.isExactMatch
    physicalCashFormatted
    systemExpectedFormatted
    bankClearedFormatted
    cashVarianceScaled := r.cashVarianceScaled
    cashVarianceFormatted
    bankVarianceScaled := r.bankVarianceScaled
    bankVarianceFormatted
    reconciledAt := r.reconciledAt
    message := r.message
  }

structure AnalysisReport where
  analysisId : String
  reconciliationId : String
  tenantId : String
  fundId : String
  varianceScaled : Int
  varianceFormatted : String
  disposition : String
  isAutoAdjusted : Bool
  requiresEscalation : Bool
  requiredRole : Option String
  adjustmentBatchId : Option String
  policySummary : String
  analyzedAt : String
deriving DecidableEq

def VarianceAnalysisResult.toDict (v : VarianceAnalysisResult) : AnalysisReport where
  analysisId := v.analysisId
  reconciliationId := v.reconciliationId
  tenantId := v.tenantId
  fundId := v.fundId
  varianceScaled := v.varianceScaled
  varianceFormatted := v.varianceFormatted
  disposition := v.disposition.value
  isAutoAdjusted := v.isAutoAdjusted
  requiresEscalation := v.requiresEscalation
  requiredRole := v.requiredRole
  adjustmentBatchId := v.adjustmentBatch.map TransactionBatch.transactionId
  policySummary := v.policySummary
  analyzedAt := v.analyzedAt

theorem toDict_ok {r : ReconciliationResult} {report : ReconciliationReport}
    (reported : r.toDict = .ok report)
    : report.reconciliationId = r.reconciliationId ∧ report.tenantId = r.tenantId := by
  obtain ⟨_, _, reported⟩ := bind_ok reported
  obtain ⟨_, _, reported⟩ := bind_ok reported
  obtain ⟨_, _, reported⟩ := bind_ok reported
  obtain ⟨_, _, reported⟩ := bind_ok reported
  obtain ⟨_, _, reported⟩ := bind_ok reported
  cases reported
  exact ⟨rfl, rfl⟩

end PettyFlow.Reconciliation

namespace PettyFlow.Api

open Foundation Ledger PettyFlow.Reconciliation

/-! ### Bodies -/

/-- Counts of bills and coins, none of them negative. -/
structure DenominationsSchema where
  counts : DenominationBreakdown
  notNegative
    : 0 ≤ counts.hundreds ∧ 0 ≤ counts.fifties ∧ 0 ≤ counts.twenties ∧ 0 ≤ counts.tens
      ∧ 0 ≤ counts.fives ∧ 0 ≤ counts.ones ∧ 0 ≤ counts.quarters ∧ 0 ≤ counts.dimes
      ∧ 0 ≤ counts.nickels ∧ 0 ≤ counts.pennies ∧ 0 ≤ counts.customCoinsScaled

structure DailyClosingRequest where
  tenantId : String
  fundId : String
  fundAccountId : String
  denominations : DenominationsSchema
  openingFloatScaled : Int
  totalDisbursedScaled : Int
  totalReplenishedScaled : Int
  bankClearedReplenishmentsScaled : Option Int
  notNegative : 0 ≤ openingFloatScaled ∧ 0 ≤ totalDisbursedScaled ∧ 0 ≤ totalReplenishedScaled

namespace DailyClosingRequest

def cashCount (request : DailyClosingRequest) : CashCountRecord :=
  ⟨request.tenantId, request.fundId, request.denominations.counts⟩

def systemFloat (request : DailyClosingRequest) : SystemFloatRecord :=
  ⟨request.tenantId, request.openingFloatScaled, request.totalDisbursedScaled,
    request.totalReplenishedScaled⟩

def bankFeed (request : DailyClosingRequest) : Option BankFeedRecord :=
  request.bankClearedReplenishmentsScaled.map (fun cleared => ⟨request.tenantId, cleared⟩)

end DailyClosingRequest

structure SignOffRequest where
  tenantId : String
  reconciliationId : String
  signerId : String
  signerRole : String
  approvalNotes : Option String
deriving DecidableEq

/-! ### Responses -/

structure ClosingResponse where
  reconciliation : ReconciliationReport
  analysis : AnalysisReport
  hasAdjustment : Bool
deriving DecidableEq

abbrev ClosingResponse.id (r : ClosingResponse) : String := r.reconciliation.reconciliationId

abbrev ClosingResponse.tenantId (r : ClosingResponse) : String := r.reconciliation.tenantId

structure SignatureRecord where
  signerId : String
  signerRole : String
  signedAt : String
  approvalNotes : Option String
deriving DecidableEq

def SignOffRequest.record (request : SignOffRequest) (now : Instant) : SignatureRecord :=
  ⟨request.signerId, request.signerRole, now.isoformat, request.approvalNotes⟩

structure SignOffResponse where
  reconciliationId : String
  status : String
  totalSignatures : Nat
  signatures : List SignatureRecord
deriving DecidableEq

structure HistoryResponse where
  tenantId : String
  totalRecords : Nat
  records : List ClosingResponse
deriving DecidableEq

/-! ### Endpoints -/

/-- The text of an exception. -/
def errorText : LedgerError → String
  | .valueError message | .overflowError message | .unbalancedLedgerEntry message
  | .chainTampered message =>
      message

/-- The handler around reconciliation and analysis. -/
def closingErrors (error : LedgerError) : EndpointError LedgerError :=
  .httpException 400 (errorText error)

def notFound (reconciliationId : String) : EndpointError LedgerError :=
  .httpException 404 s!"Reconciliation ID '{reconciliationId}' not found."

def boundaryViolation (recTenantId tenantId : String) : EndpointError LedgerError :=
  .httpException 403
    (s!"Tenant boundary violation: Reconciliation belongs to tenant '{recTenantId}' "
      ++ s!"but sign-off attempted by '{tenantId}'.")

/-- What a closing draws: for its result, for the analysis and for a journal. -/
structure ClosingDraws where
  result : Draw
  analysis : Draw
  batch : Draw
deriving DecidableEq

/-- The response to a closing. Its report is made outside of the handler. -/
def closing (m : ReconciliationMatcher) (a : VarianceAnalyzer) (draws : ClosingDraws)
    (request : DailyClosingRequest)
    : Except (EndpointError LedgerError) ClosingResponse := do
  let (result, analysis) ←
    (do
      let result ← m.reconcile draws.result request.cashCount request.systemFloat request.bankFeed
      let analysis ← a.analyze draws.analysis draws.batch result request.fundAccountId
      return (result, analysis)).mapError closingErrors
  let reconciliation ← result.toDict.mapError .escaped
  return ⟨reconciliation, analysis.toDict, analysis.adjustmentBatch.isSome⟩

/-- The state of the router. Closings and signatures are filed under the same identifiers. -/
structure ReconciliationRouter where
  history : Dict String ClosingResponse
  signoffs : Dict String (List SignatureRecord)
  sameKeys : ∀ id, (signoffs.get? id).isSome = (history.get? id).isSome

namespace ReconciliationRouter

def new : ReconciliationRouter := ⟨.empty, .empty, fun _ => rfl⟩

/-- File a closing without signatures. -/
def file (s : ReconciliationRouter) (response : ClosingResponse) : ReconciliationRouter where
  history := s.history.set response.id response
  signoffs := s.signoffs.set response.id []
  sameKeys := by
    intro id
    rw [Dict.get?_set, Dict.get?_set]
    split
    · rfl
    · exact s.sameKeys id

def submitDailyClosing (m : ReconciliationMatcher) (a : VarianceAnalyzer)
    (s : ReconciliationRouter) (draws : ClosingDraws) (request : DailyClosingRequest)
    : Answer LedgerError ClosingResponse ReconciliationRouter :=
  attempt s (closing m a draws request) (fun response => (response, s.file response))

/-- The signatures of a filed closing. -/
def signatures (s : ReconciliationRouter) (id : String) (filed : (s.history.get? id).isSome = true)
    : List SignatureRecord :=
  (s.signoffs.get? id).get ((s.sameKeys id).trans filed)

/-- Put signatures in the place of those that a filed closing has. -/
def resign (s : ReconciliationRouter) (id : String) (filed : (s.history.get? id).isSome = true)
    (signatures : List SignatureRecord)
    : ReconciliationRouter where
  history := s.history
  signoffs := s.signoffs.set id signatures
  sameKeys := by
    intro other
    rw [Dict.get?_set]
    split
    · rename_i same
      rw [← same, filed, Option.isSome_some]
    · exact s.sameKeys other

/-- A sign-off has to name a filed closing of its own tenant. -/
def boundary (s : ReconciliationRouter) (request : SignOffRequest)
    : Except (EndpointError LedgerError)
        (PLift ((s.history.get? request.reconciliationId).isSome = true)) :=
  if filed : (s.history.get? request.reconciliationId).isSome = true then
    let recTenantId := ((s.history.get? request.reconciliationId).get filed).tenantId
    if request.tenantId ≠ recTenantId then
      .error (boundaryViolation recTenantId request.tenantId)
    else
      .ok ⟨filed⟩
  else
    .error (notFound request.reconciliationId)

def signOffReconciliation (s : ReconciliationRouter) (now : Instant) (request : SignOffRequest)
    : Answer LedgerError SignOffResponse ReconciliationRouter :=
  attempt s (s.boundary request) (fun filed =>
    let signatures := s.signatures request.reconciliationId filed.down ++ [request.record now]
    (⟨request.reconciliationId, "SIGNED", signatures.length, signatures⟩,
      s.resign request.reconciliationId filed.down signatures))

/-- The filed closings of a tenant, in the order in which their identifiers were filed. -/
def getHistory (s : ReconciliationRouter) (tenantId : String) : HistoryResponse :=
  let records := (s.history.entries.map Prod.snd).filter (fun r => r.tenantId = tenantId)
  ⟨tenantId, records.length, records⟩

end ReconciliationRouter

inductive ClosingCall where
  | submitDailyClosing (draws : ClosingDraws) (request : DailyClosingRequest)
  | signOff (now : Instant) (request : SignOffRequest)
  | getHistory (tenantId : String)

inductive ClosingAnswer where
  | closed (response : ClosingResponse)
  | signed (response : SignOffResponse)
  | listed (response : HistoryResponse)

def closingMachine (m : ReconciliationMatcher) (a : VarianceAnalyzer)
    : Machine ReconciliationRouter ClosingCall
        (Except (EndpointError LedgerError) ClosingAnswer) where
  step s call :=
    match call with
    | .submitDailyClosing draws request =>
        let (outcome, next) := s.submitDailyClosing m a draws request
        (outcome.map .closed, next)
    | .signOff now request =>
        let (outcome, next) := s.signOffReconciliation now request
        (outcome.map .signed, next)
    | .getHistory tenantId => (.ok (.listed (s.getHistory tenantId)), s)

/-! ### What the endpoints do -/

section Closing

variable {m : ReconciliationMatcher} {a : VarianceAnalyzer} {draws : ClosingDraws}
  {request : DailyClosingRequest}

/-- A closing is filed under the identifier that it draws, for the tenant of its body. -/
theorem closing_ok {response : ClosingResponse}
    (closed : closing m a draws request = .ok response)
    : response.id = shortId "REC-" draws.result.uuid ∧ response.tenantId = request.tenantId := by
  obtain ⟨⟨result, analysis⟩, checked, closed⟩ := bind_ok closed
  obtain ⟨report, reported, closed⟩ := bind_ok closed
  cases closed
  obtain ⟨id, tenant⟩ := toDict_ok (mapError_ok reported)
  have checked := mapError_ok checked
  obtain ⟨reconciled, made, checked⟩ := bind_ok checked
  obtain ⟨analysed, _, checked⟩ := bind_ok checked
  cases checked
  refine ⟨id.trans ?_, tenant.trans (ReconciliationMatcher.reconcile_tenant made)⟩
  obtain ⟨_, _, made⟩ := bind_ok made
  obtain ⟨_, _, made⟩ := bind_ok made
  obtain ⟨_, _, made⟩ := bind_ok made
  cases made
  rfl

end Closing

section Steps

variable {m : ReconciliationMatcher} {a : VarianceAnalyzer} {s : ReconciliationRouter}

theorem step_signOff (now : Instant) (request : SignOffRequest)
    : (closingMachine m a).step s (.signOff now request)
      = ((s.signOffReconciliation now request).1.map .signed,
          (s.signOffReconciliation now request).2) :=
  rfl

/-- A closing that is made is filed. -/
theorem step_closing_ok {draws : ClosingDraws} {request : DailyClosingRequest}
    {response : ClosingResponse} (closed : closing m a draws request = .ok response)
    : (closingMachine m a).step s (.submitDailyClosing draws request)
      = (.ok (.closed response), s.file response) := by
  simp only [closingMachine, ReconciliationRouter.submitDailyClosing, closed]
  rfl

/-- A closing that fails changes nothing. -/
theorem step_closing_error {draws : ClosingDraws} {request : DailyClosingRequest}
    {error : EndpointError LedgerError} (rejected : closing m a draws request = .error error)
    : (closingMachine m a).step s (.submitDailyClosing draws request) = (.error error, s) := by
  simp only [closingMachine, ReconciliationRouter.submitDailyClosing, rejected]
  rfl

end Steps

namespace ReconciliationRouter

variable (s : ReconciliationRouter)

/-- The three ways in which a sign-off ends. -/
inductive SignOffOutcome (now : Instant) (request : SignOffRequest) : Prop
  | unknown (missing : s.history.get? request.reconciliationId = none)
      (answer
        : s.signOffReconciliation now request = (.error (notFound request.reconciliationId), s))
  | foreign (response : ClosingResponse)
      (filed : s.history.get? request.reconciliationId = some response)
      (other : request.tenantId ≠ response.tenantId)
      (answer
        : s.signOffReconciliation now request
          = (.error (boundaryViolation response.tenantId request.tenantId), s))
  | signed (response : ClosingResponse) (earlier : List SignatureRecord)
      (filed : s.history.get? request.reconciliationId = some response)
      (own : request.tenantId = response.tenantId)
      (signatures : s.signoffs.get? request.reconciliationId = some earlier)
      (answer
        : (s.signOffReconciliation now request).1
          = .ok ⟨request.reconciliationId, "SIGNED", earlier.length + 1,
              earlier ++ [request.record now]⟩)
      (history : (s.signOffReconciliation now request).2.history = s.history)
      (signoffs
        : (s.signOffReconciliation now request).2.signoffs
          = s.signoffs.set request.reconciliationId (earlier ++ [request.record now]))

theorem signOff_outcome (now : Instant) (request : SignOffRequest)
    : s.SignOffOutcome now request := by
  rcases found : s.history.get? request.reconciliationId with _ | response
  · have absent : ¬ (s.history.get? request.reconciliationId).isSome = true := by
      rw [found]
      simp
    have rejected : s.boundary request = .error (notFound request.reconciliationId) :=
      dif_neg absent
    exact .unknown found (by rw [signOffReconciliation, rejected]; rfl)
  · have filed : (s.history.get? request.reconciliationId).isSome = true := by
      rw [found]
      rfl
    have owner : (s.history.get? request.reconciliationId).get filed = response :=
      Option.get_of_eq_some filed found
    by_cases own : request.tenantId = response.tenantId
    · have passed : s.boundary request = .ok ⟨filed⟩ := by
        rw [boundary, dif_pos filed, owner]
        exact if_neg (not_not.mpr own)
      have held := Option.some_get ((s.sameKeys request.reconciliationId).trans filed)
      have answered
          : s.signOffReconciliation now request
            = (.ok ⟨request.reconciliationId, "SIGNED",
                  (s.signatures request.reconciliationId filed ++ [request.record now]).length,
                  s.signatures request.reconciliationId filed ++ [request.record now]⟩,
                s.resign request.reconciliationId filed
                  (s.signatures request.reconciliationId filed ++ [request.record now])) := by
        rw [signOffReconciliation, passed]
        rfl
      refine .signed response _ found own held.symm ?_ ?_ ?_
      · rw [answered, List.length_append]
        rfl
      · rw [answered]
        rfl
      · rw [answered]
        rfl
    · have rejected
          : s.boundary request
            = .error (boundaryViolation response.tenantId request.tenantId) := by
        rw [boundary, dif_pos filed, owner]
        exact if_pos own
      exact .foreign response found own (by rw [signOffReconciliation, rejected]; rfl)

end ReconciliationRouter

end PettyFlow.Api
