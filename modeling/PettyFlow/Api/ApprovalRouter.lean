import PettyFlow.Api.Endpoint
import PettyFlow.Workflow.Queries

/-! The endpoints of the approval workflow, with the bodies that their schemas accept. The live
feed is told about every change, but what its listeners raise is swallowed there.
-/

namespace PettyFlow.Api

open Foundation PettyFlow.Workflow

structure StateTransitionRecordSchema where
  transitionId : String
  requestId : String
  tenantId : String
  fromState : String
  event : String
  toState : String
  actorId : String
  notes : Option String
  timestamp : Int
deriving DecidableEq

structure ApprovalRequestResponse where
  requestId : String
  tenantId : String
  custodianId : String
  amountScaled : Int
  amountFormatted : String
  currency : String
  description : String
  requiredApprovalTier : String
  state : String
  createdAt : Int
  updatedAt : Int
  receiptMetadata : ReceiptMetadata
  auditTrail : List StateTransitionRecordSchema

/-- The time that the evaluation took is not part of the model. -/
structure PolicyEvaluationResponse where
  requestId : String
  amountScaled : Int
  amountFloat : Double
  requiredTier : String
  matchingRule : String
  autoApproved : Bool

structure SubmitApprovalRequest where
  tenantId : String
  custodianId : String
  amountScaled : Int
  currency : CurrencyCode
  description : String
  receiptMetadata : Option ReceiptMetadata
  autoApproveIfEligible : Bool
  notes : Option String
  positive : 0 < amountScaled

/-- The body of some fields, if the schema accepts them. Texts of blanks pass. -/
def SubmitApprovalRequest.ofFields (tenantId custodianId : String) (amountScaled : Int)
    (currency description : String) (receiptMetadata : Option ReceiptMetadata)
    (autoApproveIfEligible : Bool) (notes : Option String)
    : Option SubmitApprovalRequest :=
  if fits
    : 0 < amountScaled ∧ IsCurrencyText currency
      ∧ (1 ≤ tenantId.length ∧ tenantId.length ≤ 128)
      ∧ (1 ≤ custodianId.length ∧ custodianId.length ≤ 128)
      ∧ 1 ≤ description.length ∧ description.length ≤ 1000 then
    some {
      tenantId
      custodianId
      amountScaled
      currency := .ofText currency fits.2.1
      description
      receiptMetadata
      autoApproveIfEligible
      notes
      positive := fits.1
    }
  else
    none

structure SubmitApprovalResponse where
  request : ApprovalRequestResponse
  policyEvaluation : PolicyEvaluationResponse

structure ApprovalActionRequest where
  tenantId : String
  actorId : String
  notes : String
  actorRole : Option String
  notesNotBlank : isBlank notes = false

def ApprovalActionRequest.ofFields (tenantId actorId notes : String) (actorRole : Option String)
    : Option ApprovalActionRequest :=
  if fits : strip notes ≠ "" ∧ 1 ≤ tenantId.length ∧ 1 ≤ actorId.length then
    some {
      tenantId
      actorId
      notes := strip notes
      actorRole
      notesNotBlank := (isBlank_strip notes).trans (decide_eq_false fits.1)
    }
  else
    none

structure DisburseActionRequest where
  tenantId : String
  actorId : String
  notes : Option String

def DisburseActionRequest.ofFields (tenantId actorId : String) (notes : Option String)
    : Option DisburseActionRequest :=
  if 1 ≤ tenantId.length ∧ 1 ≤ actorId.length then some ⟨tenantId, actorId, notes⟩ else none

/-- How long a page may be. -/
structure PageLimit where
  size : Nat
  positive : 1 ≤ size
  bounded : size ≤ 500

/-- The time that the retrieval took is not part of the model. -/
structure ApprovalQueueResponse where
  tenantId : String
  totalMatching : Nat
  requests : List ApprovalRequestResponse

/-- What no handler of the router catches. -/
inductive ApprovalEscape where
  | workflow (error : WorkflowError)
  /-- An amount is too large for a double. -/
  | overflowError

def StateTransitionRecordSchema.ofRecord (record : StateTransitionRecord)
    : StateTransitionRecordSchema where
  transitionId := record.transitionId
  requestId := record.requestId
  tenantId := record.tenantId
  fromState := record.fromState.value
  event := record.event.value
  toState := record.toState.value
  actorId := record.actorId
  notes := record.notes
  timestamp := record.timestamp

/-- The response for a request, unless its amount is too large to be written. -/
def toResponseDto (request : ApprovalRequest) (metadata : ReceiptMetadata)
    : Option ApprovalRequestResponse :=
  (centsText request.amountScaled).map (fun amountText => {
    requestId := request.requestId
    tenantId := request.tenantId
    custodianId := request.custodianId
    amountScaled := request.amountScaled
    amountFormatted := s!"${groupThousands amountText}"
    currency := request.currency
    description := request.description
    requiredApprovalTier := request.requiredApprovalTier
    state := request.state.value
    createdAt := request.createdAt
    updatedAt := request.updatedAt
    receiptMetadata := metadata
    auditTrail := request.auditTrail.map .ofRecord
  })

/-- The handler around a submission: it catches what is an error of a value. -/
def submitErrors : WorkflowError → EndpointError ApprovalEscape
  | .valueError message => .httpException 400 message
  | .policy (.valueError message) => .httpException 400 message
  | .policy (.policyConfigurationError message) => .httpException 400 message
  | error => .escaped (.workflow error)

def approveErrors : WorkflowError → EndpointError ApprovalEscape
  | .approvalRequestNotFound message => .httpException 404 message
  | .mandatoryAuditReasoningMissing message => .httpException 422 message
  | .insufficientApproverAuthority message => .httpException 403 message
  | .invalidStateTransition message => .httpException 409 message
  | error => .escaped (.workflow error)

def rejectErrors : WorkflowError → EndpointError ApprovalEscape
  | .approvalRequestNotFound message => .httpException 404 message
  | .mandatoryAuditReasoningMissing message => .httpException 422 message
  | .invalidStateTransition message => .httpException 409 message
  | error => .escaped (.workflow error)

def disburseErrors : WorkflowError → EndpointError ApprovalEscape
  | .approvalRequestNotFound message => .httpException 404 message
  | .invalidStateTransition message => .httpException 409 message
  | error => .escaped (.workflow error)

/-- The response of an action, for which the request is read once more. -/
def actionResponse (handlers : WorkflowError → EndpointError ApprovalEscape)
    (tenantId requestId : String)
    (result : Except WorkflowError ApprovalRequest × ApprovalWorkflowService)
    : Answer ApprovalEscape ApprovalRequestResponse ApprovalWorkflowService :=
  match result.1 with
  | .error error => (.error (handlers error), result.2)
  | .ok request =>
      match result.2.getRequest tenantId requestId with
      | .error error => (.error (.escaped (.workflow error)), result.2)
      | .ok (_, metadata) =>
          match toResponseDto request metadata with
          | none => (.error (.escaped .overflowError), result.2)
          | some dto => (.ok dto, result.2)

/-- A filter of the listing: a text that is given has to name a member. -/
def parseFilter {α : Type} (members : List α) (value : α → String) (invalid : String → String)
    (filter : Option String)
    : Except (EndpointError ApprovalEscape) (Option α) :=
  match filter with
  | none | some "" => .ok none
  | some text =>
      match memberOf members value (upper text) with
      | some member => .ok (some member)
      | none => .error (.httpException 400 (invalid text))

def parseState (state : Option String)
    : Except (EndpointError ApprovalEscape) (Option ApprovalState) :=
  parseFilter [.draft, .pending, .approved, .rejected, .disbursed] ApprovalState.value
    (fun text =>
      s!"Invalid state '{text}'. Valid states: ['DRAFT', 'PENDING', 'APPROVED', 'REJECTED', 'DISBURSED']")
    state

def parseTier (tier : Option String)
    : Except (EndpointError ApprovalEscape) (Option ApprovalTier) :=
  parseFilter [.autoApprove, .manager, .financeDirector] ApprovalTier.value
    (fun text =>
      s!"Invalid tier '{text}'. Valid tiers: ['AUTO_APPROVE', 'MANAGER', 'FINANCE_DIRECTOR']")
    tier

namespace ApprovalRouter

def submitRequest (s : ApprovalWorkflowService) (draw : SubmitDraw) (body : SubmitApprovalRequest)
    : Answer ApprovalEscape SubmitApprovalResponse ApprovalWorkflowService :=
  let result :=
    s.submitRequest draw body.tenantId body.custodianId (.int body.amountScaled)
      body.currency.text body.description body.receiptMetadata body.autoApproveIfEligible
      body.notes
  match result.1 with
  | .error error => (.error (submitErrors error), result.2)
  | .ok (request, evaluation) =>
      match toResponseDto request (body.receiptMetadata.getD []),
        Double.nearest? evaluation.amountScaled.natAbs 10000 with
      | some dto, some amountFloat =>
          (.ok
            {
              request := dto
              policyEvaluation := {
                requestId := evaluation.requestId
                amountScaled := evaluation.amountScaled
                amountFloat
                requiredTier := evaluation.requiredTier.value
                matchingRule := evaluation.matchingRule
                autoApproved := evaluation.autoApproved
              }
            },
            result.2)
      | _, _ => (.error (.escaped .overflowError), result.2)

def approveRequest (s : ApprovalWorkflowService) (draw : TransitionDraw) (updatedAt : Int)
    (requestId : String) (action : ApprovalActionRequest)
    : Answer ApprovalEscape ApprovalRequestResponse ApprovalWorkflowService :=
  actionResponse approveErrors action.tenantId requestId
    (s.approveRequest draw updatedAt action.tenantId requestId action.actorId (some action.notes)
      action.actorRole)

/-- The role of the actor is passed on, but a rejection does not look at it. -/
def rejectRequest (s : ApprovalWorkflowService) (draw : TransitionDraw) (updatedAt : Int)
    (requestId : String) (action : ApprovalActionRequest)
    : Answer ApprovalEscape ApprovalRequestResponse ApprovalWorkflowService :=
  actionResponse rejectErrors action.tenantId requestId
    (s.rejectRequest draw updatedAt action.tenantId requestId action.actorId (some action.notes))

def disburseRequest (s : ApprovalWorkflowService) (draw : TransitionDraw) (updatedAt : Int)
    (requestId : String) (action : DisburseActionRequest)
    : Answer ApprovalEscape ApprovalRequestResponse ApprovalWorkflowService :=
  actionResponse disburseErrors action.tenantId requestId
    (s.disburseRequest draw updatedAt action.tenantId requestId action.actorId action.notes)

/-- A page of the requests that match. Its total is the number of requests on it. -/
def listApprovals (s : ApprovalWorkflowService) (tenantId : String)
    (state tier custodianId : Option String) (limit : PageLimit) (offset : Nat)
    : Except (EndpointError ApprovalEscape) ApprovalQueueResponse := do
  let parsedState ← parseState state
  let parsedTier ← parseTier tier
  let results := s.listRequests tenantId parsedState parsedTier custodianId limit.size offset
  match results.mapM (fun result => toResponseDto result.1 result.2) with
  | none => .error (.escaped .overflowError)
  | some dtos => .ok { tenantId, totalMatching := dtos.length, requests := dtos }

def getSummary (s : ApprovalWorkflowService) (tenantId : String)
    : Except (EndpointError ApprovalEscape) SummaryStats :=
  orRaise (s.getSummaryStats tenantId) (.escaped .overflowError)

def getApprovalDetails (s : ApprovalWorkflowService) (requestId tenantId : String)
    : Except (EndpointError ApprovalEscape) ApprovalRequestResponse :=
  match s.getRequest tenantId requestId with
  | .error (.approvalRequestNotFound message) => .error (.httpException 404 message)
  | .error error => .error (.escaped (.workflow error))
  | .ok (request, metadata) => orRaise (toResponseDto request metadata) (.escaped .overflowError)

end ApprovalRouter

end PettyFlow.Api
