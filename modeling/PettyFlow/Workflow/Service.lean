import PettyFlow.Foundation.Casing
import PettyFlow.Foundation.Json
import PettyFlow.Foundation.Machine
import PettyFlow.Workflow.StateMachine

/-! The approval workflow service: tenant-scoped requests, tier evaluation on submission and
the approval, rejection and disbursement of stored requests. Delivery of events to
listeners happens after the change of state and is not part of this state.
-/

namespace PettyFlow.Workflow

open Foundation

abbrev RequestKey := String × String

/-- The service's tables, keyed by tenant and request. -/
structure ApprovalWorkflowService where
  policyEvaluator : ApprovalPolicyEvaluator
  requests : Dict RequestKey ApprovalRequest
  metadata : Dict RequestKey (List (String × Json))

def ApprovalWorkflowService.initial (policyEvaluator : ApprovalPolicyEvaluator)
    : ApprovalWorkflowService :=
  ⟨policyEvaluator, .empty, .empty⟩

/-- The approval authority that a tier asks for. -/
def tierHierarchy (requiredTier : String) : Nat :=
  match requiredTier with
  | "AUTO_APPROVE" => 0
  | "MANAGER" => 1
  | "FINANCE_DIRECTOR" => 2
  | _ => 1

/-- The approval authority of a role name in capitals. -/
def roleTierMap (role : String) : Nat :=
  match role with
  | "AUTO" => 0
  | "MANAGER" => 1
  | "LINE_MANAGER" => 1
  | "FINANCE_MANAGER" => 1
  | "FINANCE_DIRECTOR" => 2
  | "CFO" => 2
  | "DIRECTOR" => 2
  | "ADMIN" => 2
  | _ => 0

/-- The authority of a role as it is passed, blanks and small letters included. -/
def roleLevel (actorRole : String) : Nat := roleTierMap (upper (strip actorRole))

def verifyRoleAuthority (requiredTier actorRole actorId : String)
    : Except WorkflowError Unit :=
  raiseIf (roleLevel actorRole < tierHierarchy requiredTier)
    (.insufficientApproverAuthority
      s!"Actor '{actorId}' with role '{actorRole}' lacks authority for required tier '{requiredTier}'")

/-- The authority check is made only for a call that passes a role. -/
def verifyRoleIfGiven (requiredTier : String) (actorRole : Option String) (actorId : String)
    : Except WorkflowError Unit :=
  match actorRole with
  | none | some "" => .ok ()
  | some role => verifyRoleAuthority requiredTier role actorId

/-- An optional text where the empty text counts as missing. -/
def orText (text : Option String) (fallback : String) : String :=
  match text with
  | some "" => fallback
  | some text => text
  | none => fallback

/-- What a submission takes from its surroundings. -/
structure SubmitDraw where
  requestId : Uuid
  createdAt : Int
  updatedAt : Int
  submit : TransitionDraw
  approve : TransitionDraw
deriving DecidableEq

namespace ApprovalWorkflowService

def storedRequest (s : ApprovalWorkflowService) (tenantId requestId : String)
    : Except WorkflowError ApprovalRequest :=
  orRaise (s.requests.get? (tenantId, requestId))
    (.approvalRequestNotFound
      s!"Approval request '{requestId}' not found for tenant '{tenantId}'")

/-- Write back a request after an action on it. -/
def touch (s : ApprovalWorkflowService) (key : RequestKey) (updatedAt : Int)
    (request : ApprovalRequest)
    : ApprovalRequest × ApprovalWorkflowService :=
  let updated := { request with updatedAt }
  (updated, { s with requests := s.requests.set key updated })

/-- Create a request, submit it, and approve it at once where the policy allows. -/
def submitRequest (s : ApprovalWorkflowService) (draw : SubmitDraw)
    (tenantId custodianId : String) (amountScaled : NumberArg)
    (currency description : String) (receiptMetadata : Option (List (String × Json)))
    (autoApproveIfEligible : Bool) (initialNotes : Option String)
    : Except WorkflowError (ApprovalRequest × PolicyEvaluationResult)
      × ApprovalWorkflowService :=
  attempt s
    (do
      raiseIf (isBlank tenantId) (.valueError "tenant_id must not be blank")
      raiseIf (isBlank custodianId) (.valueError "custodian_id must not be blank")
      let amount ← orRaise amountScaled.int?
        (.typeError "amount_scaled must be an integer fixed-point value")
      raiseIf (amount ≤ 0) (.valueError "amount_scaled must be strictly positive")
      raiseIf ((strip currency).length ≠ 3)
        (.valueError "currency must be a valid 3-letter ISO code")
      raiseIf (isBlank description) (.valueError "description must not be blank")
      let evaluation ←
        (s.policyEvaluator.evaluate draw.requestId.text amountScaled).mapError .policy
      let request : ApprovalRequest := {
        requestId := draw.requestId.text
        tenantId := strip tenantId
        custodianId := strip custodianId
        amountScaled := amount
        currency := upper (strip currency)
        description := strip description
        requiredApprovalTier := evaluation.requiredTier.value
        state := .draft
        auditTrail := []
        createdAt := draw.createdAt
        updatedAt := draw.updatedAt
      }
      let submitNotes := orText initialNotes
        s!"Submitted by custodian. Required tier: {evaluation.requiredTier.value}"
      let submitted ←
        transition request .submit (strip custodianId) (some submitNotes) draw.submit
      if evaluation.autoApproved && autoApproveIfEligible then
        let approved ←
          transition submitted .approve "SYSTEM_AUTO_APPROVER"
            (some s!"Auto-approved by policy rule: {evaluation.matchingRule}") draw.approve
        return (approved, evaluation)
      else
        return (submitted, evaluation))
    (fun (request, evaluation) =>
      let key := (request.tenantId, request.requestId)
      ((request, evaluation),
        {
          s with
          requests := s.requests.set key request
          metadata :=
            match receiptMetadata with
            | none | some [] => s.metadata
            | some receipt => s.metadata.set key receipt
        }))

def approveRequest (s : ApprovalWorkflowService) (draw : TransitionDraw) (updatedAt : Int)
    (tenantId requestId actorId : String) (notes actorRole : Option String)
    : Except WorkflowError ApprovalRequest × ApprovalWorkflowService :=
  attempt s
    (do
      let cleanActor := strip actorId
      let cleanNotes := strip (notes.getD "")
      raiseIf (cleanActor = "") (.valueError "actor_id must not be blank")
      raiseIf (cleanNotes = "")
        (.mandatoryAuditReasoningMissing
          "Mandatory audit reasoning is required to approve a disbursement request.")
      let request ← s.storedRequest (strip tenantId) (strip requestId)
      verifyRoleIfGiven request.requiredApprovalTier actorRole cleanActor
      transition request .approve cleanActor (some cleanNotes) draw)
    (s.touch (strip tenantId, strip requestId) updatedAt)

def rejectRequest (s : ApprovalWorkflowService) (draw : TransitionDraw) (updatedAt : Int)
    (tenantId requestId actorId : String) (notes : Option String)
    : Except WorkflowError ApprovalRequest × ApprovalWorkflowService :=
  attempt s
    (do
      let cleanActor := strip actorId
      let cleanNotes := strip (notes.getD "")
      raiseIf (cleanActor = "") (.valueError "actor_id must not be blank")
      raiseIf (cleanNotes = "")
        (.mandatoryAuditReasoningMissing
          "Mandatory audit reasoning is required to reject a disbursement request.")
      let request ← s.storedRequest (strip tenantId) (strip requestId)
      transition request .reject cleanActor (some cleanNotes) draw)
    (s.touch (strip tenantId, strip requestId) updatedAt)

def disburseRequest (s : ApprovalWorkflowService) (draw : TransitionDraw) (updatedAt : Int)
    (tenantId requestId actorId : String) (notes : Option String)
    : Except WorkflowError ApprovalRequest × ApprovalWorkflowService :=
  attempt s
    (do
      let cleanActor := strip actorId
      let cleanNotes := strip (orText notes "Funds disbursed by finance custodian")
      raiseIf (cleanActor = "") (.valueError "actor_id must not be blank")
      let request ← s.storedRequest (strip tenantId) (strip requestId)
      transition request .disburse cleanActor (some cleanNotes) draw)
    (s.touch (strip tenantId, strip requestId) updatedAt)

end ApprovalWorkflowService

inductive WorkflowCall where
  | submitRequest (draw : SubmitDraw) (tenantId custodianId : String)
    (amountScaled : NumberArg) (currency description : String)
    (receiptMetadata : Option (List (String × Json))) (autoApproveIfEligible : Bool)
    (initialNotes : Option String)
  | approveRequest (draw : TransitionDraw) (updatedAt : Int)
    (tenantId requestId actorId : String) (notes actorRole : Option String)
  | rejectRequest (draw : TransitionDraw) (updatedAt : Int)
    (tenantId requestId actorId : String) (notes : Option String)
  | disburseRequest (draw : TransitionDraw) (updatedAt : Int)
    (tenantId requestId actorId : String) (notes : Option String)

inductive WorkflowAnswer where
  | submitted (request : ApprovalRequest) (evaluation : PolicyEvaluationResult)
  | acted (request : ApprovalRequest)
deriving DecidableEq

def answer {α : Type} (wrap : α → WorkflowAnswer)
    (result : Except WorkflowError α × ApprovalWorkflowService)
    : Except WorkflowError WorkflowAnswer × ApprovalWorkflowService :=
  (result.1.map wrap, result.2)

def serve (s : ApprovalWorkflowService)
    : WorkflowCall → Except WorkflowError WorkflowAnswer × ApprovalWorkflowService
  | .submitRequest draw tenantId custodianId amount currency description receipt auto notes =>
      answer (fun result => .submitted result.1 result.2)
        (s.submitRequest draw tenantId custodianId amount currency description receipt auto
          notes)
  | .approveRequest draw updatedAt tenantId requestId actorId notes actorRole =>
      answer .acted (s.approveRequest draw updatedAt tenantId requestId actorId notes actorRole)
  | .rejectRequest draw updatedAt tenantId requestId actorId notes =>
      answer .acted (s.rejectRequest draw updatedAt tenantId requestId actorId notes)
  | .disburseRequest draw updatedAt tenantId requestId actorId notes =>
      answer .acted (s.disburseRequest draw updatedAt tenantId requestId actorId notes)

def workflowMachine
    : Machine ApprovalWorkflowService WorkflowCall (Except WorkflowError WorkflowAnswer) :=
  ⟨serve⟩

end PettyFlow.Workflow
