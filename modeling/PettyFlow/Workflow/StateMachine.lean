import PettyFlow.Foundation.Dict
import PettyFlow.Foundation.Uuid
import PettyFlow.Workflow.PolicyEvaluator

/-! The approval lifecycle of a request: its states, the transition table and the audit
record that every transition leaves.
-/

namespace PettyFlow.Workflow

open Foundation

inductive ApprovalState where
  | draft
  | pending
  | approved
  | rejected
  | disbursed
deriving DecidableEq

inductive ApprovalEvent where
  | submit
  | approve
  | reject
  | disburse
  | cancel
deriving DecidableEq

def ApprovalState.value : ApprovalState → String
  | .draft => "DRAFT"
  | .pending => "PENDING"
  | .approved => "APPROVED"
  | .rejected => "REJECTED"
  | .disbursed => "DISBURSED"

def ApprovalEvent.value : ApprovalEvent → String
  | .submit => "SUBMIT"
  | .approve => "APPROVE"
  | .reject => "REJECT"
  | .disburse => "DISBURSE"
  | .cancel => "CANCEL"

/-- The next state for each state and event. What is not listed is not permitted. -/
def transitionTable : Dict (ApprovalState × ApprovalEvent) ApprovalState where
  entries := [
    ((.draft, .submit), .pending),
    ((.draft, .cancel), .rejected),
    ((.pending, .approve), .approved),
    ((.pending, .reject), .rejected),
    ((.approved, .disburse), .disbursed)
  ]
  keysUnique := by decide

def terminalStates : List ApprovalState := [.rejected, .disbursed]

/-- The exceptions of the workflow, by class, with their texts. -/
inductive WorkflowError where
  | typeError (message : String)
  | valueError (message : String)
  | policy (error : PolicyError)
  | invalidStateTransition (message : String)
  | approvalRequestNotFound (message : String)
  | mandatoryAuditReasoningMissing (message : String)
  | insufficientApproverAuthority (message : String)
deriving DecidableEq

/-- The audit record of one transition. -/
structure StateTransitionRecord where
  transitionId : String
  requestId : String
  tenantId : String
  fromState : ApprovalState
  event : ApprovalEvent
  toState : ApprovalState
  actorId : String
  notes : Option String
  timestamp : Int
deriving DecidableEq

/-- A disbursement request. The amount is in fixed-point units, times are clock readings. -/
structure ApprovalRequest where
  requestId : String
  tenantId : String
  custodianId : String
  amountScaled : Int
  currency : String
  description : String
  requiredApprovalTier : String
  state : ApprovalState
  auditTrail : List StateTransitionRecord
  createdAt : Int
  updatedAt : Int
deriving DecidableEq

def ApprovalRequest.isTerminal (request : ApprovalRequest) : Bool :=
  terminalStates.contains request.state

/-- What one transition takes from its surroundings: an identifier for the record and the
clock readings of the record and of the update.
-/
structure TransitionDraw where
  transitionId : Uuid
  timestamp : Int
  updatedAt : Int
deriving DecidableEq

/-- Apply an event: the request in its next state, with the record added to its trail. -/
def transition (request : ApprovalRequest) (event : ApprovalEvent) (actorId : String)
    (notes : Option String) (draw : TransitionDraw)
    : Except WorkflowError ApprovalRequest :=
  match transitionTable.get? (request.state, event) with
  | none =>
      .error (.invalidStateTransition
        s!"Invalid transition: cannot apply event '{event.value}' to request '{request.requestId}' in state '{request.state.value}'.")
  | some toState =>
      let record : StateTransitionRecord := {
        transitionId := draw.transitionId.text
        requestId := request.requestId
        tenantId := request.tenantId
        fromState := request.state
        event
        toState
        actorId
        notes
        timestamp := draw.timestamp
      }
      .ok {
        request with
        auditTrail := request.auditTrail ++ [record]
        state := toState
        updatedAt := draw.updatedAt
      }

end PettyFlow.Workflow
