import PettyFlow.Workflow.CallEffect

/-! The workflow service with its live feed. A request is one object that all operations on it
share; an operation changes it in its locked section, and builds its event from the object in a
later step of its own.
-/

namespace PettyFlow.Workflow

open Foundation

/-- The kinds of events in the feed. -/
inductive FeedKind where
  | submitted
  | autoApproved
  | approved
  | rejected
  | disbursed
deriving DecidableEq

namespace FeedKind

def eventType : FeedKind → String
  | .submitted => "REQUEST_SUBMITTED"
  | .autoApproved => "REQUEST_AUTO_APPROVED"
  | .approved => "REQUEST_APPROVED"
  | .rejected => "REQUEST_REJECTED"
  | .disbursed => "REQUEST_DISBURSED"

/-- The states that an operation of the kind goes through. -/
def path : FeedKind → List ApprovalState
  | .submitted => [.pending]
  | .autoApproved => [.pending, .approved]
  | .approved => [.approved]
  | .rejected => [.rejected]
  | .disbursed => [.disbursed]

/-- The state that an operation of the kind produces. -/
def state : FeedKind → ApprovalState
  | .submitted => .pending
  | .autoApproved | .approved => .approved
  | .rejected => .rejected
  | .disbursed => .disbursed

end FeedKind

structure WorkflowEvent where
  kind : FeedKind
  tenantId : String
  requestId : String
  state : ApprovalState
  tier : String
  amountScaled : Int
  actorId : String
  notes : Option String
deriving DecidableEq

/-- An operation after its locked section: the object it changed, what it knows about its event,
and the event once it has been built.
-/
structure Operation where
  address : Nat
  kind : FeedKind
  tenantId : String
  requestId : String
  actorId : String
  notes : Option String
  event : Option WorkflowEvent

/-- Request objects by address, the table that refers to them, and the operations in the order
of their locked sections.
-/
structure LiveService where
  policyEvaluator : ApprovalPolicyEvaluator
  objects : List ApprovalRequest
  table : Dict RequestKey Nat
  metadata : Dict RequestKey (List (String × Json))
  operations : List Operation

def blankRequest : ApprovalRequest := ⟨"", "", "", 0, "", "", "", .draft, [], 0, 0⟩

namespace LiveService

def initial (policyEvaluator : ApprovalPolicyEvaluator) : LiveService :=
  ⟨policyEvaluator, [], .empty, .empty, []⟩

/-- The service as its locked sections see it. -/
def view (s : LiveService) : ApprovalWorkflowService where
  policyEvaluator := s.policyEvaluator
  requests := s.table.map (s.objects.getD · blankRequest)
  metadata := s.metadata

end LiveService

/-- The event that a successful call will announce, as far as the call knows it. -/
structure Announcement where
  kind : FeedKind
  actorId : String
  notes : Option String

def WorkflowCall.announcement (call : WorkflowCall) (automatic : Bool) (tier : String)
    : Announcement :=
  match call with
  | .submitRequest _ _ custodianId _ _ _ _ autoApproveIfEligible initialNotes =>
      let notes := orText initialNotes s!"Submitted by custodian. Required tier: {tier}"
      if automatic && autoApproveIfEligible then
        ⟨.autoApproved, "SYSTEM_AUTO_APPROVER", some notes⟩
      else
        ⟨.submitted, strip custodianId, some notes⟩
  | .approveRequest _ _ _ _ actorId notes _ =>
      ⟨.approved, strip actorId, some (strip (notes.getD ""))⟩
  | .rejectRequest _ _ _ _ actorId notes =>
      ⟨.rejected, strip actorId, some (strip (notes.getD ""))⟩
  | .disburseRequest _ _ _ _ actorId notes =>
      ⟨.disbursed, strip actorId,
        some (strip (orText notes "Funds disbursed by finance custodian"))⟩

namespace LiveService

/-- An operation that has left its locked section and has not built its event. -/
def announced (address : Nat) (key : RequestKey) (announcement : Announcement) : Operation where
  address
  kind := announcement.kind
  tenantId := key.1
  requestId := key.2
  actorId := announcement.actorId
  notes := announcement.notes
  event := none

/-- The locked section of a call. A submission makes a new object, the other operations change
the object in the table.
-/
def lockedSection (s : LiveService) (call : WorkflowCall)
    : Except WorkflowError WorkflowAnswer × LiveService :=
  match serve s.view call with
  | (.error error, _) => (.error error, s)
  | (.ok (.submitted request evaluation), next) =>
      let key := (request.tenantId, request.requestId)
      let announcement :=
        call.announcement evaluation.autoApproved evaluation.requiredTier.value
      (.ok (.submitted request evaluation),
        {
          s with
          objects := s.objects ++ [request]
          table := s.table.set key s.objects.length
          metadata := next.metadata
          operations := s.operations ++ [announced s.objects.length key announcement]
        })
  | (.ok (.acted request), _) =>
      match call.actsOn with
      | none => (.ok (.acted request), s)
      | some key =>
          let address := s.table.getD key s.objects.length
          (.ok (.acted request),
            {
              s with
              objects := s.objects.set address request
              operations :=
                s.operations ++ [announced address key (call.announcement false "")]
            })

/-- The event of an operation, with the state that the object has now. -/
def buildEvent (s : LiveService) (operation : Operation) : WorkflowEvent :=
  let request := s.objects.getD operation.address blankRequest
  {
    kind := operation.kind
    tenantId := operation.tenantId
    requestId := operation.requestId
    state := request.state
    tier := request.requiredApprovalTier
    amountScaled := request.amountScaled
    actorId := operation.actorId
    notes := operation.notes
  }

/-- An operation builds its event, once. -/
def withEvent (s : LiveService) (operation : Operation) : Operation :=
  match operation.event with
  | some _ => operation
  | none => { operation with event := some (s.buildEvent operation) }

/-- An operation builds its event and broadcasts it. -/
def broadcast (s : LiveService) (index : Nat) : LiveService :=
  { s with operations := s.operations.modify index s.withEvent }

end LiveService

/-- The two steps of an operation. Operations are numbered by their locked sections. -/
inductive LiveStep where
  | lockedSection (call : WorkflowCall)
  | broadcast (index : Nat)

inductive LiveAnswer where
  | answered (outcome : Except WorkflowError WorkflowAnswer)
  | broadcasted

def liveMachine : Machine LiveService LiveStep LiveAnswer where
  step s input :=
    match input with
    | .lockedSection call =>
        let (outcome, next) := s.lockedSection call
        (.answered outcome, next)
    | .broadcast index => (.broadcasted, s.broadcast index)

end PettyFlow.Workflow
