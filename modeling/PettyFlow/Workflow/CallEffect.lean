import PettyFlow.Workflow.Service

/-! What one call of the workflow service can do to the stored requests, with the checks
that let it.
-/

namespace PettyFlow.Workflow

open Foundation

/-- The transition that the table permits in a state. -/
def permitted (state : ApprovalState) (event : ApprovalEvent) : Option ApprovalState :=
  transitionTable.get? (state, event)

/-- A request moved by one event: the table permits the move, and the request differs only
in its state, its update time and one record more in its trail.
-/
structure Moved (before : ApprovalRequest) (event : ApprovalEvent)
    (record : StateTransitionRecord) (after : ApprovalRequest) : Prop where
  allowed : permitted before.state event = some record.toState
  fromState : record.fromState = before.state
  label : record.event = event
  requestId : record.requestId = before.requestId
  tenantId : record.tenantId = before.tenantId
  result
    : after
      = {
          before with
          auditTrail := before.auditTrail ++ [record]
          state := record.toState
          updatedAt := after.updatedAt
        }

theorem transition_ok {request moved : ApprovalRequest} {event : ApprovalEvent}
    {actorId : String} {notes : Option String} {draw : TransitionDraw}
    (passed : transition request event actorId notes draw = .ok moved)
    : ∃ record, Moved request event record moved := by
  unfold transition at passed
  cases found : transitionTable.get? (request.state, event) with
  | none => simp [found] at passed
  | some toState =>
      simp only [found, Except.ok.injEq] at passed
      subst passed
      exact ⟨
        ⟨draw.transitionId.text, request.requestId, request.tenantId, request.state, event,
          toState, actorId, notes, draw.timestamp⟩,
        found, rfl, rfl, rfl, rfl, rfl
      ⟩

/-- The key of the stored request that a call acts on. -/
def WorkflowCall.actsOn : WorkflowCall → Option RequestKey
  | .submitRequest .. => none
  | .approveRequest _ _ tenantId requestId .. => some (strip tenantId, strip requestId)
  | .rejectRequest _ _ tenantId requestId .. => some (strip tenantId, strip requestId)
  | .disburseRequest _ _ tenantId requestId .. => some (strip tenantId, strip requestId)

/-- The event that a call applies to a stored request. -/
def WorkflowCall.event : WorkflowCall → Option ApprovalEvent
  | .submitRequest .. => none
  | .approveRequest .. => some .approve
  | .rejectRequest .. => some .reject
  | .disburseRequest .. => some .disburse

/-- No role was passed with the call, or an empty one. -/
def roleOmitted (actorRole : Option String) : Prop := actorRole = none ∨ actorRole = some ""

instance (actorRole : Option String) : Decidable (roleOmitted actorRole) :=
  inferInstanceAs (Decidable (_ ∨ _))

/-- A role was passed, and its authority covers the tier. -/
def RoleSuffices (tier : String) (actorRole : Option String) : Prop :=
  ∃ role ∈ actorRole, tierHierarchy tier ≤ roleLevel role

instance (tier : String) (actorRole : Option String) : Decidable (RoleSuffices tier actorRole) :=
  inferInstanceAs (Decidable (∃ role ∈ actorRole, tierHierarchy tier ≤ roleLevel role))

/-- An approval call gets past the authority check for a tier; other calls are not
checked. -/
def WorkflowCall.Cleared (tier : String) : WorkflowCall → Prop
  | .approveRequest _ _ _ _ _ _ actorRole =>
      roleOmitted actorRole ∨ RoleSuffices tier actorRole
  | _ => True

/-- A submitted request: a draft without history was submitted, and approved as well where
its tier needs no approver.
-/
inductive Submitted : ApprovalRequest → Prop
  | pending {draft request record}
    (unborn : draft.state = .draft) (blank : draft.auditTrail = [])
    (submitted : Moved draft .submit record request)
    : Submitted request
  | approved {draft pending request first second}
    (unborn : draft.state = .draft) (blank : draft.auditTrail = [])
    (submitted : Moved draft .submit first pending)
    (automatic : draft.requiredApprovalTier = ApprovalTier.autoApprove.value)
    (approved : Moved pending .approve second request)
    : Submitted request

/-- What one call can do to the stored requests. -/
inductive Effect (s : ApprovalWorkflowService)
    : WorkflowCall → Except WorkflowError WorkflowAnswer → ApprovalWorkflowService → Prop
  | raised {call error} : Effect s call (.error error) s
  | submitted {draw tenantId custodianId amount currency description receipt auto notes
      request evaluation metadata}
    (born : Submitted request)
    : Effect s
        (.submitRequest draw tenantId custodianId amount currency description receipt auto
          notes)
        (.ok (.submitted request evaluation))
        {
          s with
          requests := s.requests.set (request.tenantId, request.requestId) request
          metadata
        }
  | acted {call key event request record updated}
    (target : call.actsOn = some key) (applies : call.event = some event)
    (found : s.requests.get? key = some request)
    (cleared : call.Cleared request.requiredApprovalTier)
    (moved : Moved request event record updated)
    : Effect s call (.ok (.acted updated)) { s with requests := s.requests.set key updated }

/-- A later reading of the clock is all that an action adds to a transition. -/
theorem Moved.touched {before after : ApprovalRequest} {event : ApprovalEvent}
    {record : StateTransitionRecord} (moved : Moved before event record after)
    (updatedAt : Int)
    : Moved before event record { after with updatedAt } where
  allowed := moved.allowed
  fromState := moved.fromState
  label := moved.label
  requestId := moved.requestId
  tenantId := moved.tenantId
  result := by
    rw [moved.result]

theorem storedRequest_ok {s : ApprovalWorkflowService} {tenantId requestId : String}
    {request : ApprovalRequest} (passed : s.storedRequest tenantId requestId = .ok request)
    : s.requests.get? (tenantId, requestId) = some request :=
  orRaise_ok passed

/-- The optional authority check passes only a call that is cleared for the tier. -/
theorem verifyRoleIfGiven_ok {tier actorId : String} {actorRole : Option String} {done : Unit}
    (passed : verifyRoleIfGiven tier actorRole actorId = .ok done)
    : roleOmitted actorRole ∨ RoleSuffices tier actorRole := by
  unfold verifyRoleIfGiven at passed
  split at passed
  · exact Or.inl (Or.inl rfl)
  · exact Or.inl (Or.inr rfl)
  · rename_i role _
    exact Or.inr ⟨role, rfl, not_lt.mp (raiseIf_ok passed)⟩

/-- An evaluation reports an automatic approval only for the lowest tier. -/
theorem evaluate_autoApproved {evaluator : ApprovalPolicyEvaluator} {requestId : String}
    {amount : NumberArg} {evaluation : PolicyEvaluationResult}
    (passed : evaluator.evaluate requestId amount = .ok evaluation)
    (automatic : evaluation.autoApproved = true)
    : evaluation.requiredTier = .autoApprove := by
  unfold ApprovalPolicyEvaluator.evaluate at passed
  split at passed
  · cases passed
  · split at passed
    · cases passed
    · obtain rfl := Except.ok.inj passed
      simpa using automatic

/-- Writing back an action on a stored request is an effect of the call. -/
theorem Effect.ofAction {s : ApprovalWorkflowService} {call : WorkflowCall} {key : RequestKey}
    {event : ApprovalEvent} {checks : Except WorkflowError ApprovalRequest}
    {updatedAt : Int} (target : call.actsOn = some key) (applies : call.event = some event)
    (checked
      : ∀ moved,
          checks = .ok moved
          → ∃ request record,
              s.requests.get? key = some request
              ∧ call.Cleared request.requiredApprovalTier
              ∧ Moved request event record moved)
    : Effect s call (answer .acted (attempt s checks (s.touch key updatedAt))).1
        (answer .acted (attempt s checks (s.touch key updatedAt))).2 := by
  refine attempt_elim
    (motive := fun r => Effect s call (answer .acted r).1 (answer .acted r).2) ?_ ?_
  · exact fun _ _ => .raised
  · intro moved passed
    obtain ⟨request, record, found, cleared, step⟩ := checked moved passed
    exact .acted target applies found cleared (step.touched updatedAt)

/-- A submission that is answered with a request: the draft that it made for its tenant, the
submission of the draft, and the approval where the policy and the call allow it.
-/
theorem submitRequest_ok {s : ApprovalWorkflowService} {draw : SubmitDraw}
    {tenantId custodianId : String} {amountScaled : NumberArg} {currency description : String}
    {receiptMetadata : Option (List (String × Json))} {auto : Bool}
    {initialNotes : Option String} {request : ApprovalRequest}
    {evaluation : PolicyEvaluationResult}
    (ok
      : (s.submitRequest draw tenantId custodianId amountScaled currency description
          receiptMetadata auto initialNotes).1
        = .ok (request, evaluation))
    : ∃ draft submitted first,
        draft.tenantId = strip tenantId
        ∧ draft.state = .draft
        ∧ draft.auditTrail = []
        ∧ Moved draft .submit first submitted
        ∧ (evaluation.autoApproved = true
          → draft.requiredApprovalTier = ApprovalTier.autoApprove.value)
        ∧ (if evaluation.autoApproved && auto then
            ∃ second, Moved submitted .approve second request
          else
            request = submitted) := by
  obtain ⟨⟨_, _⟩, passed, same⟩ := attempt_ok ok
  obtain ⟨rfl, rfl⟩ := Prod.mk.inj same
  -- The checks of the arguments come first, in the order of the source
  obtain ⟨_, _, passed⟩ := bind_ok passed
  obtain ⟨_, _, passed⟩ := bind_ok passed
  obtain ⟨amount, _, passed⟩ := bind_ok passed
  obtain ⟨_, _, passed⟩ := bind_ok passed
  obtain ⟨_, _, passed⟩ := bind_ok passed
  obtain ⟨_, _, passed⟩ := bind_ok passed
  obtain ⟨reported, evaluated, passed⟩ := bind_ok passed
  obtain ⟨submitted, submit, passed⟩ := bind_ok passed
  obtain ⟨first, step⟩ := transition_ok submit
  have lowest (automatic : reported.autoApproved = true)
      : reported.requiredTier.value = ApprovalTier.autoApprove.value :=
    congrArg ApprovalTier.value (evaluate_autoApproved (mapError_ok evaluated) automatic)
  split at passed
  · rename_i automatic
    obtain ⟨approved, approve, passed⟩ := bind_ok passed
    obtain ⟨rfl, rfl⟩ := Prod.mk.inj (Except.ok.inj passed)
    refine ⟨_, submitted, first, rfl, rfl, rfl, step, lowest, ?_⟩
    rw [if_pos automatic]
    exact transition_ok approve
  · rename_i manual
    obtain ⟨rfl, rfl⟩ := Prod.mk.inj (Except.ok.inj passed)
    refine ⟨_, submitted, first, rfl, rfl, rfl, step, lowest, ?_⟩
    rw [if_neg manual]

/-- What is kept of a submission: its request and its receipt. -/
def ApprovalWorkflowService.store (s : ApprovalWorkflowService) (request : ApprovalRequest)
    (receiptMetadata : Option (List (String × Json)))
    : ApprovalWorkflowService :=
  let key := (request.tenantId, request.requestId)
  {
    s with
    requests := s.requests.set key request
    metadata :=
      match receiptMetadata with
      | none | some [] => s.metadata
      | some receipt => s.metadata.set key receipt
  }

/-- A submission raises and changes nothing, or stores what it answers with. -/
theorem submitRequest_outcome (s : ApprovalWorkflowService) (draw : SubmitDraw)
    (tenantId custodianId : String) (amountScaled : NumberArg) (currency description : String)
    (receiptMetadata : Option (List (String × Json))) (auto : Bool)
    (initialNotes : Option String)
    : (∃ error,
        s.submitRequest draw tenantId custodianId amountScaled currency description
            receiptMetadata auto initialNotes
          = (.error error, s))
      ∨ ∃ request evaluation,
          s.submitRequest draw tenantId custodianId amountScaled currency description
              receiptMetadata auto initialNotes
            = (.ok (request, evaluation), s.store request receiptMetadata) := by
  refine attempt_elim
    (motive := fun result =>
      (∃ error, result = (.error error, s))
      ∨ ∃ request evaluation,
          result = (.ok (request, evaluation), s.store request receiptMetadata)) ?_ ?_
  · exact fun error _ => .inl ⟨error, rfl⟩
  · exact fun (request, evaluation) _ => .inr ⟨request, evaluation, rfl⟩

/-- Every call of the service has one of the listed effects. -/
theorem serve_effect (s : ApprovalWorkflowService) (call : WorkflowCall)
    : Effect s call (serve s call).1 (serve s call).2 := by
  cases call with
  | submitRequest draw tenantId custodianId arg currency description receipt auto notes =>
      rw [serve]
      rcases outcome : submitRequest_outcome s draw tenantId custodianId arg currency description
        receipt auto notes with ⟨error, raised⟩ | ⟨request, evaluation, stored⟩
      · rw [raised]
        exact .raised
      · -- A submission makes one transition, or two when it is approved automatically
        obtain ⟨draft, submitted, first, _, unborn, blank, step, lowest, last⟩ :=
          submitRequest_ok (congrArg Prod.fst stored)
        rw [stored]
        refine .submitted ?_
        split at last
        · rename_i automatic
          obtain ⟨second, approved⟩ := last
          exact .approved unborn blank step (lowest (Bool.and_eq_true_iff.mp automatic).1)
            approved
        · exact last ▸ .pending unborn blank step
  | approveRequest draw updatedAt tenantId requestId actorId notes actorRole =>
      refine Effect.ofAction rfl rfl (fun moved passed => ?_)
      -- Every action makes its checks in order, then a single transition
      obtain ⟨_, _, passed⟩ := bind_ok passed
      obtain ⟨_, _, passed⟩ := bind_ok passed
      obtain ⟨request, stored, passed⟩ := bind_ok passed
      obtain ⟨_, authorised, passed⟩ := bind_ok passed
      obtain ⟨record, step⟩ := transition_ok passed
      exact ⟨request, record, storedRequest_ok stored, verifyRoleIfGiven_ok authorised, step⟩
  | rejectRequest draw updatedAt tenantId requestId actorId notes =>
      refine Effect.ofAction rfl rfl (fun moved passed => ?_)
      obtain ⟨_, _, passed⟩ := bind_ok passed
      obtain ⟨_, _, passed⟩ := bind_ok passed
      obtain ⟨request, stored, passed⟩ := bind_ok passed
      obtain ⟨record, step⟩ := transition_ok passed
      exact ⟨request, record, storedRequest_ok stored, trivial, step⟩
  | disburseRequest draw updatedAt tenantId requestId actorId notes =>
      refine Effect.ofAction rfl rfl (fun moved passed => ?_)
      obtain ⟨_, _, passed⟩ := bind_ok passed
      obtain ⟨request, stored, passed⟩ := bind_ok passed
      obtain ⟨record, step⟩ := transition_ok passed
      exact ⟨request, record, storedRequest_ok stored, trivial, step⟩

end PettyFlow.Workflow
