import PettyFlow.Api.ApprovalRouter
import PettyFlow.Api.FloatRouter
import PettyFlow.Workflow.CallEffect

/-! Which calls of the endpoints end properly: with a response, or with a client error that leaves
everything as it was.
-/

namespace PettyFlow.Api

open Foundation PettyFlow.Workflow

/-- An amount whose quotient by the scale is within the doubles. -/
def Writable (amountScaled : Int) : Prop := (centsText amountScaled).isSome

instance (amountScaled : Int) : Decidable (Writable amountScaled) :=
  inferInstanceAs (Decidable (_ = true))

section Approvals

variable {s : ApprovalWorkflowService}

theorem toResponseDto_isSome_iff (request : ApprovalRequest) (metadata : ReceiptMetadata)
    : (toResponseDto request metadata).isSome ↔ Writable request.amountScaled := by
  rw [toResponseDto, Option.isSome_map]
  rfl

theorem nearest?_isSome_iff {amount : Int} (positive : 0 < amount)
    : (Double.nearest? amount.natAbs 10000).isSome ↔ Writable amount := by
  rw [Writable, centsText, if_neg positive.ne', Option.isSome_map]

theorem evaluate_int (evaluator : ApprovalPolicyEvaluator) (requestId : String) {amount : Int}
    (positive : 0 < amount)
    : ∃ evaluation,
        evaluator.evaluate requestId (.int amount) = .ok evaluation
        ∧ evaluation.amountScaled = amount := by
  unfold ApprovalPolicyEvaluator.evaluate NumberArg.int?
  dsimp only
  rw [if_neg (not_le.mpr positive)]
  exact ⟨_, rfl, rfl⟩

/-- A transition raises only where the table does not permit the event. -/
theorem transition_error {request : ApprovalRequest} {event : ApprovalEvent} {actorId : String}
    {notes : Option String} {draw : TransitionDraw} {error : WorkflowError}
    (raised : transition request event actorId notes draw = .error error)
    : permitted request.state event = none
      ∧ ∃ message, error = .invalidStateTransition message := by
  unfold transition at raised
  unfold permitted
  cases found : transitionTable.get? (request.state, event) with
  | none =>
      rw [found] at raised
      cases raised
      exact ⟨rfl, _, rfl⟩
  | some toState =>
      rw [found] at raised
      cases raised

theorem moved_amountScaled {before after : ApprovalRequest} {event : ApprovalEvent}
    {record : StateTransitionRecord} (moved : Moved before event record after)
    : after.amountScaled = before.amountScaled := by
  rw [moved.result]

theorem moved_permitted {before after : ApprovalRequest} {event : ApprovalEvent}
    {record : StateTransitionRecord} (moved : Moved before event record after)
    : permitted before.state event = some after.state := by
  rw [moved.result]
  exact moved.allowed

/-- A text of a submission consists of blanks. -/
def SubmitApprovalRequest.HasBlank (body : SubmitApprovalRequest) : Prop :=
  isBlank body.tenantId = true ∨ isBlank body.custodianId = true
  ∨ isBlank body.description = true

instance (body : SubmitApprovalRequest) : Decidable body.HasBlank :=
  inferInstanceAs (Decidable (_ ∨ _ ∨ _))

/-- What the service does with the body of a submission. -/
def submission (s : ApprovalWorkflowService) (draw : SubmitDraw) (body : SubmitApprovalRequest)
    : Except WorkflowError (ApprovalRequest × PolicyEvaluationResult) × ApprovalWorkflowService :=
  s.submitRequest draw body.tenantId body.custodianId (.int body.amountScaled)
    body.currency.text body.description body.receiptMetadata body.autoApproveIfEligible body.notes

theorem submission_blank (draw : SubmitDraw) {body : SubmitApprovalRequest}
    (blank : body.HasBlank)
    : ∃ message, submission s draw body = (.error (.valueError message), s) := by
  have code : ¬ (strip body.currency.text).length ≠ 3 := by
    rw [body.currency.strip_text]
    exact not_not.mpr body.currency.letters.1
  unfold submission ApprovalWorkflowService.submitRequest
  by_cases tenant : isBlank body.tenantId = true
  · rw [raiseIf_pos tenant]
    exact ⟨_, rfl⟩
  rw [raiseIf_neg tenant]
  by_cases custodian : isBlank body.custodianId = true
  · rw [raiseIf_pos custodian]
    exact ⟨_, rfl⟩
  rw [raiseIf_neg custodian]
  have description := (blank.resolve_left tenant).resolve_left custodian
  simp only [NumberArg.int?, orRaise, bind, Except.bind, raiseIf, not_le.mpr body.positive, code,
    description, if_true, if_false]
  exact ⟨_, rfl⟩

theorem submission_filled (draw : SubmitDraw) {body : SubmitApprovalRequest}
    (filled : ¬ body.HasBlank)
    : ∃ request evaluation after,
        submission s draw body = (.ok (request, evaluation), after)
        ∧ request.amountScaled = body.amountScaled
        ∧ evaluation.amountScaled = body.amountScaled := by
  obtain ⟨tenant, custodian, description⟩ := by
    simpa only [SubmitApprovalRequest.HasBlank, not_or] using filled
  have code : ¬ (strip body.currency.text).length ≠ 3 := by
    rw [body.currency.strip_text]
    exact not_not.mpr body.currency.letters.1
  obtain ⟨evaluation, evaluated, amount⟩ :=
    evaluate_int s.policyEvaluator draw.requestId.text body.positive
  unfold submission ApprovalWorkflowService.submitRequest
  rw [raiseIf_neg tenant, raiseIf_neg custodian]
  simp only [NumberArg.int?, orRaise, bind, Except.bind, raiseIf, not_le.mpr body.positive, code,
    description, Bool.false_eq_true, if_false, evaluated, Except.mapError]
  split
  · rename_i raised
    exact absurd (transition_error raised).1 (Option.some_ne_none ApprovalState.pending)
  rename_i submitted submit
  obtain ⟨_, first⟩ := transition_ok submit
  have pending : submitted.state = .pending :=
    Option.some.inj ((moved_permitted first).symm.trans rfl)
  split
  · split
    · rename_i raised
      have forbidden := (transition_error raised).1
      rw [pending] at forbidden
      exact absurd forbidden (Option.some_ne_none ApprovalState.approved)
    · rename_i approved approve
      obtain ⟨_, second⟩ := transition_ok approve
      exact ⟨approved, evaluation, _, rfl,
        (moved_amountScaled second).trans (moved_amountScaled first), amount⟩
  · exact ⟨submitted, evaluation, _, rfl, moved_amountScaled first, amount⟩

theorem submitRequest_proper_iff (draw : SubmitDraw) (body : SubmitApprovalRequest)
    : Proper s (ApprovalRouter.submitRequest s draw body)
      ↔ body.HasBlank ∨ Writable body.amountScaled := by
  rw [ApprovalRouter.submitRequest, ← submission]
  by_cases blank : body.HasBlank
  · obtain ⟨message, refused⟩ := submission_blank (s := s) draw blank
    rw [refused]
    exact iff_of_true (proper_httpException (by decide) _) (Or.inl blank)
  · obtain ⟨request, evaluation, after, stored, asked, reported⟩ :=
      submission_filled (s := s) draw blank
    have dto
        : (toResponseDto request (body.receiptMetadata.getD [])).isSome
          ↔ Writable body.amountScaled := by
      rw [toResponseDto_isSome_iff, asked]
    have float
        : (Double.nearest? evaluation.amountScaled.natAbs 10000).isSome
          ↔ Writable body.amountScaled := by
      rw [nearest?_isSome_iff (reported ▸ body.positive), reported]
    rw [stored, or_iff_right blank]
    dsimp only
    cases shown : toResponseDto request (body.receiptMetadata.getD []) with
    | none =>
        rw [shown] at dto
        exact iff_of_false (not_proper_escaped _ _) (fun writable => nomatch dto.mpr writable)
    | some response =>
        rw [shown] at dto
        obtain ⟨amountFloat, divided⟩ := Option.isSome_iff_exists.mp (float.mpr (dto.mp rfl))
        rw [divided]
        exact iff_of_true (proper_ok _ _) (dto.mp rfl)

/-- The part of an action that looks at the request: it is found, the actor may act on it, and
the table permits the event.
-/
def acting (s : ApprovalWorkflowService) (key : RequestKey)
    (authority : ApprovalRequest → Except WorkflowError Unit) (event : ApprovalEvent)
    (actor : String) (notes : Option String) (draw : TransitionDraw)
    : Except WorkflowError ApprovalRequest := do
  let request ← s.storedRequest key.1 key.2
  authority request
  transition request event actor notes draw

/-- An action that moved a request reads it once more, and shows it if its amount has a text. -/
theorem acted_proper_iff {handlers : WorkflowError → EndpointError ApprovalEscape}
    {tenantId requestId : String} {moved : ApprovalRequest} {updatedAt : Int}
    {before : ApprovalWorkflowService}
    : Proper before
        (actionResponse handlers tenantId requestId
          (attempt s (.ok moved) (s.touch (strip tenantId, strip requestId) updatedAt)))
      ↔ Writable moved.amountScaled := by
  have read
      : (s.touch (strip tenantId, strip requestId) updatedAt moved).2.getRequest tenantId requestId
        = .ok ({ moved with updatedAt },
            s.metadata.getD (strip tenantId, strip requestId) []) := by
    unfold ApprovalWorkflowService.getRequest ApprovalWorkflowService.storedRequest
    rw [ApprovalWorkflowService.touch, Dict.get?_set_self]
    rfl
  have dto :=
    toResponseDto_isSome_iff { moved with updatedAt }
      (s.metadata.getD (strip tenantId, strip requestId) [])
  unfold actionResponse attempt
  dsimp only
  rw [read]
  dsimp only [ApprovalWorkflowService.touch]
  cases shown
    : toResponseDto { moved with updatedAt }
        (s.metadata.getD (strip tenantId, strip requestId) []) with
  | none =>
      rw [shown] at dto
      exact iff_of_false (not_proper_escaped _ _) (fun writable => nomatch dto.mpr writable)
  | some response =>
      rw [shown] at dto
      exact iff_of_true (proper_ok _ _) (dto.mp rfl)

/-- An action whose first checks pass ends properly unless it moves a request whose amount has
no text.
-/
theorem acting_proper_iff {handlers : WorkflowError → EndpointError ApprovalEscape}
    {tenantId requestId : String} (authority : ApprovalRequest → Except WorkflowError Unit)
    {event : ApprovalEvent} {actor : String} {notes : Option String} {draw : TransitionDraw}
    {updatedAt : Int}
    (notFound : ∀ message, (handlers (.approvalRequestNotFound message)).IsClientError)
    (forbidden : ∀ message, (handlers (.invalidStateTransition message)).IsClientError)
    (unauthorised
      : ∀ request error, authority request = .error error → (handlers error).IsClientError)
    : Proper s
        (actionResponse handlers tenantId requestId
          (attempt s
            (acting s (strip tenantId, strip requestId) authority event actor notes draw)
            (s.touch (strip tenantId, strip requestId) updatedAt)))
      ↔ ∀ request,
          s.requests.get? (strip tenantId, strip requestId) = some request
          → authority request = .ok ()
          → (permitted request.state event).isSome
          → Writable request.amountScaled := by
  unfold acting ApprovalWorkflowService.storedRequest
  cases found : s.requests.get? (strip tenantId, strip requestId) with
  | none => exact iff_of_true ((proper_error_iff _).mpr (notFound _)) nofun
  | some request =>
      simp only [orRaise, bind, Except.bind, Option.some.injEq, forall_eq']
      cases checked : authority request with
      | error error =>
          exact iff_of_true ((proper_error_iff _).mpr (unauthorised request error checked)) nofun
      | ok done =>
          dsimp only
          cases applied : transition request event actor notes draw with
          | error error =>
              obtain ⟨refused, message, rfl⟩ := transition_error applied
              rw [refused]
              exact iff_of_true ((proper_error_iff _).mpr (forbidden message)) nofun
          | ok moved =>
              obtain ⟨_, step⟩ := transition_ok applied
              rw [acted_proper_iff, moved_amountScaled step, moved_permitted step]
              simp

/-- The role check passes whom the tier lets through, and raises only one kind of error. -/
theorem verifyRoleIfGiven_cases (tier : String) (actorRole : Option String) (actorId : String)
    : (verifyRoleIfGiven tier actorRole actorId = .ok ()
        ∧ (roleOmitted actorRole ∨ RoleSuffices tier actorRole))
      ∨ (∃ message,
            verifyRoleIfGiven tier actorRole actorId
            = .error (.insufficientApproverAuthority message))
        ∧ ¬ (roleOmitted actorRole ∨ RoleSuffices tier actorRole) := by
  unfold verifyRoleIfGiven
  split
  · exact Or.inl ⟨rfl, Or.inl (Or.inl rfl)⟩
  · exact Or.inl ⟨rfl, Or.inl (Or.inr rfl)⟩
  · rename_i role named
    unfold verifyRoleAuthority raiseIf
    by_cases lacking : roleLevel role < tierHierarchy tier
    · rw [if_pos lacking]
      refine Or.inr ⟨⟨_, rfl⟩, ?_⟩
      rintro (omitted | ⟨_, ⟨⟩, covered⟩)
      · rcases omitted with missing | empty
        · cases missing
        · exact named (Option.some.inj empty)
      · exact absurd covered (not_le.mpr lacking)
    · rw [if_neg lacking]
      exact Or.inl ⟨rfl, Or.inr ⟨role, rfl, not_lt.mp lacking⟩⟩

theorem permitted_approve_iff (state : ApprovalState)
    : (permitted state .approve).isSome ↔ state = .pending := by
  cases state <;> decide

theorem permitted_reject_iff (state : ApprovalState)
    : (permitted state .reject).isSome ↔ state = .pending := by
  cases state <;> decide

theorem permitted_disburse_iff (state : ApprovalState)
    : (permitted state .disburse).isSome ↔ state = .approved := by
  cases state <;> decide

/-- The stored request that a call is about. -/
def target? (s : ApprovalWorkflowService) (tenantId requestId : String) : Option ApprovalRequest :=
  s.requests.get? (strip tenantId, strip requestId)

/-- A role lets the actor approve a request. -/
def MayApprove (actorRole : Option String) (request : ApprovalRequest) : Prop :=
  roleOmitted actorRole ∨ RoleSuffices request.requiredApprovalTier actorRole

instance (actorRole : Option String) (request : ApprovalRequest)
    : Decidable (MayApprove actorRole request) :=
  inferInstanceAs (Decidable (_ ∨ _))

theorem approveRequest_proper_iff (draw : TransitionDraw) (updatedAt : Int) (requestId : String)
    (action : ApprovalActionRequest)
    : Proper s (ApprovalRouter.approveRequest s draw updatedAt requestId action)
      ↔ strip action.actorId ≠ ""
        ∧ ∀ request ∈ target? s action.tenantId requestId,
            MayApprove action.actorRole request
            → request.state = .pending
            → Writable request.amountScaled := by
  unfold ApprovalRouter.approveRequest ApprovalWorkflowService.approveRequest
  by_cases blank : strip action.actorId = ""
  · rw [raiseIf_pos blank]
    exact iff_of_false (not_proper_escaped _ _) (fun named => named.1 blank)
  have reasoned : ¬ strip action.notes = "" := of_decide_eq_false action.notesNotBlank
  rw [raiseIf_neg blank, Option.getD_some, raiseIf_neg reasoned, and_iff_right blank]
  refine (acting_proper_iff
    (fun request =>
      verifyRoleIfGiven request.requiredApprovalTier action.actorRole (strip action.actorId))
    (fun _ => isClientError (by decide) _) (fun _ => isClientError (by decide) _) ?_).trans ?_
  · intro request error raised
    rcases verifyRoleIfGiven_cases request.requiredApprovalTier action.actorRole
      (strip action.actorId) with ⟨passed, _⟩ | ⟨⟨message, refused⟩, _⟩
    · cases passed.symm.trans raised
    · cases refused.symm.trans raised
      exact isClientError (by decide) _
  · have may (request : ApprovalRequest)
        : verifyRoleIfGiven request.requiredApprovalTier action.actorRole (strip action.actorId)
            = .ok ()
          ↔ MayApprove action.actorRole request := by
      rcases verifyRoleIfGiven_cases request.requiredApprovalTier action.actorRole
        (strip action.actorId) with ⟨passed, may⟩ | ⟨⟨message, refused⟩, mayNot⟩
      · exact iff_of_true passed may
      · exact iff_of_false (fun passed => nomatch refused.symm.trans passed) mayNot
    simp only [permitted_approve_iff, may]
    rfl

theorem rejectRequest_proper_iff (draw : TransitionDraw) (updatedAt : Int) (requestId : String)
    (action : ApprovalActionRequest)
    : Proper s (ApprovalRouter.rejectRequest s draw updatedAt requestId action)
      ↔ strip action.actorId ≠ ""
        ∧ ∀ request ∈ target? s action.tenantId requestId,
            request.state = .pending → Writable request.amountScaled := by
  unfold ApprovalRouter.rejectRequest ApprovalWorkflowService.rejectRequest
  by_cases blank : strip action.actorId = ""
  · rw [raiseIf_pos blank]
    exact iff_of_false (not_proper_escaped _ _) (fun named => named.1 blank)
  have reasoned : ¬ strip action.notes = "" := of_decide_eq_false action.notesNotBlank
  rw [raiseIf_neg blank, Option.getD_some, raiseIf_neg reasoned, and_iff_right blank]
  refine (acting_proper_iff (fun _ => .ok ())
    (fun _ => isClientError (by decide) _) (fun _ => isClientError (by decide) _) nofun).trans ?_
  simp only [permitted_reject_iff, forall_const]
  rfl

theorem disburseRequest_proper_iff (draw : TransitionDraw) (updatedAt : Int) (requestId : String)
    (action : DisburseActionRequest)
    : Proper s (ApprovalRouter.disburseRequest s draw updatedAt requestId action)
      ↔ strip action.actorId ≠ ""
        ∧ ∀ request ∈ target? s action.tenantId requestId,
            request.state = .approved → Writable request.amountScaled := by
  unfold ApprovalRouter.disburseRequest ApprovalWorkflowService.disburseRequest
  by_cases blank : strip action.actorId = ""
  · rw [raiseIf_pos blank]
    exact iff_of_false (not_proper_escaped _ _) (fun named => named.1 blank)
  rw [raiseIf_neg blank, and_iff_right blank]
  refine (acting_proper_iff (fun _ => .ok ())
    (fun _ => isClientError (by decide) _) (fun _ => isClientError (by decide) _) nofun).trans ?_
  simp only [permitted_disburse_iff, forall_const]
  rfl

end Approvals

/-- Both services behind the routers. -/
structure Services where
  funds : Funds.FundService
  workflow : ApprovalWorkflowService

/-- A call of an endpoint with a body that its schema accepts. -/
inductive EndpointCall where
  | createFund (drawn : Uuid) (request : CreateFundRequest)
  | allocateFloat (fundId : Uuid) (request : FloatMutationRequest)
  | issueDisbursement (fundId : Uuid) (request : FloatMutationRequest)
  | getCustodianBalance (fundId custodianId tenantId : Uuid)
  | submitRequest (draw : SubmitDraw) (body : SubmitApprovalRequest)
  | approveRequest (draw : TransitionDraw) (updatedAt : Int) (requestId : String)
    (action : ApprovalActionRequest)
  | rejectRequest (draw : TransitionDraw) (updatedAt : Int) (requestId : String)
    (action : ApprovalActionRequest)
  | disburseRequest (draw : TransitionDraw) (updatedAt : Int) (requestId : String)
    (action : DisburseActionRequest)

inductive EndpointResponse where
  | fund (response : FundResponse)
  | balance (response : CustodianBalanceResponse)
  | submitted (response : SubmitApprovalResponse)
  | request (response : ApprovalRequestResponse)

inductive EndpointEscape where
  | float (error : Funds.FundError)
  | approval (error : ApprovalEscape)

/-- An answer of one service as an answer of both. -/
def lift {ε ρ σ : Type} (escape : ε → EndpointEscape) (respond : ρ → EndpointResponse)
    (put : σ → Services) (answer : Answer ε ρ σ)
    : Answer EndpointEscape EndpointResponse Services :=
  ((answer.1.map respond).mapError (fun
      | .httpException status detail => .httpException status detail
      | .escaped error => .escaped (escape error)),
    put answer.2)

/-- What an endpoint does with a call. -/
def respond (services : Services)
    : EndpointCall → Answer EndpointEscape EndpointResponse Services
  | .createFund drawn request =>
      lift .float .fund (fun funds => { services with funds })
        (FloatRouter.createFund services.funds drawn request)
  | .allocateFloat fundId request =>
      lift .float .balance (fun funds => { services with funds })
        (FloatRouter.allocateFloat services.funds fundId request)
  | .issueDisbursement fundId request =>
      lift .float .balance (fun funds => { services with funds })
        (FloatRouter.issueDisbursement services.funds fundId request)
  | .getCustodianBalance fundId custodianId tenantId =>
      lift .float .balance (fun funds => { services with funds })
        (FloatRouter.getCustodianBalance services.funds fundId custodianId tenantId)
  | .submitRequest draw body =>
      lift .approval .submitted (fun workflow => { services with workflow })
        (ApprovalRouter.submitRequest services.workflow draw body)
  | .approveRequest draw updatedAt requestId action =>
      lift .approval .request (fun workflow => { services with workflow })
        (ApprovalRouter.approveRequest services.workflow draw updatedAt requestId action)
  | .rejectRequest draw updatedAt requestId action =>
      lift .approval .request (fun workflow => { services with workflow })
        (ApprovalRouter.rejectRequest services.workflow draw updatedAt requestId action)
  | .disburseRequest draw updatedAt requestId action =>
      lift .approval .request (fun workflow => { services with workflow })
        (ApprovalRouter.disburseRequest services.workflow draw updatedAt requestId action)

/-- What each endpoint can cope with: amounts of the float that fit the messages, actors with a
name, and amounts with a text wherever a request is stored or moved.
-/
def EndpointCall.Manageable (services : Services) : EndpointCall → Prop
  | .createFund _ request => request.initialAmountScaled ≤ Funds.maxInt64
  | .allocateFloat _ request => request.amountScaled ≤ Funds.maxInt64
  | .issueDisbursement _ request => request.amountScaled ≤ Funds.maxInt64
  | .getCustodianBalance .. => True
  | .submitRequest _ body => body.HasBlank ∨ Writable body.amountScaled
  | .approveRequest _ _ requestId action =>
      strip action.actorId ≠ ""
      ∧ ∀ request ∈ target? services.workflow action.tenantId requestId,
          MayApprove action.actorRole request
          → request.state = .pending
          → Writable request.amountScaled
  | .rejectRequest _ _ requestId action =>
      strip action.actorId ≠ ""
      ∧ ∀ request ∈ target? services.workflow action.tenantId requestId,
          request.state = .pending → Writable request.amountScaled
  | .disburseRequest _ _ requestId action =>
      strip action.actorId ≠ ""
      ∧ ∀ request ∈ target? services.workflow action.tenantId requestId,
          request.state = .approved → Writable request.amountScaled

theorem lift_proper_iff {ε ρ σ : Type} {escape : ε → EndpointEscape}
    {respond : ρ → EndpointResponse} {put : σ → Services} (injective : Function.Injective put)
    (before : σ) (answer : Answer ε ρ σ)
    : Proper (put before) (lift escape respond put answer) ↔ Proper before answer := by
  obtain ⟨result, after⟩ := answer
  cases result with
  | ok response => exact Iff.rfl
  | error error =>
      cases error with
      | httpException status detail => exact and_congr Iff.rfl injective.eq_iff
      | escaped error => exact and_congr Iff.rfl injective.eq_iff

/-- In every state, a call with an accepted body ends properly exactly when its endpoint can cope
with it.
-/
theorem endpoints_proper_iff (services : Services) (call : EndpointCall)
    : Proper services (respond services call) ↔ call.Manageable services := by
  have funds : Function.Injective (fun funds => { services with funds }) :=
    fun _ _ same => congrArg Services.funds same
  have workflow : Function.Injective (fun workflow => { services with workflow }) :=
    fun _ _ same => congrArg Services.workflow same
  cases call with
  | createFund drawn request =>
      exact (lift_proper_iff funds services.funds _).trans
        (createFund_proper_iff services.funds drawn request)
  | allocateFloat fundId request =>
      exact (lift_proper_iff funds services.funds _).trans
        (allocateFloat_proper_iff services.funds fundId request)
  | issueDisbursement fundId request =>
      exact (lift_proper_iff funds services.funds _).trans
        (issueDisbursement_proper_iff services.funds fundId request)
  | getCustodianBalance fundId custodianId tenantId =>
      exact (lift_proper_iff funds services.funds _).trans
        (iff_true_intro (getCustodianBalance_proper services.funds fundId custodianId tenantId))
  | submitRequest draw body =>
      exact (lift_proper_iff workflow services.workflow _).trans
        (submitRequest_proper_iff draw body)
  | approveRequest draw updatedAt requestId action =>
      exact (lift_proper_iff workflow services.workflow _).trans
        (approveRequest_proper_iff draw updatedAt requestId action)
  | rejectRequest draw updatedAt requestId action =>
      exact (lift_proper_iff workflow services.workflow _).trans
        (rejectRequest_proper_iff draw updatedAt requestId action)
  | disburseRequest draw updatedAt requestId action =>
      exact (lift_proper_iff workflow services.workflow _).trans
        (disburseRequest_proper_iff draw updatedAt requestId action)

/-- A fund whose amount is one too large for the messages: the schema accepts its body, and no
handler catches what the service raises.
-/
theorem huge_fund_escapes
    : ∃ request,
        CreateFundRequest.ofFields ⟨1⟩ "Petty cash" "usd" ⟨2⟩ 9223372036854775808 = some request
        ∧ ¬ Proper ⟨.empty, .initial ⟨defaultPettyflowPolicy⟩⟩
            (respond ⟨.empty, .initial ⟨defaultPettyflowPolicy⟩⟩ (.createFund ⟨3⟩ request)) := by
  have amount
      : (CreateFundRequest.ofFields ⟨1⟩ "Petty cash" "usd" ⟨2⟩ 9223372036854775808).map
          CreateFundRequest.initialAmountScaled
        = some 9223372036854775808 := by
    decide +kernel
  obtain ⟨request, accepted, same⟩ := Option.map_eq_some_iff.mp amount
  have funds
      : Function.Injective (fun funds =>
          (⟨funds, .initial ⟨defaultPettyflowPolicy⟩⟩ : Services)) :=
    fun _ _ same => congrArg Services.funds same
  refine ⟨request, accepted, fun proper => ?_⟩
  have fits :=
    (createFund_proper_iff .empty ⟨3⟩ request).mp ((lift_proper_iff funds .empty _).mp proper)
  rw [same] at fits
  exact absurd fits (by decide)

end PettyFlow.Api
