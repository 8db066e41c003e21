import PettyFlow.Workflow.AuditTrail

/-! Who approved a request: every approval on a run of the service is automatic, made with
sufficient authority, or made by a call that passes no role.
-/

namespace PettyFlow.Workflow

open Foundation

abbrev ServiceEvent :=
  Event ApprovalWorkflowService WorkflowCall (Except WorkflowError WorkflowAnswer)

/-- The trail records an approval. -/
def ApprovalRequest.HasApproval (request : ApprovalRequest) : Prop :=
  ∃ record ∈ request.auditTrail, record.event = .approve

/-- The step that made the approval of the request stored under a key. -/
structure Approves (key : RequestKey) (event : ServiceEvent) : Prop where
  recorded
    : ∃ request, event.after.requests.get? key = some request ∧ request.HasApproval
  new : ∀ request, event.before.requests.get? key = some request → ¬ request.HasApproval

/-- A call that may approve a request of a tier: the submission of a request that needs no
approver, or an approval with a role whose authority covers the tier.
-/
def WorkflowCall.Authorised (tier : String) : WorkflowCall → Prop
  | .submitRequest .. => tier = ApprovalTier.autoApprove.value
  | .approveRequest _ _ _ _ _ _ actorRole => RoleSuffices tier actorRole
  | _ => False

/-- The approval that the service lets through unchecked: one without a role. -/
def WorkflowCall.Unchecked : WorkflowCall → Prop
  | .approveRequest _ _ _ _ _ _ actorRole => roleOmitted actorRole
  | _ => False

instance (tier : String) : (call : WorkflowCall) → Decidable (call.Authorised tier)
  | .submitRequest .. => inferInstanceAs (Decidable (tier = _))
  | .approveRequest _ _ _ _ _ _ actorRole =>
      inferInstanceAs (Decidable (RoleSuffices tier actorRole))
  | .rejectRequest .. => isFalse id
  | .disburseRequest .. => isFalse id

/-- A cleared call that applies the approval event is an authorised or unchecked one. -/
theorem WorkflowCall.Cleared.approval {tier : String} {call : WorkflowCall}
    (cleared : call.Cleared tier) (applies : call.event = some .approve)
    : call.Authorised tier ∨ call.Unchecked := by
  cases call with
  | submitRequest | rejectRequest | disburseRequest => cases applies
  | approveRequest => exact cleared.symm

/-- A move adds an approval to a trail without one only if it applies the approval event. -/
theorem Moved.approval {before after : ApprovalRequest} {event : ApprovalEvent}
    {record : StateTransitionRecord} (moved : Moved before event record after)
    (approved : after.HasApproval)
    : before.HasApproval ∨ event = .approve := by
  obtain ⟨entry, member, label⟩ := approved
  rw [moved.result] at member
  rcases List.mem_append.mp member with old | new
  · exact Or.inl ⟨entry, old, label⟩
  · obtain rfl := List.mem_singleton.mp new
    exact Or.inr (moved.label.symm.trans label)

/-- A submitted request that is approved already needs no approver. -/
theorem Submitted.approval {request : ApprovalRequest} (born : Submitted request)
    (approved : request.HasApproval)
    : request.requiredApprovalTier = ApprovalTier.autoApprove.value := by
  cases born with
  | @pending draft _ record unborn blank submitted =>
      rcases submitted.approval approved with ⟨_, member, _⟩ | other
      · simp [blank] at member
      · cases other
  | @approved draft middle _ first second unborn blank submitted automatic step =>
      rw [(submitted.evolved.trans step.evolved).requiredTier]
      exact automatic

/-- A step that approves the request of a key is an authorised or unchecked call for the
tier of that request.
-/
theorem Effect.approval {s next : ApprovalWorkflowService} {call : WorkflowCall}
    {output : Except WorkflowError WorkflowAnswer} (effect : Effect s call output next)
    {key : RequestKey} (approves : Approves key ⟨s, call, output, next⟩)
    {request : ApprovalRequest} (stored : next.requests.get? key = some request)
    : call.Authorised request.requiredApprovalTier ∨ call.Unchecked := by
  obtain ⟨⟨after, afterStored, approved⟩, new⟩ := approves
  obtain rfl := Option.some.inj (stored.symm.trans afterStored)
  have unmoved (same : next.requests.get? key = s.requests.get? key) : False :=
    new request (same.symm.trans stored) approved
  cases effect with
  | raised => exact False.elim (unmoved rfl)
  | @submitted _ _ _ _ _ _ _ _ _ born _ _ submission =>
      by_cases here : (born.tenantId, born.requestId) = key
      · subst here
        obtain rfl := Option.some.inj ((Dict.get?_set_self _ _ _).symm.trans stored)
        exact Or.inl (submission.approval approved)
      · exact False.elim (unmoved (Dict.get?_set_ne _ _ here))
  | @acted _ target event old record updated _ applies found cleared moved =>
      by_cases here : target = key
      · subst here
        obtain rfl := Option.some.inj ((Dict.get?_set_self _ _ _).symm.trans stored)
        rcases moved.approval approved with before | rfl
        · exact absurd before (new old found)
        · rw [moved.evolved.requiredTier]
          exact cleared.approval applies
      · exact False.elim (unmoved (Dict.get?_set_ne _ _ here))

/-- Each approval recorded in a stored trail was made by one of the past steps, with
authority for the request's tier or unchecked.
-/
def ApprovalsTraced (past : List ServiceEvent) (s : ApprovalWorkflowService) : Prop :=
  ∀ key request,
    s.requests.get? key = some request
    → request.HasApproval
    → ∃ event ∈ past,
        Approves key event
        ∧ (event.input.Authorised request.requiredApprovalTier ∨ event.input.Unchecked)

/-- A step keeps approvals traced: the request was approved before with the same tier, or
this is the step that approved it.
-/
theorem ApprovalsTraced.step {past : List ServiceEvent} {s next : ApprovalWorkflowService}
    {call : WorkflowCall} {output : Except WorkflowError WorkflowAnswer}
    (effect : Effect s call output next) (fresh : FreshAnswer s output)
    (traced : ApprovalsTraced past s)
    : ApprovalsTraced (past ++ [⟨s, call, output, next⟩]) next := by
  intro key request stored approved
  by_cases earlier
      : ∃ before, s.requests.get? key = some before ∧ before.HasApproval
  · obtain ⟨before, beforeStored, beforeApproved⟩ := earlier
    obtain ⟨after, afterStored, evolved⟩ := effect.preserves fresh key before beforeStored
    obtain rfl := Option.some.inj (stored.symm.trans afterStored)
    obtain ⟨event, member, approves, authority⟩ := traced key before beforeStored beforeApproved
    refine ⟨event, List.mem_append_left _ member, approves, ?_⟩
    rwa [evolved.requiredTier]
  · have approves : Approves key ⟨s, call, output, next⟩ :=
      ⟨⟨request, stored, approved⟩, fun before found old => earlier ⟨before, found, old⟩⟩
    exact ⟨_, List.mem_append_right _ (List.mem_singleton.mpr rfl), approves,
      effect.approval approves stored⟩

theorem approvals_traced (evaluator : ApprovalPolicyEvaluator) {calls : List WorkflowCall}
    (fresh : workflowMachine.Admits FreshRequest (.initial evaluator) calls)
    : ApprovalsTraced (workflowMachine.history (.initial evaluator) calls)
        (workflowMachine.exec (.initial evaluator) calls) := by
  have start : ApprovalsTraced [] (.initial evaluator) := nofun
  exact workflowMachine.history_invariant
    (fun _ s call traced fresh => traced.step (serve_effect s call) fresh) start fresh

/-- A request can be in the approved or the disbursed state only with an approval in its
trail. -/
theorem Sound.hasApproval {key : RequestKey} {request : ApprovalRequest}
    (sound : Sound key request)
    (state : request.state = .approved ∨ request.state = .disbursed)
    : request.HasApproval := by
  have reached : ∃ events ∈ eventsTo request.state, ApprovalEvent.approve ∈ events := by
    rcases state with approved | disbursed
    · exact ⟨_, by rw [approved]; rfl, by decide⟩
    · exact ⟨_, by rw [disbursed]; rfl, by decide⟩
  obtain ⟨events, unique, member⟩ := reached
  have labels := IsPath.events sound.path events unique
  rw [← labels, List.map_map] at member
  obtain ⟨record, listed, label⟩ := List.mem_map.mp member
  exact ⟨record, listed, label⟩

/-- On every run, under any policy: each request that is approved or disbursed was approved
by one step of the run, which had authority for the request's tier or passed no role; and
from the state reached no call approves a request in any other way.
-/
theorem approvals_authorised (evaluator : ApprovalPolicyEvaluator)
    (calls : List WorkflowCall)
    (fresh : workflowMachine.Admits FreshRequest (.initial evaluator) calls)
    : (∀ key request,
        (workflowMachine.exec (.initial evaluator) calls).requests.get? key = some request
        → request.state = .approved ∨ request.state = .disbursed
        → ∃ event ∈ workflowMachine.history (.initial evaluator) calls,
            Approves key event
            ∧ (event.input.Authorised request.requiredApprovalTier ∨ event.input.Unchecked))
      ∧ ∀ call key request,
          Approves key
            (workflowMachine.event (workflowMachine.exec (.initial evaluator) calls) call)
          → (serve (workflowMachine.exec (.initial evaluator) calls) call).2.requests.get? key
            = some request
          → call.Authorised request.requiredApprovalTier ∨ call.Unchecked := by
  refine ⟨fun key request stored state => ?_, fun call _ _ approves stored => ?_⟩
  · have sound :=
      workflowMachine.exec_invariant step_sound (initial_sound evaluator) fresh
    exact approvals_traced evaluator fresh key request stored
      ((sound key request stored).hasApproval state)
  · exact (serve_effect _ call).approval approves stored

theorem approvals_authorised_sample
    : ∃ event ∈ workflowMachine.history (.initial ⟨defaultPettyflowPolicy⟩) sampleCalls,
        Approves ("acme", (⟨7⟩ : Uuid).text) event
        ∧ (event.input.Authorised "MANAGER" ∨ event.input.Unchecked) := by
  have ended
      : ((workflowMachine.exec (.initial ⟨defaultPettyflowPolicy⟩) sampleCalls).requests.get?
          ("acme", (⟨7⟩ : Uuid).text)).map
            (fun request => (request.state, request.requiredApprovalTier))
        = some (.disbursed, "MANAGER") := by decide
  obtain ⟨request, stored, facts⟩ := Option.map_eq_some_iff.mp ended
  obtain ⟨state, tier⟩ := Prod.mk.inj facts
  rw [← tier]
  exact (approvals_authorised _ sampleCalls (by decide)).1 _ request stored (Or.inr state)

/-- The default policy, as the service is built without one. -/
def defaultEvaluator : ApprovalPolicyEvaluator :=
  ⟨ApprovalPolicyEvaluator.sortRules defaultPettyflowPolicy⟩

theorem create_default : ApprovalPolicyEvaluator.create none = .ok defaultEvaluator := rfl

/-- Every approved or disbursed request of a run was approved with authority. -/
def OnlyByAuthority (calls : List WorkflowCall) : Prop :=
  ∀ key request,
    (workflowMachine.exec (.initial defaultEvaluator) calls).requests.get? key = some request
    → request.state = .approved ∨ request.state = .disbursed
    → ∃ event ∈ workflowMachine.history (.initial defaultEvaluator) calls,
        Approves key event ∧ event.input.Authorised request.requiredApprovalTier

/-- A request that needs a manager, approved by a call that passes no role. -/
def unnamedApproval : List WorkflowCall :=
  let moment : TransitionDraw := ⟨⟨9⟩, 10, 11⟩
  let request : Uuid := ⟨7⟩
  [
    .submitRequest ⟨request, 1, 2, moment, moment⟩ "acme" "dana" (.int 600000) "usd" "Chairs"
      none true none,
    .approveRequest moment 13 "acme" request.text "dana" (some "Needed") none
  ]

/-- The call without a role approves the manager's request, and no step of the run had the
authority. -/
theorem unnamedApproval_unauthorised
    : workflowMachine.Admits FreshRequest (.initial defaultEvaluator) unnamedApproval
      ∧ ¬ OnlyByAuthority unnamedApproval := by
  refine ⟨by decide, fun only => ?_⟩
  have ended
      : ((workflowMachine.exec (.initial defaultEvaluator) unnamedApproval).requests.get?
          ("acme", (⟨7⟩ : Uuid).text)).map
            (fun request => (request.state, request.requiredApprovalTier))
        = some (.approved, "MANAGER") := by decide
  obtain ⟨request, stored, facts⟩ := Option.map_eq_some_iff.mp ended
  obtain ⟨state, tier⟩ := Prod.mk.inj facts
  obtain ⟨event, member, _, authorised⟩ := only _ request stored (Or.inl state)
  rw [tier] at authorised
  have inputs : ∀ call ∈ unnamedApproval, ¬ call.Authorised "MANAGER" := by decide
  rcases List.mem_cons.mp member with rfl | member
  · exact inputs _ List.mem_cons_self authorised
  · rcases List.mem_cons.mp member with rfl | member
    · exact inputs _ (List.mem_cons_of_mem _ List.mem_cons_self) authorised
    · cases member

end PettyFlow.Workflow
