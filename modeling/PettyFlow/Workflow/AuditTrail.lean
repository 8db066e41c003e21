import PettyFlow.Foundation.Automaton
import PettyFlow.Workflow.CallEffect

/-! Audit trails on every run of the workflow service: they are paths of the transition
table, they only grow, and nothing else about a request changes.
-/

namespace PettyFlow.Workflow

open Foundation

def StateTransitionRecord.move (record : StateTransitionRecord)
    : Move ApprovalState ApprovalEvent :=
  ⟨record.fromState, record.event, record.toState⟩

/-- What every stored request satisfies: it is stored under its own tenant and identifier,
its trail leads from the draft state to its current state, and its records are its own.
-/
structure Sound (key : RequestKey) (request : ApprovalRequest) : Prop where
  keyed : key = (request.tenantId, request.requestId)
  path : IsPath permitted .draft (request.auditTrail.map StateTransitionRecord.move)
    request.state
  own
    : ∀ record ∈ request.auditTrail,
        record.requestId = request.requestId ∧ record.tenantId = request.tenantId

/-- How a stored request may differ later: its trail is extended, what was asked for stays,
and in a terminal state nothing differs.
-/
structure Evolved (before after : ApprovalRequest) : Prop where
  extended : before.auditTrail <+: after.auditTrail
  requestId : after.requestId = before.requestId
  amountScaled : after.amountScaled = before.amountScaled
  tenantId : after.tenantId = before.tenantId
  custodianId : after.custodianId = before.custodianId
  requiredTier : after.requiredApprovalTier = before.requiredApprovalTier
  final : before.isTerminal = true → after = before

theorem Evolved.refl (request : ApprovalRequest) : Evolved request request :=
  ⟨List.prefix_refl _, rfl, rfl, rfl, rfl, rfl, fun _ => rfl⟩

/-- Evolution composes: a terminal request stays what it is through both parts. -/
theorem Evolved.trans {before middle after : ApprovalRequest}
    (first : Evolved before middle) (second : Evolved middle after)
    : Evolved before after where
  extended := first.extended.trans second.extended
  requestId := second.requestId.trans first.requestId
  amountScaled := second.amountScaled.trans first.amountScaled
  tenantId := second.tenantId.trans first.tenantId
  custodianId := second.custodianId.trans first.custodianId
  requiredTier := second.requiredTier.trans first.requiredTier
  final := by
    intro terminal
    obtain rfl := first.final terminal
    exact second.final terminal

/-- No event leaves a terminal state, by checking the table. -/
theorem terminal_not_permitted {request : ApprovalRequest} {event : ApprovalEvent}
    {toState : ApprovalState} (allowed : permitted request.state event = some toState)
    : request.isTerminal = false := by
  unfold ApprovalRequest.isTerminal
  generalize request.state = state at allowed ⊢
  cases state with
  | draft | pending | approved => rfl
  | rejected | disbursed => cases event <;> cases allowed

theorem Moved.evolved {before after : ApprovalRequest} {event : ApprovalEvent}
    {record : StateTransitionRecord} (moved : Moved before event record after)
    : Evolved before after := by
  rw [moved.result]
  refine ⟨List.prefix_append _ _, rfl, rfl, rfl, rfl, rfl, fun terminal => ?_⟩
  rw [terminal_not_permitted moved.allowed] at terminal
  cases terminal

/-- A move extends the path of the trail by the move it records. -/
theorem Moved.sound {key : RequestKey} {before after : ApprovalRequest}
    {event : ApprovalEvent} {record : StateTransitionRecord}
    (moved : Moved before event record after) (sound : Sound key before)
    : Sound key after := by
  rw [moved.result]
  refine { keyed := sound.keyed, path := ?_, own := ?_ }
  · rw [List.map_append, List.map_singleton, isPath_concat]
    refine ⟨?_, ?_, rfl⟩
    · simpa only [StateTransitionRecord.move, moved.fromState] using sound.path
    · simpa only [StateTransitionRecord.move, moved.fromState, moved.label]
        using moved.allowed
  · intro entry member
    rcases List.mem_append.mp member with old | new
    · exact sound.own entry old
    · obtain rfl := List.mem_singleton.mp new
      exact ⟨moved.requestId, moved.tenantId⟩

theorem sound_draft {draft : ApprovalRequest} (unborn : draft.state = .draft)
    (blank : draft.auditTrail = [])
    : Sound (draft.tenantId, draft.requestId) draft where
  keyed := rfl
  path := by
    rw [unborn, blank]
    exact rfl
  own := by simp [blank]

theorem Submitted.sound {request : ApprovalRequest} (born : Submitted request)
    : Sound (request.tenantId, request.requestId) request := by
  cases born with
  | @pending draft _ record unborn blank submitted =>
      have evolved := submitted.evolved
      rw [evolved.tenantId, evolved.requestId]
      exact submitted.sound (sound_draft unborn blank)
  | @approved draft middle _ first second unborn blank submitted automatic approved =>
      have evolved := submitted.evolved.trans approved.evolved
      rw [evolved.tenantId, evolved.requestId]
      exact approved.sound (submitted.sound (sound_draft unborn blank))

/-- The events that lead to a state, where there is only one way to reach it. -/
def eventsTo : ApprovalState → Option (List ApprovalEvent)
  | .draft => some []
  | .pending => some [.submit]
  | .approved => some [.submit, .approve]
  | .disbursed => some [.submit, .approve, .disburse]
  | .rejected => none

/-- The only way into the disbursed state is submission, approval and disbursement, by
induction on the path with the unique event list of every other state.
-/
theorem IsPath.events {moves : List (Move ApprovalState ApprovalEvent)}
    {state : ApprovalState} (path : IsPath permitted .draft moves state)
    : ∀ events ∈ eventsTo state, moves.map Move.label = events := by
  refine IsPath.invariant permitted
    (motive := fun moves state => ∀ events ∈ eventsTo state, moves.map Move.label = events)
    ?_ ?_ path
  · rintro events ⟨⟩
    rfl
  · intro moves source label target unique allowed events reached
    rw [List.map_append, List.map_singleton]
    cases source with
    | rejected | disbursed => cases label <;> cases allowed
    | draft | pending | approved =>
        rw [unique _ rfl]
        cases label <;> cases allowed
        all_goals first | exact Option.some.inj reached | cases reached

theorem Sound.disbursed {key : RequestKey} {request : ApprovalRequest}
    (sound : Sound key request) (disbursed : request.state = .disbursed)
    : request.auditTrail.map StateTransitionRecord.event = [.submit, .approve, .disburse] := by
  have labels := IsPath.events sound.path [.submit, .approve, .disburse]
    (by rw [disbursed]; rfl)
  rw [List.map_map] at labels
  exact labels

/-- A drawn identifier is fresh when the tenant has no request stored under it. Only an
answered submission has drawn one.
-/
def FreshAnswer (s : ApprovalWorkflowService) : Except WorkflowError WorkflowAnswer → Prop
  | .ok (.submitted request _) => s.requests.get? (request.tenantId, request.requestId) = none
  | _ => True

def FreshRequest (s : ApprovalWorkflowService) (call : WorkflowCall) : Prop :=
  FreshAnswer s (serve s call).1

instance (s : ApprovalWorkflowService) : (output : Except WorkflowError WorkflowAnswer) →
    Decidable (FreshAnswer s output)
  | .ok (.submitted request _) =>
      inferInstanceAs (Decidable (s.requests.get? (request.tenantId, request.requestId) = none))
  | .ok (.acted _) => isTrue trivial
  | .error _ => isTrue trivial

instance (s : ApprovalWorkflowService) (call : WorkflowCall) : Decidable (FreshRequest s call) :=
  inferInstanceAs (Decidable (FreshAnswer s (serve s call).1))

def AllSound (s : ApprovalWorkflowService) : Prop :=
  ∀ key request, s.requests.get? key = some request → Sound key request

/-- Every request stored in the first state is stored in the second, evolved. -/
def Preserves (s t : ApprovalWorkflowService) : Prop :=
  ∀ key request,
    s.requests.get? key = some request
    → ∃ after, t.requests.get? key = some after ∧ Evolved request after

theorem Preserves.refl (s : ApprovalWorkflowService) : Preserves s s :=
  fun _ request stored => ⟨request, stored, Evolved.refl request⟩

theorem Preserves.trans {s t u : ApprovalWorkflowService} (first : Preserves s t)
    (second : Preserves t u)
    : Preserves s u := by
  intro key request stored
  obtain ⟨middle, later, evolved⟩ := first key request stored
  obtain ⟨after, last, further⟩ := second key middle later
  exact ⟨after, last, evolved.trans further⟩

/-- Every call keeps the stored requests sound, by the effect it had. -/
theorem Effect.sound {s next : ApprovalWorkflowService} {call : WorkflowCall}
    {output : Except WorkflowError WorkflowAnswer} (effect : Effect s call output next)
    (sound : AllSound s)
    : AllSound next := by
  cases effect with
  | raised => exact sound
  | submitted born =>
      intro key request stored
      rw [Dict.get?_set] at stored
      split at stored
      · rename_i here
        subst here
        obtain rfl := Option.some.inj stored
        exact born.sound
      · exact sound key request stored
  | @acted _ target _ old _ _ _ _ found _ moved =>
      intro key request stored
      rw [Dict.get?_set] at stored
      split at stored
      · rename_i here
        subst here
        obtain rfl := Option.some.inj stored
        exact moved.sound (sound target old found)
      · exact sound key request stored

/-- A call with a fresh identifier keeps every stored request, evolved by at most the one
move that it made.
-/
theorem Effect.preserves {s next : ApprovalWorkflowService} {call : WorkflowCall}
    {output : Except WorkflowError WorkflowAnswer} (effect : Effect s call output next)
    (fresh : FreshAnswer s output)
    : Preserves s next := by
  cases effect with
  | raised => exact Preserves.refl s
  | submitted born =>
      intro key request stored
      refine ⟨request, ?_, Evolved.refl request⟩
      rw [Dict.get?_set_ne _ _ ?_]
      · exact stored
      · rintro rfl
        rw [show s.requests.get? _ = none from fresh] at stored
        cases stored
  | @acted _ target _ old _ updated _ _ found _ moved =>
      intro key request stored
      rw [Dict.get?_set]
      split
      · rename_i here
        subst here
        obtain rfl := Option.some.inj (found.symm.trans stored)
        exact ⟨updated, rfl, moved.evolved⟩
      · exact ⟨request, stored, Evolved.refl request⟩

theorem step_sound (s : ApprovalWorkflowService) (call : WorkflowCall) (sound : AllSound s)
    (_ : FreshRequest s call)
    : AllSound (workflowMachine.step s call).2 :=
  (serve_effect s call).sound sound

theorem initial_sound (evaluator : ApprovalPolicyEvaluator) : AllSound (.initial evaluator) :=
  nofun

/-- A call that raises leaves the whole service as it was. -/
theorem serve_raised {s : ApprovalWorkflowService} {call : WorkflowCall}
    {error : WorkflowError} (raised : (serve s call).1 = .error error)
    : (serve s call).2 = s := by
  have effect := serve_effect s call
  rw [raised] at effect
  generalize (serve s call).2 = next at effect ⊢
  cases effect
  rfl

/-- On every run of the service, under any policy: each stored request is sound, and
disbursed only by way of submission and approval; from any earlier point of the run to any
later one each request only evolves; and a call that raises changes nothing.
-/
theorem audit_trails_sound (evaluator : ApprovalPolicyEvaluator)
    (earlier later : List WorkflowCall)
    (fresh : workflowMachine.Admits FreshRequest (.initial evaluator) (earlier ++ later))
    : (∀ key request,
        (workflowMachine.exec (.initial evaluator) earlier).requests.get? key = some request
        → Sound key request
          ∧ (request.state = .disbursed
            → request.auditTrail.map StateTransitionRecord.event
              = [.submit, .approve, .disburse])
          ∧ ∃ after,
              (workflowMachine.exec (.initial evaluator) (earlier ++ later)).requests.get? key
                = some after
              ∧ Evolved request after)
      ∧ ∀ call error,
          (serve (workflowMachine.exec (.initial evaluator) earlier) call).1 = .error error
          → (serve (workflowMachine.exec (.initial evaluator) earlier) call).2
            = workflowMachine.exec (.initial evaluator) earlier := by
  obtain ⟨first, second⟩ := (workflowMachine.admits_append _ earlier later).mp fresh
  have sound := workflowMachine.exec_invariant step_sound (initial_sound evaluator) first
  refine ⟨fun key request stored => ?_, fun _ _ => serve_raised⟩
  have preserved := workflowMachine.exec_relates Preserves.refl
    (fun _ _ _ => Preserves.trans) step_sound
    (fun s call _ fresh => (serve_effect s call).preserves fresh) sound second
  rw [workflowMachine.exec_append]
  have own := sound key request stored
  exact ⟨own, own.disbursed, preserved key request stored⟩

/-- A request above the first threshold, disbursed too early, approved and disbursed. -/
def sampleCalls : List WorkflowCall :=
  let moment : TransitionDraw := ⟨⟨9⟩, 10, 11⟩
  let request : Uuid := ⟨7⟩
  [
    .submitRequest ⟨request, 1, 2, moment, moment⟩ "acme" "dana" (.int 600000) "usd" "Chairs"
      none true none,
    .disburseRequest moment 12 "acme" request.text "fin" none,
    .approveRequest moment 13 " acme " request.text "lee" (some "Within budget")
      (some "manager"),
    .disburseRequest moment 14 "acme" request.text "fin" none
  ]

theorem audit_trails_sound_sample
    : ∃ request after : ApprovalRequest,
        request.state = .approved
        ∧ Evolved request after
        ∧ after.state = .disbursed
        ∧ after.auditTrail.map StateTransitionRecord.event
          = [.submit, .approve, .disburse] := by
  let evaluator : ApprovalPolicyEvaluator := ⟨defaultPettyflowPolicy⟩
  let key : RequestKey := ("acme", (⟨7⟩ : Uuid).text)
  have found
      : ((workflowMachine.exec (.initial evaluator) (sampleCalls.take 3)).requests.get?
          key).map ApprovalRequest.state
        = some .approved := by decide
  have ended
      : ((workflowMachine.exec (.initial evaluator)
          (sampleCalls.take 3 ++ sampleCalls.drop 3)).requests.get? key).map
            ApprovalRequest.state
        = some .disbursed := by decide
  obtain ⟨request, stored, state⟩ := Option.map_eq_some_iff.mp found
  obtain ⟨last, lastStored, lastState⟩ := Option.map_eq_some_iff.mp ended
  obtain ⟨_, _, after, afterStored, evolved⟩ :=
    (audit_trails_sound evaluator (sampleCalls.take 3) (sampleCalls.drop 3) (by decide)).1
      key request stored
  obtain rfl := Option.some.inj (lastStored.symm.trans afterStored)
  obtain ⟨_, disbursed, _⟩ :=
    (audit_trails_sound evaluator (sampleCalls.take 3 ++ sampleCalls.drop 3) [] (by decide)).1
      key last lastStored
  exact ⟨request, last, state, evolved, lastState, disbursed lastState⟩

end PettyFlow.Workflow
