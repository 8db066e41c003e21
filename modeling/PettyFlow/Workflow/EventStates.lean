import PettyFlow.Workflow.LiveFeed

/-! The states in the live feed. An event is built from the shared object after the lock has been
released; it carries the state of its operation exactly when no later operation on the object has
come in between.
-/

namespace PettyFlow.Workflow

open Foundation

/-- How far a state is on its way. No operation goes back. -/
def ApprovalState.rank : ApprovalState → Nat
  | .draft => 0
  | .pending => 1
  | .approved => 2
  | .rejected | .disbursed => 3

/-- The kinds of the operations on an object, in the order of their locked sections. -/
def kindsAt (operations : List Operation) (address : Nat) : List FeedKind :=
  (operations.filter (fun operation => operation.address = address)).map Operation.kind

/-- The states that an audit trail records. -/
def ApprovalRequest.trailStates (request : ApprovalRequest) : List ApprovalState :=
  request.auditTrail.map StateTransitionRecord.toState

/-- An object as the operations on it have left it: its trail is their path, its state is that
of the last one, and no state comes twice.
-/
structure Recorded (request : ApprovalRequest) (kinds : List FeedKind) : Prop where
  path : kinds.flatMap FeedKind.path = request.trailStates
  last : kinds.getLast?.map FeedKind.state = some request.state
  ordered : kinds.Pairwise (fun first later => first.state.rank < later.state.rank)
  bounded : ∀ kind ∈ kinds, kind.state.rank ≤ request.state.rank

/-- One operation more. -/
theorem Recorded.concat {before after : ApprovalRequest} {kinds : List FeedKind}
    {kind : FeedKind} (recorded : Recorded before kinds)
    (path : after.trailStates = before.trailStates ++ kind.path)
    (state : after.state = kind.state) (forward : before.state.rank < after.state.rank)
    : Recorded after (kinds ++ [kind]) where
  path := by simp [recorded.path, path]
  last := by simp [state]
  ordered := by
    refine List.pairwise_append.mpr ⟨recorded.ordered, List.pairwise_singleton _ _, ?_⟩
    rintro first member _ (_ | ⟨_, ⟨⟩⟩)
    exact (recorded.bounded first member).trans_lt (state ▸ forward)
  bounded := by
    intro other member
    rcases List.mem_append.mp member with old | new
    · exact (recorded.bounded other old).trans forward.le
    · rw [List.mem_singleton.mp new, state]

/-- A move goes on from its state and adds the next one to the trail. -/
theorem Moved.forward {before after : ApprovalRequest} {event : ApprovalEvent}
    {record : StateTransitionRecord} (moved : Moved before event record after)
    : after.trailStates = before.trailStates ++ [after.state]
      ∧ permitted before.state event = some after.state
      ∧ before.state.rank < after.state.rank := by
  have allowed := moved.allowed
  have state : after.state = record.toState := by rw [moved.result]
  refine ⟨?_, state ▸ allowed, ?_⟩
  · rw [ApprovalRequest.trailStates, state, moved.result]
    simp [ApprovalRequest.trailStates]
  · rw [state]
    generalize before.state = source at allowed ⊢
    generalize record.toState = target at allowed ⊢
    cases source <;> cases event
    all_goals cases allowed
    all_goals decide

/-- The kind of the operation that a call on a stored request makes is that of its event. -/
theorem announcement_kind {call : WorkflowCall} {event : ApprovalEvent}
    (applies : call.event = some event) {source target : ApprovalState}
    (allowed : permitted source event = some target) (automatic : Bool) (tier : String)
    (acts : call.actsOn ≠ none)
    : (call.announcement automatic tier).kind.path = [target]
      ∧ (call.announcement automatic tier).kind.state = target := by
  cases call with
  | submitRequest => exact absurd rfl acts
  | approveRequest | rejectRequest | disburseRequest =>
      obtain rfl := Option.some.inj applies
      cases source
      all_goals cases allowed
      all_goals exact ⟨rfl, rfl⟩

/-- A new object is recorded by the submission alone. -/
theorem submit_recorded {s : ApprovalWorkflowService} {draw : SubmitDraw}
    {tenantId custodianId : String} {amountScaled : NumberArg} {currency description : String}
    {receiptMetadata : Option (List (String × Json))} {auto : Bool}
    {initialNotes : Option String} {request : ApprovalRequest}
    {evaluation : PolicyEvaluationResult}
    (ok
      : (s.submitRequest draw tenantId custodianId amountScaled currency description
          receiptMetadata auto initialNotes).1
        = .ok (request, evaluation))
    (tier : String)
    : Recorded request
        [((WorkflowCall.submitRequest draw tenantId custodianId amountScaled currency description
          receiptMetadata auto initialNotes).announcement evaluation.autoApproved tier).kind] := by
  obtain ⟨draft, submitted, first, _, unborn, blank, step, _, last⟩ := submitRequest_ok ok
  obtain ⟨trail, allowed, _⟩ := step.forward
  rw [unborn] at allowed
  have pending : submitted.state = .pending := (Option.some.inj allowed).symm
  have began : submitted.trailStates = [.pending] := by
    rw [trail, pending]
    simp [ApprovalRequest.trailStates, blank]
  dsimp only [WorkflowCall.announcement]
  split at last
  · -- An automatic approval is the second transition of the same submission
    rename_i automatic
    obtain ⟨second, approved⟩ := last
    obtain ⟨trail, allowed, _⟩ := approved.forward
    rw [pending] at allowed
    have state : request.state = .approved := (Option.some.inj allowed).symm
    rw [if_pos automatic]
    refine ⟨?_, ?_, List.pairwise_singleton _ _, ?_⟩
    · rw [trail, began, state]
      rfl
    · rw [state]
      rfl
    · intro kind member
      rw [List.mem_singleton.mp member, state]
      exact le_rfl
  · rename_i manual
    subst last
    rw [if_neg manual]
    refine ⟨?_, ?_, List.pairwise_singleton _ _, ?_⟩
    · rw [began]
      rfl
    · rw [pending]
      rfl
    · intro kind member
      rw [List.mem_singleton.mp member, pending]
      exact le_rfl

/-- The states that an event stands for: an automatic approval has been pending before. -/
def WorkflowEvent.replay (event : WorkflowEvent) : List ApprovalState :=
  match event.kind with
  | .autoApproved => [.pending, event.state]
  | .submitted | .approved | .rejected | .disbursed => [event.state]

/-- What a locked section can do. -/
inductive Locked (s : LiveService) : LiveService → Prop
  | raised : Locked s s
  | submitted {key request metadata operation}
    (address : operation.address = s.objects.length) (pending : operation.event = none)
    (recorded : Recorded request [operation.kind])
    : Locked s
        {
          s with
          objects := s.objects ++ [request]
          table := s.table.set key s.objects.length
          metadata
          operations := s.operations ++ [operation]
        }
  | acted {key before after operation}
    (refers : s.table.get? key = some operation.address)
    (found : before = s.objects.getD operation.address blankRequest)
    (pending : operation.event = none)
    (path : after.trailStates = before.trailStates ++ operation.kind.path)
    (state : after.state = operation.kind.state)
    (forward : before.state.rank < after.state.rank)
    : Locked s
        {
          s with
          objects := s.objects.set operation.address after
          operations := s.operations ++ [operation]
        }

/-- A lookup in the view goes through the table. -/
theorem view_lookup {s : LiveService} {key : RequestKey} {request : ApprovalRequest}
    (found : s.view.requests.get? key = some request)
    : ∃ address,
        s.table.get? key = some address ∧ request = s.objects.getD address blankRequest := by
  rw [LiveService.view, Dict.get?_map] at found
  obtain ⟨address, refers, same⟩ := Option.map_eq_some_iff.mp found
  exact ⟨address, refers, same.symm⟩

/-- The locked section of a call on a stored request. -/
theorem locked_action {s : LiveService} {call : WorkflowCall} {key : RequestKey}
    (target : call.actsOn = some key)
    : Locked s (s.lockedSection call).2 := by
  have effect := serve_effect s.view call
  unfold LiveService.lockedSection
  cases served : serve s.view call with
  | mk outcome next =>
      rw [served] at effect
      cases effect with
      | raised => exact .raised
      | submitted => cases target
      | @acted _ other event before _ after acts applies found cleared moved =>
          obtain rfl := Option.some.inj (target.symm.trans acts)
          obtain ⟨address, refers, same⟩ := view_lookup found
          obtain ⟨trail, allowed, forward⟩ := moved.forward
          obtain ⟨path, state⟩ :=
            announcement_kind applies allowed false "" (by rw [target]; exact Option.some_ne_none _)
          have placed : s.table.getD key s.objects.length = address := by
            rw [Dict.getD, refers, Option.getD_some]
          simp only [target, placed]
          refine @Locked.acted s key before after
            (LiveService.announced address key (call.announcement false "")) refers same rfl ?_
            state.symm forward
          rw [trail]
          exact congrArg _ path.symm

theorem lockedSection_locked (s : LiveService) (call : WorkflowCall)
    : Locked s (s.lockedSection call).2 := by
  cases call with
  | submitRequest draw tenantId custodianId amount currency description receipt auto notes =>
      unfold LiveService.lockedSection
      rcases submitRequest_outcome s.view draw tenantId custodianId amount currency description
        receipt auto notes with ⟨error, raised⟩ | ⟨request, evaluation, stored⟩
      · rw [serve, raised]
        exact .raised
      · have recorded :=
          submit_recorded (congrArg Prod.fst stored) evaluation.requiredTier.value
        rw [serve, stored]
        exact .submitted rfl rfl recorded
  | approveRequest | rejectRequest | disburseRequest => exact locked_action rfl

section Kinds

variable {operations : List Operation} {address : Nat}

theorem kindsAt_append (more : List Operation)
    : kindsAt (operations ++ more) address
      = kindsAt operations address ++ kindsAt more address := by
  simp [kindsAt]

theorem kindsAt_single (operation : Operation)
    : kindsAt [operation] address
      = if operation.address = address then [operation.kind] else [] := by
  by_cases here : operation.address = address <;> simp [kindsAt, here]

/-- Building an event changes neither the object nor the kind of an operation; by induction over
the operations.
-/
theorem kindsAt_modify {change : Operation → Operation} (index : Nat)
    (same
      : ∀ operation,
          (change operation).address = operation.address
          ∧ (change operation).kind = operation.kind)
    : kindsAt (operations.modify index change) address = kindsAt operations address := by
  induction operations generalizing index with
  | nil => cases index <;> rfl
  | cons first rest ih =>
      cases index with
      | zero =>
          obtain ⟨sameAddress, sameKind⟩ := same first
          simp only [List.modify_zero_cons, kindsAt, List.filter_cons, sameAddress]
          split
          · rw [List.map_cons, List.map_cons, sameKind]
          · rfl
      | succ index =>
          have later := ih index
          simp only [List.modify_succ_cons, kindsAt, List.filter_cons] at later ⊢
          split
          · rw [List.map_cons, List.map_cons, later]
          · exact later

end Kinds

/-- The table refers to objects, operations have been made on objects, and each object is as the
operations on it have left it.
-/
structure Consistent (s : LiveService) : Prop where
  table : ∀ key address, s.table.get? key = some address → address < s.objects.length
  made : ∀ operation ∈ s.operations, operation.address < s.objects.length
  recorded
    : ∀ address request,
        s.objects[address]? = some request → Recorded request (kindsAt s.operations address)

theorem initial_consistent (evaluator : ApprovalPolicyEvaluator)
    : Consistent (.initial evaluator) where
  table key address refers := by simp [LiveService.initial] at refers
  made operation member := by simp [LiveService.initial] at member
  recorded address request stored := by simp [LiveService.initial] at stored

/-- Every locked section keeps the objects as recorded. -/
theorem Locked.consistent {s next : LiveService} (locked : Locked s next)
    (consistent : Consistent s)
    : Consistent next := by
  cases locked with
  | raised => exact consistent
  | @submitted key request metadata operation address pending recorded =>
      -- No operation was recorded at the address of an object that did not exist
      have unused : kindsAt s.operations s.objects.length = [] := by
        rw [kindsAt, List.map_eq_nil_iff, List.filter_eq_nil_iff]
        intro other member
        have inside := consistent.made other member
        simp only [decide_eq_true_eq]
        omega
      refine ⟨fun other target refers => ?_, fun other member => ?_, fun target found stored => ?_⟩
      · rw [Dict.get?_set] at refers
        rw [List.length_append, List.length_singleton]
        split at refers
        · obtain rfl := Option.some.inj refers
          omega
        · exact (consistent.table other target refers).trans (Nat.lt_succ_self _)
      · rw [List.length_append, List.length_singleton]
        rcases List.mem_append.mp member with old | new
        · exact (consistent.made other old).trans (Nat.lt_succ_self _)
        · rw [List.mem_singleton.mp new, address]
          omega
      · rw [kindsAt_append, kindsAt_single, address]
        -- An older object keeps its history; the new one has the submission alone
        by_cases old : target < s.objects.length
        · rw [List.getElem?_append_left old] at stored
          rw [if_neg old.ne', List.append_nil]
          exact consistent.recorded target found stored
        · have bound := (List.getElem?_eq_some_iff.mp stored).1
          rw [List.length_append, List.length_singleton] at bound
          obtain rfl : target = s.objects.length := by omega
          rw [List.getElem?_concat_length] at stored
          obtain rfl := Option.some.inj stored
          rw [if_pos rfl, unused, List.nil_append]
          exact recorded
  | @acted key before after operation refers found pending path state forward =>
      have inside := consistent.table _ _ refers
      refine ⟨fun other target refers => ?_, fun other member => ?_,
        fun target request stored => ?_⟩
      · rw [List.length_set]
        exact consistent.table other target refers
      · rw [List.length_set]
        rcases List.mem_append.mp member with old | new
        · exact consistent.made other old
        · rw [List.mem_singleton.mp new]
          exact inside
      · rw [kindsAt_append, kindsAt_single]
        -- The object that was acted on has one operation more, every other one has the same
        by_cases here : operation.address = target
        · subst here
          rw [List.getElem?_set_self inside] at stored
          obtain rfl := Option.some.inj stored
          have earlier : s.objects[operation.address]? = some before := by
            rw [found, List.getD_eq_getElem?_getD, List.getElem?_eq_getElem inside,
              Option.getD_some]
          rw [if_pos rfl]
          exact (consistent.recorded _ before earlier).concat path state forward
        · rw [List.getElem?_set_ne here] at stored
          rw [if_neg here, List.append_nil]
          exact consistent.recorded target request stored

theorem withEvent_same (s : LiveService) (operation : Operation)
    : (s.withEvent operation).address = operation.address
      ∧ (s.withEvent operation).kind = operation.kind := by
  unfold LiveService.withEvent
  cases operation.event <;> exact ⟨rfl, rfl⟩

/-- After a broadcast the operations are the earlier ones, one of them with its event. -/
theorem mem_broadcast {s : LiveService} {index : Nat} {operation : Operation}
    (member : operation ∈ (s.broadcast index).operations)
    : operation ∈ s.operations
      ∨ ∃ before, s.operations[index]? = some before ∧ operation = s.withEvent before := by
  obtain ⟨position, found⟩ := List.mem_iff_getElem?.mp member
  rw [LiveService.broadcast, List.getElem?_modify] at found
  obtain ⟨before, stored, rfl⟩ := Option.map_eq_some_iff.mp found
  by_cases here : index = position
  · subst here
    rw [if_pos rfl]
    exact .inr ⟨before, stored, rfl⟩
  · rw [if_neg here]
    exact .inl (List.mem_of_getElem? stored)

/-- Building an event changes no object and no kind. -/
theorem Consistent.broadcast {s : LiveService} (consistent : Consistent s) (index : Nat)
    : Consistent (s.broadcast index) := by
  refine ⟨consistent.table, fun operation member => ?_, fun address request stored => ?_⟩
  · rcases mem_broadcast member with old | ⟨before, found, rfl⟩
    · exact consistent.made operation old
    · rw [(withEvent_same s before).1]
      exact consistent.made before (List.mem_of_getElem? found)
  · rw [LiveService.broadcast, kindsAt_modify index (withEvent_same s)]
    exact consistent.recorded address request stored

/-- The object of an operation. -/
theorem Consistent.object {s : LiveService} (consistent : Consistent s) {operation : Operation}
    (member : operation ∈ s.operations)
    : s.objects[operation.address]?
      = some (s.objects.getD operation.address blankRequest) := by
  have inside := consistent.made operation member
  rw [List.getD_eq_getElem?_getD, List.getElem?_eq_getElem inside, Option.getD_some]

/-- An event has the kind of its operation and carries the state that it produced. -/
def Operation.Faithful (operation : Operation) : Prop :=
  ∀ event ∈ operation.event,
    event.kind = operation.kind ∧ event.state = operation.kind.state

/-- Every event that has been built carries the state that its operation produced; and the
events of an object, once all of them have been built, replay its audit trail in the order of the
operations.
-/
def EventsReplay (s : LiveService) : Prop :=
  (∀ operation ∈ s.operations, operation.Faithful)
  ∧ ∀ address request,
      s.objects[address]? = some request
      → (∀ operation ∈ s.operations, operation.address = address → operation.event ≠ none)
      → (((s.operations.filter (fun operation => operation.address = address)).filterMap
            Operation.event).flatMap WorkflowEvent.replay)
          = request.trailStates

/-- Faithful events replay the paths of their operations, by induction over the operations. -/
theorem replay_paths {operations : List Operation}
    (faithful : ∀ operation ∈ operations, operation.Faithful)
    (built : ∀ operation ∈ operations, operation.event ≠ none)
    : (operations.filterMap Operation.event).flatMap WorkflowEvent.replay
      = (operations.map Operation.kind).flatMap FeedKind.path := by
  induction operations with
  | nil => rfl
  | cons first rest ih =>
      have later :=
        ih (fun operation member => faithful operation (List.mem_cons_of_mem _ member))
          (fun operation member => built operation (List.mem_cons_of_mem _ member))
      obtain ⟨event, isBuilt⟩ := Option.ne_none_iff_exists'.mp (built first List.mem_cons_self)
      obtain ⟨sameKind, sameState⟩ := faithful first List.mem_cons_self event isBuilt
      have step : event.replay = first.kind.path := by
        unfold WorkflowEvent.replay
        rw [sameKind, sameState]
        cases first.kind <;> rfl
      rw [List.filterMap_cons_some isBuilt, List.flatMap_cons, List.map_cons, List.flatMap_cons,
        step, later]

/-- Faithful events of consistent objects replay the audit trails. -/
theorem events_replay {s : LiveService} (consistent : Consistent s)
    (faithful : ∀ operation ∈ s.operations, operation.Faithful)
    : EventsReplay s := by
  refine ⟨faithful, fun address request stored built => ?_⟩
  rw [← (consistent.recorded address request stored).path]
  apply replay_paths
  · exact fun operation member => faithful operation (List.mem_filter.mp member).1
  · intro operation member
    obtain ⟨listed, here⟩ := List.mem_filter.mp member
    exact built operation listed (of_decide_eq_true here)

/-- No operation has changed the object since the locked section of an operation whose event is
about to be built.
-/
def LiveStep.Undisturbed (s : LiveService) : LiveStep → Prop
  | .lockedSection _ => True
  | .broadcast index =>
      ∀ operation ∈ s.operations[index]?,
        operation.event = none
        → ∀ later ∈ s.operations.drop (index + 1), later.address ≠ operation.address

instance (s : LiveService) (step : LiveStep) : Decidable (step.Undisturbed s) := by
  cases step <;> unfold LiveStep.Undisturbed <;> infer_instance

/-- The kinds on an object, cut at an operation. -/
theorem kindsAt_split {operations : List Operation} {index : Nat} {operation : Operation}
    (found : operations[index]? = some operation)
    : kindsAt operations operation.address
      = kindsAt (operations.take index) operation.address
        ++ operation.kind :: kindsAt (operations.drop (index + 1)) operation.address := by
  have split
      : operations = operations.take index ++ [operation] ++ operations.drop (index + 1) := by
    obtain ⟨inside, value⟩ := List.getElem?_eq_some_iff.mp found
    rw [← value, List.append_assoc, List.singleton_append, ← List.drop_eq_getElem_cons inside,
      List.take_append_drop]
  conv_lhs => rw [split]
  rw [kindsAt_append, kindsAt_append, kindsAt_single, if_pos rfl, List.append_assoc,
    List.singleton_append]

/-- The object still has the state of an operation exactly when no later one has changed it. -/
theorem undisturbed_iff {s : LiveService} (consistent : Consistent s) {index : Nat}
    {operation : Operation} (found : s.operations[index]? = some operation)
    : (s.objects.getD operation.address blankRequest).state = operation.kind.state
      ↔ ∀ later ∈ s.operations.drop (index + 1), later.address ≠ operation.address := by
  have member := List.mem_of_getElem? found
  have recorded := consistent.recorded _ _ (consistent.object member)
  rw [kindsAt_split found] at recorded
  constructor
  · intro same later behind here
    have kind : later.kind ∈ kindsAt (s.operations.drop (index + 1)) operation.address :=
      List.mem_map.mpr ⟨later, List.mem_filter.mpr ⟨behind, decide_eq_true here⟩, rfl⟩
    have ordered := (List.pairwise_append.mp recorded.ordered).2.1
    have further := (List.pairwise_cons.mp ordered).1 later.kind kind
    have bound := recorded.bounded later.kind (by simp [kind])
    rw [same] at bound
    omega
  · intro alone
    have none_ : kindsAt (s.operations.drop (index + 1)) operation.address = [] := by
      rw [kindsAt, List.map_eq_nil_iff, List.filter_eq_nil_iff]
      intro later behind
      simpa using alone later behind
    have last := recorded.last
    rw [none_, List.getLast?_concat, Option.map_some] at last
    exact (Option.some.inj last).symm

/-- A consistent service whose events are faithful. -/
def FaithfulFeed (s : LiveService) : Prop :=
  Consistent s ∧ ∀ operation ∈ s.operations, operation.Faithful

theorem FaithfulFeed.lockedSection {s : LiveService} (feed : FaithfulFeed s)
    (call : WorkflowCall)
    : FaithfulFeed (s.lockedSection call).2 := by
  have locked := lockedSection_locked s call
  generalize (s.lockedSection call).2 = next at locked ⊢
  refine ⟨locked.consistent feed.1, ?_⟩
  -- A new operation has no event yet
  cases locked with
  | raised => exact feed.2
  | submitted _ pending | acted _ _ pending =>
      intro operation member
      rcases List.mem_append.mp member with old | new
      · exact feed.2 operation old
      · obtain rfl := List.mem_singleton.mp new
        intro event built
        rw [pending] at built
        cases built

theorem FaithfulFeed.broadcast {s : LiveService} (feed : FaithfulFeed s) {index : Nat}
    (undisturbed : (LiveStep.broadcast index).Undisturbed s)
    : FaithfulFeed (s.broadcast index) := by
  refine ⟨feed.1.broadcast index, fun operation member => ?_⟩
  rcases mem_broadcast member with old | ⟨before, found, rfl⟩
  · exact feed.2 operation old
  · unfold LiveService.withEvent
    cases pending : before.event with
    | some event => exact feed.2 before (List.mem_of_getElem? found)
    | none =>
        rintro event ⟨⟩
        exact ⟨rfl, (undisturbed_iff feed.1 found).mpr (undisturbed before found pending)⟩

/-- An operation whose event is faithful was not disturbed. -/
theorem undisturbed_of_replay {s : LiveService} (feed : FaithfulFeed s) {index : Nat}
    (replays : EventsReplay (s.broadcast index))
    : (LiveStep.broadcast index).Undisturbed s := by
  intro operation found pending
  apply (undisturbed_iff feed.1 found).mp
  have member : s.withEvent operation ∈ (s.broadcast index).operations := by
    apply List.mem_of_getElem? (i := index)
    rw [LiveService.broadcast, List.getElem?_modify_eq, found]
    rfl
  have faithful := replays.1 _ member
  unfold LiveService.withEvent at faithful
  rw [pending] at faithful
  exact (faithful (s.buildEvent operation) rfl).2

/-- At every point of a run the events carry the states of their operations, and replay the audit
trails, exactly when no operation is disturbed between its locked section and its event.
-/
theorem feed_faithful_iff (evaluator : ApprovalPolicyEvaluator) (steps : List LiveStep)
    : (∀ done, done <+: steps → EventsReplay (liveMachine.exec (.initial evaluator) done))
      ↔ liveMachine.Admits LiveStep.Undisturbed (.initial evaluator) steps := by
  refine liveMachine.throughout_iff (fun _ s => EventsReplay s) (fun _ s => FaithfulFeed s)
    (fun _ s feed => events_replay feed.1 feed.2) ?_ ?_
    ⟨initial_consistent evaluator, fun _ member => absurd member List.not_mem_nil⟩ steps
  · intro _ s step feed undisturbed
    cases step with
    | lockedSection call => exact feed.lockedSection call
    | broadcast index => exact feed.broadcast undisturbed
  · intro _ s step feed replays
    cases step with
    | lockedSection call => trivial
    | broadcast index => exact undisturbed_of_replay feed replays

section Sample

/-- A submission, an approval and a payment; the approval's event is built last. -/
def overtakenApproval : List LiveStep :=
  let moment : TransitionDraw := ⟨⟨9⟩, 10, 11⟩
  [
    .lockedSection (.submitRequest ⟨⟨7⟩, 1, 2, moment, moment⟩ "acme" "dana" (.int 600000) "usd"
      "Chairs" none true none),
    .broadcast 0,
    .lockedSection (.approveRequest moment 13 "acme" (⟨7⟩ : Uuid).text "lee"
      (some "Within budget") none),
    .lockedSection (.disburseRequest moment 14 "acme" (⟨7⟩ : Uuid).text "fin" none),
    .broadcast 2, .broadcast 1
  ]

/-- The kinds of the operations' events and the states that they carry. -/
def LiveService.feed (s : LiveService) : List (Option (FeedKind × ApprovalState)) :=
  s.operations.map (fun operation =>
    operation.event.map (fun event => (event.kind, event.state)))

theorem overtaken_feed
    : (liveMachine.exec (.initial ⟨defaultPettyflowPolicy⟩) overtakenApproval).feed
      = [some (.submitted, .pending), some (.approved, .disbursed),
        some (.disbursed, .disbursed)] := by
  decide +kernel

/-- The event of the overtaken approval says that the request has been disbursed. -/
theorem overtaken_approval_disbursed
    : ¬ EventsReplay
        (liveMachine.exec (.initial ⟨defaultPettyflowPolicy⟩) overtakenApproval) := by
  intro replays
  have listed
      : some (FeedKind.approved, ApprovalState.disbursed)
        ∈ (liveMachine.exec (.initial ⟨defaultPettyflowPolicy⟩) overtakenApproval).feed := by
    rw [overtaken_feed]
    exact List.mem_cons_of_mem _ List.mem_cons_self
  obtain ⟨operation, member, carries⟩ := List.mem_map.mp listed
  obtain ⟨event, isBuilt, pair⟩ := Option.map_eq_some_iff.mp carries
  obtain ⟨kind, state⟩ := Prod.mk.inj pair
  obtain ⟨sameKind, sameState⟩ := replays.1 operation member event isBuilt
  rw [← sameKind, kind, state] at sameState
  cases sameState

end Sample

end PettyFlow.Workflow
