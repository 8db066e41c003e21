import PettyFlow.Frontend.DraftDelivery
import PettyFlow.Frontend.ExpenseAmounts
import PettyFlow.Workflow.Authority

/-! The tier that the form shows and the tier that the service requires: every request of the
service comes from a confirmed form, on whichever way the form has reached it.
-/

namespace PettyFlow.Frontend

open Foundation
open Workflow

/-- The tier of the default policy. -/
def defaultTier (amountScaled : Int) : ApprovalTier :=
  if amountScaled < 500000 then .autoApprove
  else if amountScaled < 5000000 then .manager
  else .financeDirector

/-- Every positive amount has a rule of the default policy. -/
theorem find_default {amountScaled : Int} (positive : 0 < amountScaled)
    : ∃ rule,
        defaultEvaluator.rules.find? (fun rule => rule.matches amountScaled) = some rule
        ∧ rule.requiredTier = defaultTier amountScaled := by
  have three : defaultEvaluator.rules = defaultPettyflowPolicy := rfl
  have some : ¬ amountScaled < 1 := by omega
  rw [three, defaultPettyflowPolicy, defaultTier]
  by_cases low : amountScaled < 500000
  · refine ⟨_, List.find?_cons_of_pos ?_, (if_pos low).symm⟩
    simp [PolicyRule.matches, some, tierManagerThresholdScaled, scale, low]
  rw [List.find?_cons_of_neg
    (by simp [PolicyRule.matches, some, tierManagerThresholdScaled, scale, not_lt.mp low])]
  rw [if_neg low]
  by_cases middle : amountScaled < 5000000
  · refine ⟨_, List.find?_cons_of_pos ?_, (if_pos middle).symm⟩
    simp [PolicyRule.matches, tierManagerThresholdScaled, tierFinanceDirectorThresholdScaled, scale,
      low, middle]
  rw [List.find?_cons_of_neg
    (by simp [PolicyRule.matches, tierManagerThresholdScaled, tierFinanceDirectorThresholdScaled,
      scale, low, not_lt.mp middle])]
  refine ⟨_, List.find?_cons_of_pos ?_, (if_neg middle).symm⟩
  simp [PolicyRule.matches, tierFinanceDirectorThresholdScaled, scale, middle]

theorem evaluate_default (requestId : String) {amountScaled : Int} (positive : 0 < amountScaled)
    {evaluation : PolicyEvaluationResult}
    (evaluated : defaultEvaluator.evaluate requestId (.int amountScaled) = .ok evaluation)
    : evaluation.requiredTier = defaultTier amountScaled
      ∧ evaluation.autoApproved = decide (defaultTier amountScaled = .autoApprove) := by
  obtain ⟨rule, found, tier⟩ := find_default positive
  unfold ApprovalPolicyEvaluator.evaluate NumberArg.int? at evaluated
  dsimp only at evaluated
  rw [if_neg (not_le.mpr positive), found] at evaluated
  obtain rfl := Except.ok.inj evaluated
  refine ⟨tier, ?_⟩
  change decide (rule.requiredTier = .autoApprove) = _
  rw [tier]

/-- A request is what the service makes of a form. -/
structure MadeOf (form : ExpenseForm) (request : ApprovalRequest) : Prop where
  tenantId : request.tenantId = strip form.tenantId
  custodianId : request.custodianId = strip form.custodianId
  description : request.description = strip form.description
  amountScaled : request.amountScaled = form.amountScaled
  tier : request.requiredApprovalTier = (defaultTier form.amountScaled).value
  state
    : request.state
      = if defaultTier form.amountScaled = .autoApprove then .approved else .pending

/-- A submission that is accepted stores a request made of its form. -/
theorem submitRequest_madeOf {s : ApprovalWorkflowService} {draw : SubmitDraw}
    {form : ExpenseForm} {currency : String} {receiptMetadata : Option (List (String × Json))}
    {request : ApprovalRequest} {evaluation : PolicyEvaluationResult}
    (policy : s.policyEvaluator = defaultEvaluator) (positive : 0 < form.amountScaled)
    (ok
      : (s.submitRequest draw form.tenantId form.custodianId (.int form.amountScaled) currency
          form.description receiptMetadata true none).1
        = .ok (request, evaluation))
    : MadeOf form request := by
  obtain ⟨⟨_, _⟩, passed, same⟩ := attempt_ok ok
  obtain ⟨rfl, rfl⟩ := Prod.mk.inj same
  obtain ⟨_, _, passed⟩ := bind_ok passed
  obtain ⟨_, _, passed⟩ := bind_ok passed
  obtain ⟨amount, read, passed⟩ := bind_ok passed
  obtain rfl := Option.some.inj (orRaise_ok read)
  obtain ⟨_, _, passed⟩ := bind_ok passed
  obtain ⟨_, _, passed⟩ := bind_ok passed
  obtain ⟨_, _, passed⟩ := bind_ok passed
  obtain ⟨reported, evaluated, passed⟩ := bind_ok passed
  obtain ⟨submitted, submit, passed⟩ := bind_ok passed
  rw [policy] at evaluated
  obtain ⟨tier, automatic⟩ := evaluate_default _ positive (mapError_ok evaluated)
  obtain ⟨firstRecord, first⟩ := transition_ok submit
  have pending : firstRecord.toState = .pending := Option.some.inj (first.allowed.symm.trans rfl)
  have drafted := first.result
  rw [pending] at drafted
  rw [automatic, Bool.and_true] at passed
  split at passed
  · rename_i approves
    rw [decide_eq_true_iff] at approves
    obtain ⟨approved, approve, passed⟩ := bind_ok passed
    obtain ⟨rfl, rfl⟩ := Prod.mk.inj (Except.ok.inj passed)
    obtain ⟨secondRecord, second⟩ := transition_ok approve
    have state : submitted.state = .pending := by rw [drafted]
    have done : secondRecord.toState = .approved := by
      have allowed := second.allowed
      rw [state] at allowed
      exact Option.some.inj (allowed.symm.trans rfl)
    have result := second.result
    rw [done, drafted] at result
    rw [result]
    exact ⟨rfl, rfl, rfl, rfl, congrArg ApprovalTier.value tier, (if_pos approves).symm⟩
  · rename_i manual
    rw [decide_eq_true_iff] at manual
    obtain ⟨rfl, rfl⟩ := Prod.mk.inj (Except.ok.inj passed)
    rw [drafted]
    exact ⟨rfl, rfl, rfl, rfl, congrArg ApprovalTier.value tier, (if_neg manual).symm⟩

/-! ### Runs -/

/-- The forms that are part of a task. -/
def Task.payloads : Task → List ExpenseForm
  | .submitting _ _ payload | .saving _ payload => [payload]
  | .syncingAll _ draft rest | .deletingInAll draft rest =>
      draft.payload :: rest.map (·.payload)
  | .syncingSingle _ draft | .deletingSingle draft => [draft.payload]
  | .loading drafts => drafts.map (·.payload)
  | .discarding _ | .readingAll | .done => []

/-- Every form in the app, on its way and behind a request of the service is of a kind. -/
structure Carries (kind : ExpenseForm → Prop) (s : System) : Prop where
  policy : s.service.policyEvaluator = defaultEvaluator
  store : ∀ draft ∈ s.store, kind draft.payload
  loaded : ∀ draft ∈ s.offlineDrafts, kind draft.payload
  tasks : ∀ task ∈ s.tasks, ∀ payload ∈ task.payloads, kind payload
  messages : ∀ message ∈ s.messages, kind message.payload
  made
    : ∀ key request,
        s.service.requests.get? key = some request
        → ∃ form, kind form ∧ MadeOf form request

section Carries

variable {kind : ExpenseForm → Prop} {s : System}

theorem Carries.addTask (carries : Carries kind s) {task : Task}
    (all : ∀ payload ∈ task.payloads, kind payload)
    : Carries kind (s.addTask task) := by
  refine { carries with tasks := fun other member => ?_ }
  rcases List.mem_append.mp member with old | new
  · exact carries.tasks other old
  · exact List.mem_singleton.mp new ▸ all

theorem Carries.setTask (carries : Carries kind s) {task : Task}
    (all : ∀ payload ∈ task.payloads, kind payload) (index : Nat)
    : Carries kind (s.setTask index task) := by
  refine { carries with tasks := fun other member => ?_ }
  rcases List.mem_or_eq_of_mem_set member with old | new
  · exact carries.tasks other old
  · exact new ▸ all

theorem Carries.finish (carries : Carries kind s) (index : Nat)
    : Carries kind (s.setTask index .done) :=
  carries.setTask (List.forall_mem_nil _) index

theorem Carries.send (carries : Carries kind s) (form : Nat) {payload : ExpenseForm}
    (known : kind payload)
    : Carries kind (s.send form payload) := by
  refine { carries with messages := fun message member => ?_ }
  rcases List.mem_append.mp member with old | new
  · exact carries.messages message old
  · exact List.mem_singleton.mp new ▸ known

theorem Carries.put (carries : Carries kind s) {draft : Draft} (known : kind draft.payload)
    : Carries kind (s.put draft) := by
  refine { carries with store := fun other member => ?_ }
  rcases List.mem_append.mp member with old | new
  · exact carries.store other (List.mem_filter.mp old).1
  · exact List.mem_singleton.mp new ▸ known

theorem Carries.delete (carries : Carries kind s) (draftId : String)
    : Carries kind (s.delete draftId) :=
  { carries with store := fun draft member => carries.store draft (List.mem_filter.mp member).1 }

theorem Carries.syncNext (carries : Carries kind s) (index : Nat) {drafts : List Draft}
    (known : ∀ draft ∈ drafts, kind draft.payload)
    : Carries kind (s.syncNext index drafts) := by
  cases drafts with
  | nil => exact carries.finish index
  | cons draft rest =>
      refine (carries.send draft.form (known draft List.mem_cons_self)).setTask ?_ index
      rw [Task.payloads, ← List.map_cons, List.forall_mem_map]
      exact known

theorem Carries.handleExpenseSubmit (carries : Carries kind s) {payload : ExpenseForm}
    (known : kind payload)
    : Carries kind (s.handleExpenseSubmit payload) := by
  have counted : Carries kind { s with forms := s.forms + 1 } := { carries with }
  have single : ∀ other ∈ [payload], kind other := List.forall_mem_singleton.mpr known
  unfold System.handleExpenseSubmit
  dsimp only
  split
  · exact (counted.send s.forms known).addTask single
  · exact counted.addTask single

theorem Carries.syncSingleDraft (carries : Carries kind s) (draftId : String)
    : Carries kind (s.syncSingleDraft draftId) := by
  unfold System.syncSingleDraft
  split
  · exact carries
  · rename_i draft found
    have known := carries.loaded draft (List.mem_of_find?_eq_some found)
    exact (carries.send draft.form known).addTask (List.forall_mem_singleton.mpr known)

/-- A request that reaches the service becomes a request made of its form, or nothing. -/
theorem Carries.deliver (carries : Carries kind s) (index : Nat) (draw : SubmitDraw)
    : Carries kind (s.deliver index draw) := by
  unfold System.deliver
  split
  · rename_i form payload found
    have known : kind payload := carries.messages _ (List.mem_of_getElem? found)
    have answered (answer : Option Bool)
        : ∀ message ∈ s.messages.set index ⟨form, payload, answer⟩, kind message.payload := by
      intro message member
      rcases List.mem_or_eq_of_mem_set member with old | new
      · exact carries.messages message old
      · exact new ▸ known
    unfold System.answer
    by_cases valid : payload.Valid
    · rw [if_pos valid]
      have outcome :=
        submitRequest_outcome s.service draw payload.tenantId payload.custodianId
          (.int payload.amountScaled) (upper payload.currency) payload.description
          (some payload.receiptMetadata) true none
      rcases outcome with ⟨error, raised⟩ | ⟨request, evaluation, stored⟩
      · rw [raised]
        exact { carries with messages := answered (some false) }
      · have made :=
          submitRequest_madeOf carries.policy valid.2.2.1 (congrArg Prod.fst stored)
        rw [stored]
        refine {
          carries with
          policy := carries.policy
          messages := answered (some true)
          made := fun key other found => ?_
        }
        change (s.service.requests.set _ request).get? key = some other at found
        rw [Dict.get?_set] at found
        split at found
        · cases found
          exact ⟨payload, known, made⟩
        · exact carries.made key other found
    · rw [if_neg valid]
      exact { carries with messages := answered (some false) }
  · exact carries

theorem Carries.fail (carries : Carries kind s) (index : Nat) {task : Task}
    (all : ∀ payload ∈ task.payloads, kind payload)
    : Carries kind (s.fail index task) := by
  cases task with
  | submitting message form payload =>
      have saving : ∀ other ∈ (Task.saving form payload).payloads, kind other := all
      exact carries.setTask saving index
  | syncingAll message draft rest =>
      rw [Task.payloads, List.forall_mem_cons, List.forall_mem_map] at all
      exact carries.syncNext index all.2
  | syncingSingle message draft => exact carries.finish index
  | saving | readingAll | deletingInAll | deletingSingle | discarding | loading | done =>
      exact carries

theorem Carries.succeed (carries : Carries kind s) (index : Nat) {task : Task}
    (all : ∀ payload ∈ task.payloads, kind payload)
    : Carries kind (s.succeed index task) := by
  cases task with
  | submitting message form payload => exact carries.finish index
  | syncingAll message draft rest =>
      have deleting : ∀ other ∈ (Task.deletingInAll draft rest).payloads, kind other := all
      exact carries.setTask deleting index
  | syncingSingle message draft =>
      have deleting : ∀ other ∈ (Task.deletingSingle draft).payloads, kind other := all
      exact carries.setTask deleting index
  | saving | readingAll | deletingInAll | deletingSingle | discarding | loading | done =>
      exact carries

theorem Carries.respond (carries : Carries kind s) (index : Nat)
    : Carries kind (s.respond index) := by
  unfold System.respond
  split
  · exact carries
  · rename_i task found
    have all := carries.tasks task (List.mem_of_getElem? found)
    split
    · exact carries.succeed index all
    · exact carries.fail index all
    · exact carries

theorem Carries.lose (carries : Carries kind s) (index : Nat) : Carries kind (s.lose index) := by
  unfold System.lose
  split
  · exact carries
  · rename_i task found
    exact carries.fail index (carries.tasks task (List.mem_of_getElem? found))

theorem Carries.complete (carries : Carries kind s) (index : Nat) (draftId : String)
    : Carries kind (s.complete index draftId) := by
  unfold System.complete
  split
  · rename_i form payload found
    have known := carries.tasks _ (List.mem_of_getElem? found) payload List.mem_cons_self
    have stored : Carries kind (s.put ⟨draftId, form, payload⟩) := carries.put known
    exact stored.finish index
  · exact carries.syncNext index (fun draft member =>
      carries.store draft ((List.mem_insertionSort _).mp member))
  · rename_i draft rest found
    have all := carries.tasks _ (List.mem_of_getElem? found)
    rw [Task.payloads, List.forall_mem_cons, List.forall_mem_map] at all
    exact (carries.delete draft.id).syncNext index all.2
  · exact (carries.delete _).finish index
  · exact (carries.delete _).finish index
  · rename_i drafts found
    have all := carries.tasks _ (List.mem_of_getElem? found)
    rw [Task.payloads, List.forall_mem_map] at all
    exact { carries.finish index with loaded := all }
  · exact carries

end Carries

/-- A step keeps every form of the kind, if the form that it confirms is. -/
theorem step_carries {kind : ExpenseForm → Prop} (s : System) (step : SystemStep)
    (carries : Carries kind s) (known : ∀ payload, step = .confirm payload → kind payload)
    : Carries kind (systemMachine.step s step).2 := by
  have online : Carries kind { s with isOnline := true } := { carries with }
  have reading : ∀ payload ∈ Task.readingAll.payloads, kind payload := List.forall_mem_nil _
  cases step with
  | confirm payload => exact carries.handleExpenseSubmit (known payload rfl)
  | syncAll =>
      change Carries kind s.syncAllPendingDrafts
      unfold System.syncAllPendingDrafts
      split
      · exact carries.addTask reading
      · exact carries
  | syncSingle draftId => exact carries.syncSingleDraft draftId
  | discard draftId =>
      have noted : Carries kind { s with discarded := s.discarded ++ [draftId] } := { carries with }
      exact noted.addTask (List.forall_mem_nil _)
  | goOnline => exact online.addTask reading
  | goOffline => exact { carries with }
  | load =>
      refine carries.addTask ?_
      rw [Task.payloads, List.forall_mem_map]
      exact fun draft member => carries.store draft ((List.mem_insertionSort _).mp member)
  | deliver message draw => exact carries.deliver message draw
  | respond task => exact carries.respond task
  | lose task => exact carries.lose task
  | complete task draftId => exact carries.complete task draftId

/-- The steps of a run that confirm a form. -/
def confirmedForms (steps : List SystemStep) : List ExpenseForm :=
  steps.filterMap (fun step =>
    match step with
    | .confirm payload => some payload
    | _ => none)

theorem mem_confirmedForms {steps : List SystemStep} {payload : ExpenseForm}
    : payload ∈ confirmedForms steps ↔ .confirm payload ∈ steps := by
  rw [confirmedForms, List.mem_filterMap]
  constructor
  · rintro ⟨step, member, same⟩
    cases step with
    | confirm other =>
        obtain rfl := Option.some.inj same
        exact member
    | _ => cases same
  · intro member
    exact ⟨_, member, rfl⟩

/-- Whatever the network does, every form in the system is one that was confirmed. -/
theorem exec_carries (steps : List SystemStep)
    : Carries (· ∈ confirmedForms steps)
        (systemMachine.exec (.initial defaultEvaluator) steps) := by
  have start : Carries (· ∈ confirmedForms steps) (.initial defaultEvaluator) := by
    constructor <;> simp [System.initial, ApprovalWorkflowService.initial]
  have kept (s : System) (step : SystemStep) (carries : Carries (· ∈ confirmedForms steps) s)
      (member : step ∈ steps)
      : Carries (· ∈ confirmedForms steps) (systemMachine.step s step).2 := by
    refine step_carries s step carries ?_
    rintro payload rfl
    exact mem_confirmedForms.mpr member
  have inputs : ∀ event ∈ systemMachine.history (.initial defaultEvaluator) steps,
      event.input ∈ steps :=
    fun event member => systemMachine.input_mem member
  refine systemMachine.exec_invariant_of_events ?_ start inputs
  exact fun s input carries member => kept s input carries member

/-- The amount of a field is one of four decimals within the range that survives floats. -/
structure Typed (fields : ExpenseFields) (units : Nat) : Prop where
  spells : Spells fields.expenseAmount units
  positive : 0 < units
  small : units < 2 ^ 38 * 10000

/-- What a custodian was shown of a request in the service: the amount and the tier that the form
showed are those of the request, and it is approved at once exactly if the form said so.
-/
structure AsShown (fields : ExpenseFields) (request : ApprovalRequest) : Prop where
  amount : Spells fields.expenseAmount request.amountScaled.toNat
  tier
    : ∃ tier ∈ (onExpenseAmountChanged fields.expenseAmount).tier,
        request.requiredApprovalTier = tier.value
  approved
    : request.state = .approved
      ↔ onExpenseAmountChanged fields.expenseAmount = .autoApprove
  pending
    : request.state = .pending
      ↔ onExpenseAmountChanged fields.expenseAmount ≠ .autoApprove

/-- A form with a typed amount is sent with that amount. -/
theorem payload_amount {fields : ExpenseFields} {units : Nat} {form : ExpenseForm}
    (typed : Typed fields units) (sent : fields.payload = .ok form)
    : form.amountScaled = units := by
  obtain ⟨product, multiplied, rounded⟩ := typed.spells.product typed.small
  obtain ⟨_, _, sent⟩ := bind_ok sent
  obtain ⟨_, _, sent⟩ := bind_ok sent
  rw [multiplied] at sent
  obtain rfl := Except.ok.inj sent
  exact rounded

theorem MadeOf.asShown {fields : ExpenseFields} {units : Nat} {form : ExpenseForm}
    {request : ApprovalRequest} (made : MadeOf form request) (typed : Typed fields units)
    (sent : fields.payload = .ok form)
    : AsShown fields request := by
  have amount := payload_amount typed sent
  have shown := typed.spells.preview typed.small typed.positive
  have tier := made.tier
  have state := made.state
  rw [amount, defaultTier] at tier state
  have spelled : Spells fields.expenseAmount request.amountScaled.toNat := by
    rw [made.amountScaled, amount, Int.toNat_natCast]
    exact typed.spells
  -- The two bounds of the policy are the two bounds of the banner
  by_cases low : units < 500000
  · have low' : (units : Int) < 500000 := by omega
    rw [if_pos low] at shown
    rw [if_pos low'] at tier state
    exact ⟨spelled, ⟨_, by rw [shown]; rfl, tier⟩, by simp [state, shown], by simp [state, shown]⟩
  have low' : ¬ (units : Int) < 500000 := by omega
  rw [if_neg low] at shown
  rw [if_neg low'] at tier state
  by_cases middle : units < 5000000
  · have middle' : (units : Int) < 5000000 := by omega
    rw [if_pos middle] at shown
    rw [if_pos middle'] at tier state
    exact ⟨spelled, ⟨_, by rw [shown]; rfl, tier⟩, by simp [state, shown], by simp [state, shown]⟩
  · have middle' : ¬ (units : Int) < 5000000 := by omega
    rw [if_neg middle] at shown
    rw [if_neg middle'] at tier state
    exact ⟨spelled, ⟨_, by rw [shown]; rfl, tier⟩, by simp [state, shown], by simp [state, shown]⟩

/-- In every run of the app and the service, with any losses, drafts and repetitions: every request
that the service holds is made of a confirmed form, and is as it was shown by whatever fields with a
typed amount are read into that form.
-/
theorem requests_as_shown (steps : List SystemStep) {key : RequestKey} {request : ApprovalRequest}
    (held
      : (systemMachine.exec (.initial defaultEvaluator) steps).service.requests.get? key
        = some request)
    : ∃ form ∈ confirmedForms steps,
        MadeOf form request
        ∧ ∀ fields units,
            Typed fields units → fields.payload = .ok form → AsShown fields request := by
  obtain ⟨form, confirmed, made⟩ := (exec_carries steps).made key request held
  exact ⟨form, confirmed, made, fun _ _ typed sent => made.asShown typed sent⟩

/-- A taxi of less than fifty dollars, typed without a network. -/
def taxiFields : ExpenseFields := ⟨"acme", "dana", "49.99", "USD", " Taxi ", "Cab Co", false⟩

def typedTaxi : List SystemStep := [
  .goOffline,
  .confirm ⟨"acme", "dana", 499900, "USD", "Taxi", "Cab Co", false⟩,
  .complete 0 "draft_1",
  .goOnline,
  .complete 1 "",
  .deliver 0 (moment 1)
]

theorem taxi_typed : Typed taxiFields 499900 :=
  ⟨⟨by decide +kernel, by decide +kernel, by decide +kernel⟩, by decide, by norm_num⟩

def taxiKey : RequestKey := ("acme", (⟨1⟩ : Uuid).text)

def typedTaxiRequest : Option ApprovalRequest :=
  (systemMachine.exec (.initial defaultEvaluator) typedTaxi).service.requests.get? taxiKey

theorem typedTaxi_held : typedTaxiRequest.isSome = true := by decide +kernel

theorem requests_as_shown_sample : AsShown taxiFields (typedTaxiRequest.get typedTaxi_held) := by
  obtain ⟨form, confirmed, _, shown⟩ :=
    requests_as_shown typedTaxi (Option.some_get typedTaxi_held).symm
  obtain rfl := List.mem_singleton.mp confirmed
  exact shown taxiFields 499900 taxi_typed (by decide +kernel)

end PettyFlow.Frontend
