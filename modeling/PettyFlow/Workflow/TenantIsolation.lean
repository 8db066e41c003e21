import PettyFlow.Foundation.TwoRuns
import PettyFlow.Workflow.CallEffect
import PettyFlow.Workflow.Queries

/-! Tenants share the tables of the workflow service and cannot notice each other: a run is
compared with the same run without the calls of all other tenants.
-/

namespace PettyFlow.Workflow

open Foundation

/-- The calls of tenants: changes and questions. -/
inductive TenantCall where
  | change (call : WorkflowCall)
  | getRequest (tenantId requestId : String)
  | listRequests (tenantId : String) (state : Option ApprovalState) (tier : Option ApprovalTier)
    (custodianId : Option String) (limit offset : Int)
  | getSummaryStats (tenantId : String)

inductive TenantAnswer where
  | changed (outcome : Except WorkflowError WorkflowAnswer)
  | found (outcome : Except WorkflowError (ApprovalRequest × ReceiptMetadata))
  | listed (page : List (ApprovalRequest × ReceiptMetadata))
  | summarised (stats : Option SummaryStats)

def tenantMachine : Machine ApprovalWorkflowService TenantCall TenantAnswer where
  step s call :=
    match call with
    | .change call =>
        let (outcome, next) := serve s call
        (.changed outcome, next)
    | .getRequest tenantId requestId => (.found (s.getRequest tenantId requestId), s)
    | .listRequests tenantId state tier custodianId limit offset =>
        (.listed (s.listRequests tenantId state tier custodianId limit offset), s)
    | .getSummaryStats tenantId => (.summarised (s.getSummaryStats tenantId), s)

/-- The tenant that a call names, as it is passed. -/
def WorkflowCall.tenantId : WorkflowCall → String
  | .submitRequest _ tenantId .. => tenantId
  | .approveRequest _ _ tenantId .. => tenantId
  | .rejectRequest _ _ tenantId .. => tenantId
  | .disburseRequest _ _ tenantId .. => tenantId

def TenantCall.tenantId : TenantCall → String
  | .change call => call.tenantId
  | .getRequest tenantId _ => tenantId
  | .listRequests tenantId .. => tenantId
  | .getSummaryStats tenantId => tenantId

/-- The call is made for a tenant; blanks around the name do not matter. -/
def TenantCall.For (tenant : String) (call : TenantCall) : Prop :=
  strip call.tenantId = strip tenant

instance (tenant : String) (call : TenantCall) : Decidable (call.For tenant) :=
  inferInstanceAs (Decidable (strip call.tenantId = strip tenant))

section Tables

variable {υ : Type} {tenant : String} {first second : Dict RequestKey υ}

/-- The part of a table that is a tenant's. -/
def tenantPart (tenant : String) (table : Dict RequestKey υ) : Dict RequestKey υ :=
  table.filter (fun key _ => decide (key.1 = tenant))

theorem tenantPart_set (table : Dict RequestKey υ) (key : RequestKey) (value : υ)
    : tenantPart tenant (table.set key value)
      = if key.1 = tenant then
          (tenantPart tenant table).set key value
        else
          tenantPart tenant table := by
  simpa only [tenantPart, decide_eq_true_eq]
    using Dict.filter_set table (fun key : RequestKey => decide (key.1 = tenant)) key value

/-- A tenant's part decides the lookups under its keys. -/
theorem get?_of_tenantPart (same : tenantPart tenant first = tenantPart tenant second)
    (requestId : String)
    : first.get? (tenant, requestId) = second.get? (tenant, requestId) := by
  have part (table : Dict RequestKey υ)
      : (tenantPart tenant table).get? (tenant, requestId) = table.get? (tenant, requestId) := by
    rw [tenantPart, Dict.get?_filter]
    cases table.get? (tenant, requestId) <;> simp
  rw [← part first, ← part second, same]

theorem tenantPart_set_both (same : tenantPart tenant first = tenantPart tenant second)
    (key : RequestKey) (value : υ)
    : tenantPart tenant (first.set key value) = tenantPart tenant (second.set key value) := by
  rw [tenantPart_set, tenantPart_set, same]

theorem tenantPart_set_foreign {key : RequestKey} (foreign : key.1 ≠ tenant) (value : υ)
    : tenantPart tenant (first.set key value) = tenantPart tenant first := by
  rw [tenantPart_set, if_neg foreign]

end Tables

/-- Two services are alike for a tenant: the same policy, the same requests in the same order,
and the same receipts.
-/
structure Alike (tenant : String) (s t : ApprovalWorkflowService) : Prop where
  policyEvaluator : s.policyEvaluator = t.policyEvaluator
  requests : tenantPart tenant s.requests = tenantPart tenant t.requests
  metadata : tenantPart tenant s.metadata = tenantPart tenant t.metadata

namespace Alike

variable {tenant : String} {s t : ApprovalWorkflowService}

theorem refl (s : ApprovalWorkflowService) : Alike tenant s s := ⟨rfl, rfl, rfl⟩

theorem trans {u : ApprovalWorkflowService} (first : Alike tenant s t)
    (second : Alike tenant t u)
    : Alike tenant s u :=
  ⟨first.policyEvaluator.trans second.policyEvaluator, first.requests.trans second.requests,
    first.metadata.trans second.metadata⟩

theorem storedRequest (alike : Alike tenant s t) (requestId : String)
    : s.storedRequest tenant requestId = t.storedRequest tenant requestId := by
  unfold ApprovalWorkflowService.storedRequest
  rw [get?_of_tenantPart alike.requests]

theorem touch (alike : Alike tenant s t) (key : RequestKey) (updatedAt : Int)
    (request : ApprovalRequest)
    : (s.touch key updatedAt request).1 = (t.touch key updatedAt request).1
      ∧ Alike tenant (s.touch key updatedAt request).2 (t.touch key updatedAt request).2 :=
  ⟨rfl, alike.policyEvaluator, tenantPart_set_both alike.requests _ _, alike.metadata⟩

theorem getD_metadata (alike : Alike tenant s t) (requestId : String)
    : s.metadata.getD (tenant, requestId) [] = t.metadata.getD (tenant, requestId) [] := by
  unfold Dict.getD
  rw [get?_of_tenantPart alike.metadata]

theorem tenantRequests (alike : Alike tenant s t)
    : s.tenantRequests tenant = t.tenantRequests tenant :=
  congrArg Dict.entries alike.requests

theorem matchingRequests {tenantId : String} (alike : Alike (strip tenantId) s t)
    (state : Option ApprovalState) (tier : Option ApprovalTier) (custodianId : Option String)
    : s.matchingRequests tenantId state tier custodianId
      = t.matchingRequests tenantId state tier custodianId := by
  unfold ApprovalWorkflowService.matchingRequests
  rw [alike.tenantRequests]
  dsimp only
  congr 1
  apply List.map_congr_left
  rintro ⟨⟨owner, requestId⟩, request⟩ member
  -- A listed entry is one of the tenant's, so that its receipts are looked up there
  have owned : owner = strip tenantId := by
    have listed := (List.mem_filter.mp (List.mem_filter.mp member).1).2
    simpa using listed
  subst owned
  rw [alike.getD_metadata]

end Alike

theorem Alike.store {tenant : String} {s t : ApprovalWorkflowService} (alike : Alike tenant s t)
    (request : ApprovalRequest) (receiptMetadata : Option ReceiptMetadata)
    : Alike tenant (s.store request receiptMetadata) (t.store request receiptMetadata) := by
  refine ⟨alike.policyEvaluator, tenantPart_set_both alike.requests _ _, ?_⟩
  rcases receiptMetadata with _ | (_ | ⟨first, rest⟩)
  · exact alike.metadata
  · exact alike.metadata
  · exact tenantPart_set_both alike.metadata _ _

theorem Alike.store_foreign {tenant : String} (s : ApprovalWorkflowService)
    {request : ApprovalRequest} (foreign : request.tenantId ≠ tenant)
    (receiptMetadata : Option ReceiptMetadata)
    : Alike tenant (s.store request receiptMetadata) s := by
  refine ⟨rfl, tenantPart_set_foreign foreign _, ?_⟩
  rcases receiptMetadata with _ | (_ | ⟨first, rest⟩)
  · rfl
  · rfl
  · exact tenantPart_set_foreign foreign _

/-- The checks of a submission read the policy only. -/
theorem submitRequest_both {tenant : String} {s t : ApprovalWorkflowService}
    (alike : Alike tenant s t) (draw : SubmitDraw) (tenantId custodianId : String)
    (amountScaled : NumberArg) (currency description : String)
    (receiptMetadata : Option ReceiptMetadata) (auto : Bool) (initialNotes : Option String)
    : (s.submitRequest draw tenantId custodianId amountScaled currency description
          receiptMetadata auto initialNotes).1
        = (t.submitRequest draw tenantId custodianId amountScaled currency description
            receiptMetadata auto initialNotes).1
      ∧ Alike tenant
          (s.submitRequest draw tenantId custodianId amountScaled currency description
            receiptMetadata auto initialNotes).2
          (t.submitRequest draw tenantId custodianId amountScaled currency description
            receiptMetadata auto initialNotes).2 := by
  obtain ⟨policyEvaluator, requests, metadata⟩ := s
  obtain ⟨other, otherRequests, otherMetadata⟩ := t
  obtain rfl : policyEvaluator = other := alike.policyEvaluator
  refine attempt_both alike ?_
  rintro ⟨request, evaluation⟩ _
  exact ⟨rfl, alike.store request receiptMetadata⟩

/-- Results that agree are answered alike. -/
theorem answered_both {tenant : String} {α : Type} (wrap : α → WorkflowAnswer)
    {result other : Except WorkflowError α × ApprovalWorkflowService} (same : result.1 = other.1)
    (next : Alike tenant result.2 other.2)
    : (answer wrap result).1 = (answer wrap other).1
      ∧ Alike tenant (answer wrap result).2 (answer wrap other).2 :=
  ⟨congrArg (Except.map wrap) same, next⟩

/-- The same action on both services, after checks that agree. -/
theorem action_both {tenant : String} {s t : ApprovalWorkflowService}
    (alike : Alike tenant s t) {checks other : Except WorkflowError ApprovalRequest}
    (agree : checks = other) (key : RequestKey) (updatedAt : Int)
    : (answer .acted (attempt s checks (s.touch key updatedAt))).1
        = (answer .acted (attempt t other (t.touch key updatedAt))).1
      ∧ Alike tenant (answer .acted (attempt s checks (s.touch key updatedAt))).2
          (answer .acted (attempt t other (t.touch key updatedAt))).2 := by
  subst agree
  obtain ⟨same, next⟩ :=
    attempt_both alike (fun request (_ : checks = .ok request) => alike.touch key updatedAt request)
  exact answered_both _ same next

/-- An action under the key of another tenant. -/
theorem action_foreign {tenant : String} (s : ApprovalWorkflowService)
    {checks : Except WorkflowError ApprovalRequest} (key : RequestKey) (updatedAt : Int)
    (foreign : key.1 ≠ tenant)
    : Alike tenant (answer .acted (attempt s checks (s.touch key updatedAt))).2 s := by
  refine attempt_elim (motive := fun r => Alike tenant (answer .acted r).2 s) ?_ ?_
  · exact fun _ _ => .refl s
  · exact fun request _ => ⟨rfl, tenantPart_set_foreign foreign _, rfl⟩

/-- A call of the tenant is answered alike, and the services stay alike. -/
theorem serve_both {tenant : String} {s t : ApprovalWorkflowService} {call : WorkflowCall}
    (alike : Alike tenant s t) (own : strip call.tenantId = tenant)
    : (serve s call).1 = (serve t call).1 ∧ Alike tenant (serve s call).2 (serve t call).2 := by
  subst own
  cases call with
  | submitRequest draw tenantId custodianId amount currency description receipt auto notes =>
      obtain ⟨same, next⟩ :=
        submitRequest_both alike draw tenantId custodianId amount currency description receipt
          auto notes
      exact answered_both _ same next
  | approveRequest draw updatedAt tenantId requestId actorId notes actorRole =>
      change Alike (strip tenantId) s t at alike
      refine action_both alike ?_ (strip tenantId, strip requestId) updatedAt
      rw [alike.storedRequest]
  | rejectRequest draw updatedAt tenantId requestId actorId notes =>
      change Alike (strip tenantId) s t at alike
      refine action_both alike ?_ (strip tenantId, strip requestId) updatedAt
      rw [alike.storedRequest]
  | disburseRequest draw updatedAt tenantId requestId actorId notes =>
      change Alike (strip tenantId) s t at alike
      refine action_both alike ?_ (strip tenantId, strip requestId) updatedAt
      rw [alike.storedRequest]

/-- A submission stores its request for the tenant that it names. -/
theorem submitRequest_tenant {s : ApprovalWorkflowService} {draw : SubmitDraw}
    {tenantId custodianId : String} {amountScaled : NumberArg} {currency description : String}
    {receiptMetadata : Option ReceiptMetadata} {auto : Bool} {initialNotes : Option String}
    {request : ApprovalRequest} {evaluation : PolicyEvaluationResult}
    (ok
      : (s.submitRequest draw tenantId custodianId amountScaled currency description
          receiptMetadata auto initialNotes).1
        = .ok (request, evaluation))
    : request.tenantId = strip tenantId := by
  obtain ⟨draft, submitted, first, owner, _, _, step, _, last⟩ := submitRequest_ok ok
  split at last
  · obtain ⟨second, approved⟩ := last
    rw [approved.result, step.result, ← owner]
  · rw [last, step.result, ← owner]

/-- A call of another tenant leaves the service alike. -/
theorem serve_foreign {tenant : String} {call : WorkflowCall} (s : ApprovalWorkflowService)
    (foreign : strip call.tenantId ≠ tenant)
    : Alike tenant (serve s call).2 s := by
  cases call with
  | submitRequest draw tenantId custodianId amount currency description receipt auto notes =>
      rcases submitRequest_outcome s draw tenantId custodianId amount currency description receipt
        auto notes with ⟨error, raised⟩ | ⟨request, evaluation, stored⟩
      · rw [serve, raised]
        exact .refl s
      · have owner := submitRequest_tenant (congrArg Prod.fst stored)
        rw [serve, stored]
        exact Alike.store_foreign s (owner ▸ foreign) receipt
  | approveRequest draw updatedAt tenantId requestId actorId notes actorRole =>
      exact action_foreign s (strip tenantId, strip requestId) updatedAt foreign
  | rejectRequest draw updatedAt tenantId requestId actorId notes =>
      exact action_foreign s (strip tenantId, strip requestId) updatedAt foreign
  | disburseRequest draw updatedAt tenantId requestId actorId notes =>
      exact action_foreign s (strip tenantId, strip requestId) updatedAt foreign

/-- The runs with and without the calls of other tenants. -/
abbrev tenantRuns (tenant : String) :=
  tenantMachine.twoRuns (TenantCall.For tenant) (fun (_ : Unit) _ _ => ())

/-- A call of the tenant is answered alike. -/
theorem answer_both {tenant : String} {s t : ApprovalWorkflowService} {call : TenantCall}
    (alike : Alike (strip tenant) s t) (own : call.For tenant)
    : (tenantMachine.step s call).1 = (tenantMachine.step t call).1
      ∧ Alike (strip tenant) (tenantMachine.step s call).2 (tenantMachine.step t call).2 := by
  cases call with
  | change call =>
      obtain ⟨same, next⟩ := serve_both alike own
      exact ⟨congrArg TenantAnswer.changed same, next⟩
  | getRequest tenantId requestId =>
      change strip tenantId = strip tenant at own
      refine ⟨congrArg TenantAnswer.found ?_, alike⟩
      unfold ApprovalWorkflowService.getRequest
      rw [own, alike.storedRequest, alike.getD_metadata]
  | listRequests tenantId state tier custodianId limit offset =>
      change strip tenantId = strip tenant at own
      refine ⟨congrArg TenantAnswer.listed ?_, alike⟩
      unfold ApprovalWorkflowService.listRequests
      rw [(own.symm ▸ alike : Alike (strip tenantId) s t).matchingRequests]
  | getSummaryStats tenantId =>
      change strip tenantId = strip tenant at own
      refine ⟨congrArg TenantAnswer.summarised ?_, alike⟩
      unfold ApprovalWorkflowService.getSummaryStats
      rw [own, alike.tenantRequests]

theorem step_foreign {tenant : String} (s : ApprovalWorkflowService) {call : TenantCall}
    (foreign : ¬ call.For tenant)
    : Alike (strip tenant) (tenantMachine.step s call).2 s := by
  cases call with
  | change call => exact serve_foreign s foreign
  | getRequest tenantId requestId => exact .refl s
  | listRequests tenantId state tier custodianId limit offset => exact .refl s
  | getSummaryStats tenantId => exact .refl s

/-- On every run, without the calls of all other tenants the calls of a tenant get the answers
that they get with them; and no call of another tenant changes a request of the tenant or its
receipt.
-/
theorem workflow_tenants_isolated (tenant : String) (s : ApprovalWorkflowService)
    (calls : List TenantCall)
    : tenantMachine.ownOutputs (TenantCall.For tenant) s calls
        = tenantMachine.ownOutputs (TenantCall.For tenant) s
            (calls.filter (TenantCall.For tenant))
      ∧ ∀ state call requestId,
          ¬ call.For tenant
          → (tenantMachine.step state call).2.requests.get? (strip tenant, requestId)
              = state.requests.get? (strip tenant, requestId)
            ∧ (tenantMachine.step state call).2.metadata.get? (strip tenant, requestId)
              = state.metadata.get? (strip tenant, requestId) := by
  constructor
  · have always : (tenantRuns tenant).Admits (fun _ _ => True) ⟨s, s, ()⟩ calls :=
      ((tenantRuns tenant).admits_iff_history _ _).mpr (fun _ _ => trivial)
    refine Machine.ownOutputs_eq_of_admits
      (fun runs call (alike : Alike (strip tenant) runs.mixed runs.alone) foreign => ?_)
      (fun runs call (alike : Alike (strip tenant) runs.mixed runs.alone) own _ => ?_)
      (Alike.refl s) always
    · rw [Machine.twoRuns_foreign foreign]
      exact (step_foreign runs.mixed foreign).trans alike
    · rw [Machine.twoRuns_own own]
      exact answer_both alike own
  · intro state call requestId foreign
    have alike := step_foreign state foreign
    exact ⟨get?_of_tenantPart alike.requests requestId,
      get?_of_tenantPart alike.metadata requestId⟩

section Sample

/-- Another tenant's approval of a request, by its identifier. -/
def foreignApproval : TenantCall :=
  .change (.approveRequest ⟨⟨8⟩, 10, 11⟩ 12 "globex" (⟨7⟩ : Uuid).text "eve" (some "Mine") none)

/-- A submission, another tenant's approval of it, and the tenant's own questions. -/
def sampleTenantCalls : List TenantCall :=
  let moment : TransitionDraw := ⟨⟨9⟩, 10, 11⟩
  [
    .change (.submitRequest ⟨⟨7⟩, 1, 2, moment, moment⟩ "acme" "dana" (.int 600000) "usd"
      "Chairs" none true none),
    foreignApproval, .getRequest " acme" (⟨7⟩ : Uuid).text,
    .listRequests "acme" (some .pending) none none 100 0, .getSummaryStats "acme"
  ]

theorem workflow_tenants_isolated_sample
    : tenantMachine.ownOutputs (TenantCall.For "acme") (.initial ⟨defaultPettyflowPolicy⟩)
          sampleTenantCalls
        = tenantMachine.ownOutputs (TenantCall.For "acme") (.initial ⟨defaultPettyflowPolicy⟩)
            (sampleTenantCalls.filter (TenantCall.For "acme"))
      ∧ (tenantMachine.step (.initial ⟨defaultPettyflowPolicy⟩) foreignApproval).2.requests.get?
            ("acme", (⟨7⟩ : Uuid).text)
        = none := by
  obtain ⟨same, kept⟩ :=
    workflow_tenants_isolated "acme" (.initial ⟨defaultPettyflowPolicy⟩) sampleTenantCalls
  exact ⟨same, (kept _ foreignApproval _ (by decide)).1⟩

end Sample

end PettyFlow.Workflow
