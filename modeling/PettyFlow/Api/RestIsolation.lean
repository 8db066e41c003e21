import PettyFlow.Api.ClosingRecords
import PettyFlow.Api.EndpointErrors
import PettyFlow.Api.Statements
import PettyFlow.Funds.FundIsolation
import PettyFlow.Workflow.TenantIsolation

/-! The application behind all of its routers, and what its tenants can notice of each other: a run
is compared with the same run without the calls of all other tenants.
-/

namespace PettyFlow.Api

open Foundation Ledger PettyFlow.Reconciliation PettyFlow.Analytics PettyFlow.Workflow
open PettyFlow.Funds (FundError FundService SameFunds)

/-! ### The application -/

/-- Everything that the routers of an application keep. -/
structure RestApi where
  services : Services
  closings : ReconciliationRouter
  reports : ReportsRouter

inductive RestCall where
  | endpoint (call : EndpointCall)
  | listApprovals (tenantId : String) (state tier custodianId : Option String) (limit : PageLimit)
    (offset : Nat)
  | getSummary (tenantId : String)
  | getApprovalDetails (requestId tenantId : String)
  | closing (call : ClosingCall)
  | report (call : ReportsCall)

inductive RestAnswer (π : Type) where
  | endpoint (response : Except (EndpointError EndpointEscape) EndpointResponse)
  | approvals (page : Except (EndpointError ApprovalEscape) ApprovalQueueResponse)
  | summary (stats : Except (EndpointError ApprovalEscape) SummaryStats)
  | details (response : Except (EndpointError ApprovalEscape) ApprovalRequestResponse)
  | closing (response : Except (EndpointError LedgerError) ClosingAnswer)
  | report (response : Except ReportsError (ReportsAnswer π))

section Application

variable {π : Type} (m : ReconciliationMatcher) (a : VarianceAnalyzer)
  (runtime : ReportsRuntime π)

def restMachine : Machine RestApi RestCall (RestAnswer π) where
  step s call :=
    match call with
    | .endpoint call =>
        let (outcome, services) := respond s.services call
        (.endpoint outcome, { s with services })
    | .listApprovals tenantId state tier custodianId limit offset =>
        (.approvals
            (ApprovalRouter.listApprovals s.services.workflow tenantId state tier custodianId limit
              offset),
          s)
    | .getSummary tenantId =>
        (.summary (ApprovalRouter.getSummary s.services.workflow tenantId), s)
    | .getApprovalDetails requestId tenantId =>
        (.details (ApprovalRouter.getApprovalDetails s.services.workflow requestId tenantId), s)
    | .closing call =>
        let (outcome, closings) := (closingMachine m a).step s.closings call
        (.closing outcome, { s with closings })
    | .report call =>
        let (outcome, reports) := (reportsMachine runtime).step s.reports call
        (.report outcome, { s with reports })

end Application

/-! ### Tenants -/

/-- A tenant goes by an identifier with its funds, and by a name everywhere else. -/
structure Tenant where
  id : Uuid
  name : String

/-- The key of a fund is one of the tenant's. -/
def Tenant.Owns (tenant : Tenant) (key : Uuid × Uuid) : Prop := key.1 = tenant.id

/-- The call is made for a tenant. Blanks around the name do not matter to the approvals. -/
def EndpointCall.For (tenant : Tenant) : EndpointCall → Prop
  | .createFund _ request => request.tenantId = tenant.id
  | .allocateFloat _ request => request.tenantId = tenant.id
  | .issueDisbursement _ request => request.tenantId = tenant.id
  | .getCustodianBalance _ _ tenantId => tenantId = tenant.id
  | .submitRequest _ body => strip body.tenantId = strip tenant.name
  | .approveRequest _ _ _ action => strip action.tenantId = strip tenant.name
  | .rejectRequest _ _ _ action => strip action.tenantId = strip tenant.name
  | .disburseRequest _ _ _ action => strip action.tenantId = strip tenant.name

def ReportsCall.For (tenant : String) : ReportsCall → Prop
  | .addSpendRecord record _ => record.get? "tenant_id" >>= Json.str? = some tenant
  | .getSpendSummary tenantId => tenantId = tenant
  | .exportCsvStatement tenantId _ => tenantId = tenant
  | .exportPdfStatement tenantId _ _ => tenantId = tenant

def RestCall.For (tenant : Tenant) : RestCall → Prop
  | .endpoint call => call.For tenant
  | .listApprovals tenantId .. => strip tenantId = strip tenant.name
  | .getSummary tenantId => strip tenantId = strip tenant.name
  | .getApprovalDetails _ tenantId => strip tenantId = strip tenant.name
  | .closing call => call.For tenant.name
  | .report call => call.For tenant.name

instance (tenant : Tenant) : (call : EndpointCall) → Decidable (call.For tenant)
  | .createFund _ request => inferInstanceAs (Decidable (request.tenantId = tenant.id))
  | .allocateFloat _ request => inferInstanceAs (Decidable (request.tenantId = tenant.id))
  | .issueDisbursement _ request => inferInstanceAs (Decidable (request.tenantId = tenant.id))
  | .getCustodianBalance _ _ tenantId => inferInstanceAs (Decidable (tenantId = tenant.id))
  | .submitRequest _ body => inferInstanceAs (Decidable (strip body.tenantId = strip tenant.name))
  | .approveRequest _ _ _ action =>
      inferInstanceAs (Decidable (strip action.tenantId = strip tenant.name))
  | .rejectRequest _ _ _ action =>
      inferInstanceAs (Decidable (strip action.tenantId = strip tenant.name))
  | .disburseRequest _ _ _ action =>
      inferInstanceAs (Decidable (strip action.tenantId = strip tenant.name))

instance (tenant : String) : (call : ReportsCall) → Decidable (call.For tenant)
  | .addSpendRecord record _ =>
      inferInstanceAs (Decidable (record.get? "tenant_id" >>= Json.str? = some tenant))
  | .getSpendSummary tenantId => inferInstanceAs (Decidable (tenantId = tenant))
  | .exportCsvStatement tenantId _ => inferInstanceAs (Decidable (tenantId = tenant))
  | .exportPdfStatement tenantId _ _ => inferInstanceAs (Decidable (tenantId = tenant))

instance (tenant : Tenant) : (call : RestCall) → Decidable (call.For tenant)
  | .endpoint call => inferInstanceAs (Decidable (call.For tenant))
  | .listApprovals tenantId .. =>
      inferInstanceAs (Decidable (strip tenantId = strip tenant.name))
  | .getSummary tenantId => inferInstanceAs (Decidable (strip tenantId = strip tenant.name))
  | .getApprovalDetails _ tenantId =>
      inferInstanceAs (Decidable (strip tenantId = strip tenant.name))
  | .closing call => inferInstanceAs (Decidable (call.For tenant.name))
  | .report call => inferInstanceAs (Decidable (call.For tenant.name))

/-! ### Funds and approvals -/

/-- Two pairs of services with the same part of a tenant. -/
structure SameServices (tenant : Tenant) (s t : Services) : Prop where
  funds : SameFunds tenant.Owns s.funds t.funds
  workflow : Alike (strip tenant.name) s.workflow t.workflow

section Approvals

variable {s t : ApprovalWorkflowService} {tenantId : String}

theorem getRequest_both (alike : Alike (strip tenantId) s t) (requestId : String)
    : s.getRequest tenantId requestId = t.getRequest tenantId requestId := by
  unfold ApprovalWorkflowService.getRequest
  rw [alike.storedRequest, alike.getD_metadata]

theorem actionResponse_snd (handlers : WorkflowError → EndpointError ApprovalEscape)
    (tenantId requestId : String)
    (result : Except WorkflowError ApprovalRequest × ApprovalWorkflowService)
    : (actionResponse handlers tenantId requestId result).2 = result.2 := by
  unfold actionResponse
  split
  · rfl
  · split
    · rfl
    · split <;> rfl

/-- An action that ends alike is answered alike, for which its request is read once more. -/
theorem actionResponse_both (handlers : WorkflowError → EndpointError ApprovalEscape)
    (requestId : String)
    {result other : Except WorkflowError ApprovalRequest × ApprovalWorkflowService}
    (same : result.1 = other.1) (next : Alike (strip tenantId) result.2 other.2)
    : (actionResponse handlers tenantId requestId result).1
        = (actionResponse handlers tenantId requestId other).1
      ∧ Alike (strip tenantId) (actionResponse handlers tenantId requestId result).2
          (actionResponse handlers tenantId requestId other).2 := by
  refine ⟨?_, ?_⟩
  · unfold actionResponse
    rw [same, getRequest_both next]
    cases other.1 with
    | error error => rfl
    | ok request =>
        cases other.2.getRequest tenantId requestId with
        | error error => rfl
        | ok found => cases shown : toResponseDto request found.2 <;> simp only [shown]
  · rw [actionResponse_snd, actionResponse_snd]
    exact next

/-- An action of the tenant ends alike. -/
theorem acted_both (alike : Alike (strip tenantId) s t) (call : WorkflowCall)
    (mine : strip call.tenantId = strip tenantId)
    {result other : Except WorkflowError ApprovalRequest × ApprovalWorkflowService}
    (served : serve s call = answer .acted result) (served' : serve t call = answer .acted other)
    : result.1 = other.1 ∧ Alike (strip tenantId) result.2 other.2 := by
  obtain ⟨same, next⟩ := serve_both alike mine
  rw [served, served'] at same next
  refine ⟨?_, next⟩
  obtain ⟨first, _⟩ := result
  obtain ⟨second, _⟩ := other
  cases first <;> cases second <;> simp_all [answer, Except.map]

theorem submitRequest_snd (draw : SubmitDraw) (body : SubmitApprovalRequest)
    : (ApprovalRouter.submitRequest s draw body).2 = (submission s draw body).2 := by
  unfold ApprovalRouter.submitRequest
  dsimp only
  split
  · rfl
  · split <;> rfl

theorem submission_both {tenant : String} (alike : Alike tenant s t) (draw : SubmitDraw)
    (body : SubmitApprovalRequest)
    : (ApprovalRouter.submitRequest s draw body).1 = (ApprovalRouter.submitRequest t draw body).1
      ∧ Alike tenant (ApprovalRouter.submitRequest s draw body).2
          (ApprovalRouter.submitRequest t draw body).2 := by
  obtain ⟨same, next⟩ :=
    submitRequest_both alike draw body.tenantId body.custodianId (.int body.amountScaled)
      body.currency.text body.description body.receiptMetadata body.autoApproveIfEligible body.notes
  refine ⟨?_, ?_⟩
  · unfold ApprovalRouter.submitRequest
    dsimp only
    rw [same]
    split
    · rfl
    · split <;> rfl
  · rw [submitRequest_snd, submitRequest_snd]
    exact next

end Approvals

section Services

variable {tenant : Tenant} {s t : Services}

theorem lift_both {ε ρ σ : Type} (escape : ε → EndpointEscape) (wrap : ρ → EndpointResponse)
    (put put' : σ → Services) {answer other : Answer ε ρ σ} (same : answer.1 = other.1)
    : (lift escape wrap put answer).1 = (lift escape wrap put' other).1 := by
  unfold lift
  rw [same]

/-- A call on the funds is answered alike. -/
theorem SameServices.funds_both {ρ : Type} (both : SameServices tenant s t)
    (wrap : ρ → EndpointResponse) {answer other : Answer FundError ρ FundService}
    (same : answer.1 = other.1)
    (next : SameFunds tenant.Owns answer.2 other.2)
    : (lift .float wrap (fun funds => { s with funds }) answer).1
        = (lift .float wrap (fun funds => { t with funds }) other).1
      ∧ SameServices tenant (lift .float wrap (fun funds => { s with funds }) answer).2
          (lift .float wrap (fun funds => { t with funds }) other).2 :=
  ⟨lift_both _ _ _ _ same, next, both.workflow⟩

/-- A call on the approvals is answered alike. -/
theorem SameServices.workflow_both {ρ : Type} (both : SameServices tenant s t)
    (wrap : ρ → EndpointResponse) {answer other : Answer ApprovalEscape ρ ApprovalWorkflowService}
    (alike : answer.1 = other.1 ∧ Alike (strip tenant.name) answer.2 other.2)
    : (lift .approval wrap (fun workflow => { s with workflow }) answer).1
        = (lift .approval wrap (fun workflow => { t with workflow }) other).1
      ∧ SameServices tenant (lift .approval wrap (fun workflow => { s with workflow }) answer).2
          (lift .approval wrap (fun workflow => { t with workflow }) other).2 :=
  ⟨lift_both _ _ _ _ alike.1, both.funds, alike.2⟩

/-- A call of the tenant is answered alike. -/
theorem SameServices.respond_both (both : SameServices tenant s t) {call : EndpointCall}
    (mine : call.For tenant)
    : (respond s call).1 = (respond t call).1
      ∧ SameServices tenant (respond s call).2 (respond t call).2 := by
  cases call with
  | createFund drawn request =>
      obtain ⟨same, next⟩ :=
        both.funds.createFund_both drawn request.tenantId request.name request.currency.text
          request.custodianId (.int request.initialAmountScaled)
      refine both.funds_both .fund ?_ next
      unfold FloatRouter.createFund
      dsimp only
      rw [same]
  | allocateFloat fundId request =>
      have owned : tenant.Owns (request.tenantId, fundId) := mine
      obtain ⟨same, next⟩ :=
        both.funds.allocateFloat_both owned request.custodianId (.int request.amountScaled)
      refine both.funds_both .balance ?_ next
      unfold FloatRouter.allocateFloat balanceResponse
      rw [same]
  | issueDisbursement fundId request =>
      have owned : tenant.Owns (request.tenantId, fundId) := mine
      obtain ⟨same, next⟩ :=
        both.funds.issueDisbursement_both owned request.custodianId (.int request.amountScaled)
      refine both.funds_both .balance ?_ next
      unfold FloatRouter.issueDisbursement balanceResponse
      rw [same]
  | getCustodianBalance fundId custodianId tenantId =>
      have owned : tenant.Owns (tenantId, fundId) := mine
      obtain ⟨same, next⟩ := both.funds.getCustodianBalance_both owned custodianId
      refine both.funds_both .balance ?_ next
      unfold FloatRouter.getCustodianBalance
      dsimp only
      rw [same]
  | submitRequest draw body =>
      exact both.workflow_both .submitted (submission_both both.workflow draw body)
  | approveRequest draw updatedAt requestId action =>
      have same : strip action.tenantId = strip tenant.name := mine
      have alike : Alike (strip action.tenantId) s.workflow t.workflow := same ▸ both.workflow
      obtain ⟨result, next⟩ :=
        acted_both alike
          (.approveRequest draw updatedAt action.tenantId requestId action.actorId
            (some action.notes) action.actorRole)
          rfl rfl rfl
      refine both.workflow_both .request ?_
      rw [← same]
      exact actionResponse_both approveErrors requestId result next
  | rejectRequest draw updatedAt requestId action =>
      have same : strip action.tenantId = strip tenant.name := mine
      have alike : Alike (strip action.tenantId) s.workflow t.workflow := same ▸ both.workflow
      obtain ⟨result, next⟩ :=
        acted_both alike
          (.rejectRequest draw updatedAt action.tenantId requestId action.actorId
            (some action.notes))
          rfl rfl rfl
      refine both.workflow_both .request ?_
      rw [← same]
      exact actionResponse_both rejectErrors requestId result next
  | disburseRequest draw updatedAt requestId action =>
      have same : strip action.tenantId = strip tenant.name := mine
      have alike : Alike (strip action.tenantId) s.workflow t.workflow := same ▸ both.workflow
      obtain ⟨result, next⟩ :=
        acted_both alike
          (.disburseRequest draw updatedAt action.tenantId requestId action.actorId action.notes)
          rfl rfl rfl
      refine both.workflow_both .request ?_
      rw [← same]
      exact actionResponse_both disburseErrors requestId result next

/-- A call of another tenant does not matter. -/
theorem SameServices.respond_foreign (both : SameServices tenant s t) {call : EndpointCall}
    (foreign : ¬ call.For tenant)
    : SameServices tenant (respond s call).2 t := by
  have acted {handlers : WorkflowError → EndpointError ApprovalEscape} {tenantId : String}
      (requestId : String) (call : WorkflowCall)
      {result : Except WorkflowError ApprovalRequest × ApprovalWorkflowService}
      (served : serve s.workflow call = answer .acted result)
      (other : strip call.tenantId ≠ strip tenant.name)
      : Alike (strip tenant.name) (actionResponse handlers tenantId requestId result).2
          t.workflow := by
    have left := serve_foreign s.workflow other
    rw [served] at left
    rw [actionResponse_snd]
    exact left.trans both.workflow
  cases call with
  | createFund drawn request =>
      have other : ¬ tenant.Owns (request.tenantId, drawn) := foreign
      exact ⟨(SameFunds.createFund_foreign s.funds other ..).trans both.funds, both.workflow⟩
  | allocateFloat fundId request =>
      have other : ¬ tenant.Owns (request.tenantId, fundId) := foreign
      exact ⟨(SameFunds.allocateFloat_foreign s.funds other ..).trans both.funds, both.workflow⟩
  | issueDisbursement fundId request =>
      have other : ¬ tenant.Owns (request.tenantId, fundId) := foreign
      exact ⟨(SameFunds.issueDisbursement_foreign s.funds other ..).trans both.funds,
        both.workflow⟩
  | getCustodianBalance fundId custodianId tenantId =>
      exact ⟨(SameFunds.getCustodianBalance_foreign s.funds ..).trans both.funds, both.workflow⟩
  | submitRequest draw body =>
      refine ⟨both.funds, ?_⟩
      have left :=
        @serve_foreign (strip tenant.name)
          (.submitRequest draw body.tenantId body.custodianId (.int body.amountScaled)
            body.currency.text body.description body.receiptMetadata body.autoApproveIfEligible
            body.notes)
          s.workflow foreign
      change Alike _ (ApprovalRouter.submitRequest s.workflow draw body).2 _
      rw [submitRequest_snd]
      exact left.trans both.workflow
  | approveRequest draw updatedAt requestId action =>
      refine ⟨both.funds, ?_⟩
      exact
        acted requestId
          (.approveRequest draw updatedAt action.tenantId requestId action.actorId
            (some action.notes) action.actorRole)
          rfl foreign
  | rejectRequest draw updatedAt requestId action =>
      refine ⟨both.funds, ?_⟩
      exact
        acted requestId
          (.rejectRequest draw updatedAt action.tenantId requestId action.actorId
            (some action.notes))
          rfl foreign
  | disburseRequest draw updatedAt requestId action =>
      refine ⟨both.funds, ?_⟩
      exact
        acted requestId
          (.disburseRequest draw updatedAt action.tenantId requestId action.actorId action.notes)
          rfl foreign

end Services

section Pages

variable {s t : ApprovalWorkflowService} {tenantId : String}

theorem listApprovals_both (alike : Alike (strip tenantId) s t)
    (state tier custodianId : Option String) (limit : PageLimit) (offset : Nat)
    : ApprovalRouter.listApprovals s tenantId state tier custodianId limit offset
      = ApprovalRouter.listApprovals t tenantId state tier custodianId limit offset := by
  unfold ApprovalRouter.listApprovals ApprovalWorkflowService.listRequests
  simp only [alike.matchingRequests]

theorem getSummary_both (alike : Alike (strip tenantId) s t)
    : ApprovalRouter.getSummary s tenantId = ApprovalRouter.getSummary t tenantId := by
  unfold ApprovalRouter.getSummary ApprovalWorkflowService.getSummaryStats
  rw [alike.tenantRequests]

theorem getApprovalDetails_both (alike : Alike (strip tenantId) s t) (requestId : String)
    : ApprovalRouter.getApprovalDetails s requestId tenantId
      = ApprovalRouter.getApprovalDetails t requestId tenantId := by
  unfold ApprovalRouter.getApprovalDetails
  rw [getRequest_both alike]

end Pages

/-! ### Reports -/

section Reports

variable {π : Type} {runtime : ReportsRuntime π} {tenant : String}

/-- A call adds to the records of a tenant those that it adds for the tenant. -/
theorem step_tenantRecs (s : ReportsRouter) (call : ReportsCall)
    : ((reportsMachine runtime).step s call).2.tenantRecs tenant
      = s.tenantRecs tenant ++ (addedRecords [call]).filter (·.IsOf tenant) := by
  rw [ReportsRouter.tenantRecs, ReportsRouter.tenantRecs, ← List.filter_append]
  exact congrArg (List.filter _) (exec_records runtime s [call])

/-- A call of another tenant adds none for the tenant. -/
theorem addedRecords_foreign {call : ReportsCall} (foreign : ¬ call.For tenant)
    : (addedRecords [call]).filter (·.IsOf tenant) = [] := by
  refine List.filter_eq_nil_iff.mpr (fun r member => ?_)
  rw [decide_eq_true_eq]
  cases call with
  | addSpendRecord record now =>
      have made : (ReceivedRecord.ofBody record now).toOption = some r := by
        cases checked : (ReceivedRecord.ofBody record now).toOption <;> simp_all [addedRecords]
      obtain ⟨_, _, made⟩ := bind_ok (ok_of_toOption made)
      obtain ⟨owner, named, made⟩ := bind_ok made
      obtain ⟨_, _, made⟩ := bind_ok made
      obtain ⟨_, _, made⟩ := bind_ok made
      obtain ⟨_, _, made⟩ := bind_ok made
      obtain ⟨_, _, made⟩ := bind_ok made
      cases made
      intro same
      refine foreign ?_
      show record.get? "tenant_id" >>= Json.str? = some tenant
      rw [orRaise_ok named]
      exact same
  | getSpendSummary tenantId => cases member
  | exportCsvStatement tenantId today => cases member
  | exportPdfStatement tenantId today named => cases member

/-- A call of the tenant is answered from the tenant's records. -/
theorem reports_both {s t : ReportsRouter} (same : s.tenantRecs tenant = t.tenantRecs tenant)
    {call : ReportsCall} (mine : call.For tenant)
    : ((reportsMachine runtime).step s call).1 = ((reportsMachine runtime).step t call).1 := by
  have summed : s.getSpendSummary runtime tenant = t.getSpendSummary runtime tenant := by
    rw [ReportsRouter.getSpendSummary, ReportsRouter.getSpendSummary, same]
  cases call with
  | addSpendRecord record now =>
      have both : (s.addSpendRecord record now).1 = (t.addSpendRecord record now).1 := by
        unfold ReportsRouter.addSpendRecord
        cases ReceivedRecord.ofBody record now <;> rfl
      exact congrArg (Except.map ReportsAnswer.added) both
  | getSpendSummary tenantId =>
      obtain rfl : tenantId = tenant := mine
      exact congrArg (Except.map ReportsAnswer.summary) summed
  | exportCsvStatement tenantId today =>
      obtain rfl : tenantId = tenant := mine
      refine congrArg (Except.map ReportsAnswer.statement) ?_
      rw [ReportsRouter.exportCsvStatement, ReportsRouter.exportCsvStatement, same]
  | exportPdfStatement tenantId today named =>
      obtain rfl : tenantId = tenant := mine
      refine congrArg (Except.map ReportsAnswer.document) ?_
      rw [ReportsRouter.exportPdfStatement, ReportsRouter.exportPdfStatement, summed, same]

end Reports

/-! ### Runs -/

/-- The calls of a run that go to the router of closings. -/
def closingCalls (calls : List RestCall) : List ClosingCall :=
  calls.filterMap (fun
    | .closing call => some call
    | _ => none)

/-- Two applications, the second with the part of a tenant in the first. -/
structure TenantPart (tenant : Tenant) (s t : RestApi) : Prop where
  services : SameServices tenant s.services t.services
  closings : OwnPart tenant.name s.closings t.closings
  reports : s.reports.tenantRecs tenant.name = t.reports.tenantRecs tenant.name

section Runs

variable {π : Type} {m : ReconciliationMatcher} {a : VarianceAnalyzer}
  {runtime : ReportsRuntime π} {tenant : Tenant} {s t : RestApi}

theorem exec_closings (s : RestApi) (calls : List RestCall)
    : ((restMachine m a runtime).exec s calls).closings
      = (closingMachine m a).exec s.closings (closingCalls calls) := by
  induction calls generalizing s with
  | nil => rfl
  | cons call rest ih =>
      rw [Machine.exec, ih]
      cases call <;> rfl

/-- The closing that a call makes is not filed yet. -/
def UnfiledCall (m : ReconciliationMatcher) (a : VarianceAnalyzer) (s : RestApi) (call : RestCall)
    : Prop :=
  ∀ made, call = .closing made → Unfiled m a s.closings made

/-- A sign-off of the tenant names no closing of another one. -/
def NamesOwnClosing (tenant : Tenant) (s : RestApi) (call : RestCall) : Prop :=
  ∀ made, call = .closing made → NamesOwn tenant.name s.closings made

/-- A call of another tenant does not matter. -/
theorem TenantPart.step_foreign (part : TenantPart tenant s t) {call : RestCall}
    (foreign : ¬ call.For tenant) (unfiled : UnfiledCall m a s call)
    : TenantPart tenant ((restMachine m a runtime).step s call).2 t := by
  cases call with
  | endpoint call =>
      exact ⟨part.services.respond_foreign foreign, part.closings, part.reports⟩
  | listApprovals tenantId state tier custodianId limit offset => exact part
  | getSummary tenantId => exact part
  | getApprovalDetails requestId tenantId => exact part
  | closing call =>
      exact ⟨part.services, part.closings.step_foreign foreign (unfiled call rfl), part.reports⟩
  | report call =>
      refine ⟨part.services, part.closings, ?_⟩
      change ((reportsMachine runtime).step s.reports call).2.tenantRecs tenant.name = _
      rw [step_tenantRecs, addedRecords_foreign foreign, List.append_nil, part.reports]

/-- A call of the tenant is answered alike exactly if it names no closing of another tenant. -/
theorem TenantPart.step_own (part : TenantPart tenant s t) {call : RestCall}
    (mine : call.For tenant) (unfiled : UnfiledCall m a s call)
    : (((restMachine m a runtime).step s call).1 = ((restMachine m a runtime).step t call).1
        ↔ NamesOwnClosing tenant s call)
      ∧ (NamesOwnClosing tenant s call
        → TenantPart tenant ((restMachine m a runtime).step s call).2
            ((restMachine m a runtime).step t call).2) := by
  have elsewhere (other : ∀ made, call ≠ .closing made) : NamesOwnClosing tenant s call :=
    fun made same => absurd same (other made)
  cases call with
  | endpoint call =>
      obtain ⟨same, next⟩ := part.services.respond_both mine
      exact ⟨iff_of_true (congrArg RestAnswer.endpoint same) (elsewhere (by simp)),
        fun _ => ⟨next, part.closings, part.reports⟩⟩
  | listApprovals tenantId state tier custodianId limit offset =>
      have same : strip tenantId = strip tenant.name := mine
      have alike : Alike (strip tenantId) s.services.workflow t.services.workflow :=
        same ▸ part.services.workflow
      refine ⟨iff_of_true (congrArg RestAnswer.approvals ?_) (elsewhere (by simp)), fun _ => part⟩
      exact listApprovals_both alike state tier custodianId limit offset
  | getSummary tenantId =>
      have same : strip tenantId = strip tenant.name := mine
      have alike : Alike (strip tenantId) s.services.workflow t.services.workflow :=
        same ▸ part.services.workflow
      exact ⟨iff_of_true (congrArg RestAnswer.summary (getSummary_both alike))
        (elsewhere (by simp)), fun _ => part⟩
  | getApprovalDetails requestId tenantId =>
      have same : strip tenantId = strip tenant.name := mine
      have alike : Alike (strip tenantId) s.services.workflow t.services.workflow :=
        same ▸ part.services.workflow
      exact ⟨iff_of_true (congrArg RestAnswer.details (getApprovalDetails_both alike requestId))
        (elsewhere (by simp)), fun _ => part⟩
  | closing call =>
      obtain ⟨same, next⟩ := part.closings.step_own mine (unfiled call rfl)
      have names
          : NamesOwnClosing tenant s (.closing call) ↔ NamesOwn tenant.name s.closings call := by
        constructor
        · exact fun names => names call rfl
        · rintro names made ⟨⟩
          exact names
      rw [names, ← same]
      exact ⟨RestAnswer.closing.injEq .. ▸ Iff.rfl,
        fun equal => ⟨part.services, next (same.mp equal), part.reports⟩⟩
  | report call =>
      refine ⟨iff_of_true (congrArg RestAnswer.report (reports_both part.reports mine))
        (elsewhere (by simp)), fun _ => ⟨part.services, part.closings, ?_⟩⟩
      change ((reportsMachine runtime).step s.reports call).2.tenantRecs tenant.name
        = ((reportsMachine runtime).step t.reports call).2.tenantRecs tenant.name
      rw [step_tenantRecs, step_tenantRecs, part.reports]

/-- Where closings draw different identifiers, the calls of a tenant on all routers of an
application get the answers that they get without the calls of all other tenants, exactly if none of
its sign-offs names a closing that another tenant has made before.
-/
theorem rest_tenants_isolated_iff (tenant : Tenant) (services : Services) (reports : ReportsRouter)
    (calls : List RestCall)
    (different : ((closedIn m a (closingCalls calls)).map ClosingResponse.id).Nodup)
    : (restMachine m a runtime).ownOutputs (RestCall.For tenant) ⟨services, .new, reports⟩ calls
        = (restMachine m a runtime).ownOutputs (RestCall.For tenant) ⟨services, .new, reports⟩
            (calls.filter (RestCall.For tenant))
      ↔ ∀ before now request after,
          calls = before ++ .closing (.signOff now request) :: after
          → request.tenantId = tenant.name
          → ∀ r ∈ closedIn m a (closingCalls before),
              r.id = request.reconciliationId → r.tenantId = tenant.name := by
  have parts {before after : List RestCall} {call : ClosingCall}
      (split : calls = before ++ .closing call :: after)
      : closingCalls calls = closingCalls before ++ call :: closingCalls after := by
    rw [split, closingCalls, List.filterMap_append]
    rfl
  have all
      : ((restMachine m a runtime).twoRuns (RestCall.For tenant)
          (fun (_ : Unit) _ _ => ())).Admits (fun runs call => UnfiledCall m a runs.mixed call)
          ⟨⟨services, .new, reports⟩, ⟨services, .new, reports⟩, ()⟩ calls := by
    rw [Machine.admits_mixed_iff, Machine.admits_iff_splits]
    rintro before _ after split made rfl
    rw [exec_closings]
    exact unfiled_of_nodup different (parts split)
  have start
      : TenantPart tenant ⟨services, .new, reports⟩ ⟨services, .new, reports⟩ :=
    ⟨⟨.refl _, .refl _⟩, ⟨rfl, fun _ _ => rfl⟩, rfl⟩
  have isolated := @Machine.ownOutputs_eq_iff_of_admits _ _ _ _ (restMachine m a runtime)
    (RestCall.For tenant) _ (fun (_ : Unit) _ _ => ())
    (fun runs => TenantPart tenant runs.mixed runs.alone)
    (fun runs call => UnfiledCall m a runs.mixed call)
    (fun runs call => NamesOwnClosing tenant runs.mixed call)
    (fun runs call part foreign unfiled => by
      rw [Machine.twoRuns_foreign foreign]
      refine ⟨?_, part.step_foreign foreign unfiled⟩
      rintro made rfl _ _ _ mine
      exact absurd mine foreign)
    (fun runs call part mine unfiled => (part.step_own mine unfiled).1)
    (fun runs call part mine unfiled names => by
      rw [Machine.twoRuns_own mine]
      exact (part.step_own mine unfiled).2 names)
    ⟨⟨services, .new, reports⟩, ⟨services, .new, reports⟩, ()⟩ start calls all
  rw [isolated, Machine.admits_mixed_iff, Machine.admits_iff_splits]
  constructor
  · intro names before now request after split mine r member same
    refine names before (.closing (.signOff now request)) after split (.signOff now request) rfl now
      request rfl mine r ?_
    rw [exec_closings, (records_exec (closingCalls before)).get?_history]
    exact lastClosed_of_nodup (nodup_before different (parts split)) member same
  · rintro names before _ after split _ rfl now request rfl mine r found
    rw [exec_closings, (records_exec (closingCalls before)).get?_history] at found
    obtain ⟨member, same⟩ := mem_of_lastClosed found
    exact names before now request after split mine r member same

end Runs

section Sample

/-- An application without any funds, requests or records. -/
def freshServices : Services := ⟨.empty, .initial ⟨defaultPettyflowPolicy⟩⟩

/-- The body of a record of the tenant, whose amount is a text. -/
def spendBody : Dict String Json :=
  Dict.empty.set "transaction_id" (.str "TX-1")
    |>.set "tenant_id" (.str "globex")
    |>.set "department" (.str "Sales")
    |>.set "location" (.str "Berlin")
    |>.set "category" (.str "Travel")
    |>.set "amount_scaled" (.str "12")

/-- A closing that another tenant signs off, and what this tenant asks about itself. -/
def strangeCalls : List RestCall :=
  strangeSignOff.map .closing
    ++ [
      .report (.addSpendRecord spendBody "2026-01-01"), .getSummary " globex ",
      .report (.exportPdfStatement "globex" "2026-01-01" "2026-01-01"),
      .endpoint (.getCustodianBalance ⟨1⟩ ⟨2⟩ ⟨3⟩)
    ]

theorem rest_tenants_isolated_iff_sample
    : (restMachine ⟨0⟩ .default plainRuntime).ownOutputs (RestCall.For ⟨⟨3⟩, "globex"⟩)
          ⟨freshServices, .new, ⟨[]⟩⟩ strangeCalls
        = (restMachine ⟨0⟩ .default plainRuntime).ownOutputs (RestCall.For ⟨⟨3⟩, "globex"⟩)
            ⟨freshServices, .new, ⟨[]⟩⟩ (strangeCalls.filter (RestCall.For ⟨⟨3⟩, "globex"⟩))
      ↔ ∀ before now request after,
          strangeCalls = before ++ .closing (.signOff now request) :: after
          → request.tenantId = "globex"
          → ∀ r ∈ closedIn ⟨0⟩ .default (closingCalls before),
              r.id = request.reconciliationId → r.tenantId = "globex" :=
  rest_tenants_isolated_iff ⟨⟨3⟩, "globex"⟩ freshServices ⟨[]⟩ strangeCalls (by decide +kernel)

end Sample

end PettyFlow.Api
