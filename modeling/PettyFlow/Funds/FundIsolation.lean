import PettyFlow.Foundation.TwoRuns
import PettyFlow.Funds.Service

/-! Funds share the tables of the service and cannot notice each other: for any choice of funds, by
tenant or by fund, a run is compared with the same run without the calls for all other funds.
-/

namespace PettyFlow.Funds

open Foundation

/-- Two services with the same funds under the chosen keys, and the same balances in these. -/
structure SameFunds (own : Uuid × Uuid → Prop) (s t : FundService) : Prop where
  funds : ∀ key, own key → s.funds.get? key = t.funds.get? key
  balances
    : ∀ tenantId fundId custodianId,
        own (tenantId, fundId)
        → s.balances.get? (tenantId, fundId, custodianId)
          = t.balances.get? (tenantId, fundId, custodianId)

namespace SameFunds

variable {own : Uuid × Uuid → Prop} {s t : FundService} {tenantId fundId custodianId : Uuid}

theorem refl (s : FundService) : SameFunds own s s := ⟨fun _ _ => rfl, fun _ _ _ _ => rfl⟩

theorem trans {u : FundService} (first : SameFunds own s t) (second : SameFunds own t u)
    : SameFunds own s u where
  funds key mine := (first.funds key mine).trans (second.funds key mine)
  balances tenantId fundId custodianId mine :=
    (first.balances tenantId fundId custodianId mine).trans
      (second.balances tenantId fundId custodianId mine)

theorem getFund (same : SameFunds own s t) (mine : own (tenantId, fundId))
    : s.getFund tenantId fundId = t.getFund tenantId fundId := by
  unfold FundService.getFund
  rw [same.funds _ mine]

theorem balance (same : SameFunds own s t) (mine : own (tenantId, fundId)) (custodianId : Uuid)
    : s.balance tenantId fundId custodianId = t.balance tenantId fundId custodianId := by
  unfold FundService.balance Dict.getD
  rw [same.balances _ _ _ mine]

/-- Both services store the same fund. -/
theorem setFund (same : SameFunds own s t) (key : Uuid × Uuid) (fund : Fund)
    : SameFunds own { s with funds := s.funds.set key fund }
        { t with funds := t.funds.set key fund } where
  funds other mine := by
    change (s.funds.set key fund).get? other = (t.funds.set key fund).get? other
    rw [Dict.get?_set, Dict.get?_set, same.funds other mine]
  balances := same.balances

/-- Both services store the same balance. -/
theorem setBalance (same : SameFunds own s t) (key : Uuid × Uuid × Uuid) (amount : Int)
    : SameFunds own { s with balances := s.balances.set key amount }
        { t with balances := t.balances.set key amount } where
  funds := same.funds
  balances tenantId fundId custodianId mine := by
    change (s.balances.set key amount).get? (tenantId, fundId, custodianId)
      = (t.balances.set key amount).get? (tenantId, fundId, custodianId)
    rw [Dict.get?_set, Dict.get?_set, same.balances _ _ _ mine]

/-- Another fund is stored. -/
theorem setFund_foreign (s : FundService) {key : Uuid × Uuid} (foreign : ¬ own key) (fund : Fund)
    : SameFunds own { s with funds := s.funds.set key fund } s where
  funds other mine := by
    refine Dict.get?_set_ne _ _ (fun same => foreign ?_)
    rw [same]
    exact mine
  balances _ _ _ _ := rfl

/-- A balance in another fund is stored. -/
theorem setBalance_foreign (s : FundService) (foreign : ¬ own (tenantId, fundId))
    (custodianId : Uuid) (amount : Int)
    : SameFunds own { s with balances := s.balances.set (tenantId, fundId, custodianId) amount }
        s where
  funds _ _ := rfl
  balances tenant fund custodian mine := by
    refine Dict.get?_set_ne _ _ (fun same => foreign ?_)
    rw [(Prod.mk.inj same).1, (Prod.mk.inj (Prod.mk.inj same).2).1]
    exact mine

section Operations

/-! ### Calls for the chosen funds -/

theorem createFund_both (same : SameFunds own s t) (drawn tenantId : Uuid)
    (name currency : String) (custodianId : Uuid) (amount : NumberArg)
    : (s.createFund drawn tenantId name currency custodianId amount).1
        = (t.createFund drawn tenantId name currency custodianId amount).1
      ∧ SameFunds own (s.createFund drawn tenantId name currency custodianId amount).2
          (t.createFund drawn tenantId name currency custodianId amount).2 :=
  attempt_both same (fun fund _ => ⟨rfl, same.setFund _ fund⟩)

theorem allocateFloat_both (same : SameFunds own s t) (mine : own (tenantId, fundId))
    (custodianId : Uuid) (amount : NumberArg)
    : (s.allocateFloat tenantId fundId custodianId amount).1
        = (t.allocateFloat tenantId fundId custodianId amount).1
      ∧ SameFunds own (s.allocateFloat tenantId fundId custodianId amount).2
          (t.allocateFloat tenantId fundId custodianId amount).2 := by
  unfold FundService.allocateFloat
  rw [same.getFund mine, same.balance mine]
  refine attempt_both same ?_
  rintro ⟨amount, fund⟩ _
  exact ⟨rfl, (same.setFund _ _).setBalance _ _⟩

theorem issueDisbursement_both (same : SameFunds own s t) (mine : own (tenantId, fundId))
    (custodianId : Uuid) (amount : NumberArg)
    : (s.issueDisbursement tenantId fundId custodianId amount).1
        = (t.issueDisbursement tenantId fundId custodianId amount).1
      ∧ SameFunds own (s.issueDisbursement tenantId fundId custodianId amount).2
          (t.issueDisbursement tenantId fundId custodianId amount).2 := by
  unfold FundService.issueDisbursement
  rw [same.getFund mine, same.balance mine]
  refine attempt_both same ?_
  rintro ⟨amount, fund⟩ _
  exact ⟨rfl, same.setBalance _ _⟩

theorem getCustodianBalance_both (same : SameFunds own s t) (mine : own (tenantId, fundId))
    (custodianId : Uuid)
    : (s.getCustodianBalance tenantId fundId custodianId).1
        = (t.getCustodianBalance tenantId fundId custodianId).1
      ∧ SameFunds own (s.getCustodianBalance tenantId fundId custodianId).2
          (t.getCustodianBalance tenantId fundId custodianId).2 := by
  unfold FundService.getCustodianBalance
  rw [same.getFund mine, same.balance mine]
  exact attempt_both same (fun fund _ => ⟨rfl, same⟩)

/-! ### Calls for other funds -/

theorem createFund_foreign (s : FundService) {drawn tenantId : Uuid}
    (foreign : ¬ own (tenantId, drawn)) (name currency : String) (custodianId : Uuid)
    (amount : NumberArg)
    : SameFunds own (s.createFund drawn tenantId name currency custodianId amount).2 s := by
  refine attempt_elim (motive := fun r => SameFunds own r.2 s) (fun _ _ => .refl s) ?_
  intro fund passed
  -- The fund that the checks return has the identifier that was drawn
  obtain ⟨_, _, passed⟩ := bind_ok passed
  obtain ⟨_, _, passed⟩ := bind_ok passed
  obtain ⟨_, _, passed⟩ := bind_ok passed
  cases passed
  exact setFund_foreign s foreign _

theorem allocateFloat_foreign (s : FundService) (foreign : ¬ own (tenantId, fundId))
    (custodianId : Uuid) (amount : NumberArg)
    : SameFunds own (s.allocateFloat tenantId fundId custodianId amount).2 s := by
  refine attempt_elim (motive := fun r => SameFunds own r.2 s) (fun _ _ => .refl s) ?_
  rintro ⟨amount, fund⟩ _
  exact (setBalance_foreign _ foreign custodianId _).trans (setFund_foreign s foreign _)

theorem issueDisbursement_foreign (s : FundService) (foreign : ¬ own (tenantId, fundId))
    (custodianId : Uuid) (amount : NumberArg)
    : SameFunds own (s.issueDisbursement tenantId fundId custodianId amount).2 s := by
  refine attempt_elim (motive := fun r => SameFunds own r.2 s) (fun _ _ => .refl s) ?_
  rintro ⟨amount, fund⟩ _
  exact setBalance_foreign s foreign custodianId _

theorem getCustodianBalance_foreign (s : FundService) (tenantId fundId custodianId : Uuid)
    : SameFunds own (s.getCustodianBalance tenantId fundId custodianId).2 s :=
  attempt_elim (motive := fun r => SameFunds own r.2 s) (fun _ _ => .refl s) (fun _ _ => .refl s)

end Operations

end SameFunds

section Isolation

variable {own : Uuid × Uuid → Prop} {s t : FundService}

theorem answered_alike {α : Type} (wrap : α → FundAnswer)
    {result other : Except FundError α × FundService}
    (both : result.1 = other.1 ∧ SameFunds own result.2 other.2)
    : (answer wrap result).1 = (answer wrap other).1
      ∧ SameFunds own (answer wrap result).2 (answer wrap other).2 :=
  ⟨congrArg (Except.map wrap) both.1, both.2⟩

/-- A call for a chosen fund is answered alike. -/
theorem SameFunds.serve_both (same : SameFunds own s t) {call : FundCall} (mine : own call.target)
    : (serve s call).1 = (serve t call).1 ∧ SameFunds own (serve s call).2 (serve t call).2 := by
  cases call with
  | createFund drawn tenantId name currency custodianId amount =>
      exact answered_alike _ (same.createFund_both drawn tenantId name currency custodianId amount)
  | allocateFloat tenantId fundId custodianId amount =>
      exact answered_alike _ (same.allocateFloat_both mine custodianId amount)
  | issueDisbursement tenantId fundId custodianId amount =>
      exact answered_alike _ (same.issueDisbursement_both mine custodianId amount)
  | getCustodianBalance tenantId fundId custodianId =>
      exact answered_alike _ (same.getCustodianBalance_both mine custodianId)

/-- A call for another fund leaves the chosen ones alone. -/
theorem serve_foreign (s : FundService) {call : FundCall} (foreign : ¬ own call.target)
    : SameFunds own (serve s call).2 s := by
  cases call with
  | createFund drawn tenantId name currency custodianId amount =>
      exact .createFund_foreign s foreign name currency custodianId amount
  | allocateFloat tenantId fundId custodianId amount =>
      exact .allocateFloat_foreign s foreign custodianId amount
  | issueDisbursement tenantId fundId custodianId amount =>
      exact .issueDisbursement_foreign s foreign custodianId amount
  | getCustodianBalance tenantId fundId custodianId =>
      exact .getCustodianBalance_foreign s tenantId fundId custodianId

/-- The call is for a chosen fund. -/
def FundCall.Within (own : Uuid × Uuid → Prop) (call : FundCall) : Prop := own call.target

instance (own : Uuid × Uuid → Prop) [DecidablePred own] (call : FundCall)
    : Decidable (call.Within own) :=
  inferInstanceAs (Decidable (own call.target))

/-- From every state, the calls for any choice of funds, such as those of one tenant, get the
answers that they get without the calls for all other funds.
-/
theorem funds_isolated (own : Uuid × Uuid → Prop) [DecidablePred own] (s : FundService)
    (calls : List FundCall)
    : fundMachine.ownOutputs (FundCall.Within own) s calls
      = fundMachine.ownOutputs (FundCall.Within own) s (calls.filter (FundCall.Within own)) := by
  have always
      : (fundMachine.twoRuns (FundCall.Within own) (fun (_ : Unit) _ _ => ())).Admits
          (fun _ _ => True) ⟨s, s, ()⟩ calls :=
    (Machine.admits_iff_history _ _ _).mpr (fun _ _ => trivial)
  refine Machine.ownOutputs_eq_of_admits
    (fun runs call (same : SameFunds own runs.mixed runs.alone) foreign => ?_)
    (fun runs call (same : SameFunds own runs.mixed runs.alone) mine _ => ?_)
    (SameFunds.refl s) always
  · rw [Machine.twoRuns_foreign foreign]
    exact (serve_foreign runs.mixed foreign).trans same
  · rw [Machine.twoRuns_own mine]
    exact same.serve_both mine

end Isolation

end PettyFlow.Funds
