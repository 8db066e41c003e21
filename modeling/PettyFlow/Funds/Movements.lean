import PettyFlow.Funds.Conservation

/-! A custodian's balance is what calls have allocated to the custodian less what they have paid out,
and an answer says what the tables then say.
-/

namespace PettyFlow.Funds

open Foundation

/-- What a call has added to the balance of a custodian of a fund. -/
def movedAmount (key : Uuid × Uuid × Uuid) (event : FundEvent) : Int :=
  match event.input, event.output with
  | .allocateFloat tenantId fundId custodianId (.int amount), .ok _ =>
      if (tenantId, fundId, custodianId) = key then amount else 0
  | .issueDisbursement tenantId fundId custodianId (.int amount), .ok _ =>
      if (tenantId, fundId, custodianId) = key then -amount else 0
  | _, _ => 0

def movedTotal (past : List FundEvent) (key : Uuid × Uuid × Uuid) : Int :=
  (past.map (movedAmount key)).sum

theorem movedAmount_raised (key : Uuid × Uuid × Uuid) (s next : FundService) (call : FundCall)
    (error : FundError)
    : movedAmount key ⟨s, call, .error error, next⟩ = 0 := by
  unfold movedAmount
  split
  · contradiction
  · contradiction
  · rfl

theorem Effect.moves {s next : FundService} {call : FundCall}
    {output : Except FundError FundAnswer} (effect : Effect s call output next)
    (tenantId fundId custodianId : Uuid)
    : next.balance tenantId fundId custodianId
      = s.balance tenantId fundId custodianId
        + movedAmount (tenantId, fundId, custodianId) ⟨s, call, output, next⟩ := by
  cases effect with
  | raised => rw [movedAmount_raised, add_zero]
  | read => exact (add_zero _).symm
  | opened => exact (add_zero _).symm
  | @allocated tenant fund custodian amount =>
      rw [balance_set, movedAmount]
      dsimp only
      by_cases same : (tenant, fund, custodian) = (tenantId, fundId, custodianId)
      · cases same
        rw [if_pos rfl, if_pos rfl]
      · rw [if_neg same, if_neg same, add_zero]
  | @disbursed tenant fund custodian amount =>
      rw [balance_set, movedAmount]
      dsimp only
      by_cases same : (tenant, fund, custodian) = (tenantId, fundId, custodianId)
      · cases same
        rw [if_pos rfl, if_pos rfl, sub_eq_add_neg]
      · rw [if_neg same, if_neg same, add_zero]

/-- Every balance is the sum of what the calls have moved, by induction over the run. -/
theorem balance_eq_moved (calls : List FundCall) (tenantId fundId custodianId : Uuid)
    : (fundMachine.exec .empty calls).balance tenantId fundId custodianId
      = movedTotal (fundMachine.history .empty calls) (tenantId, fundId, custodianId) := by
  induction calls using List.reverseRecOn with
  | nil => rfl
  | append_singleton past call ih =>
      rw [fundMachine.exec_concat, fundMachine.history_concat, movedTotal, List.map_append,
        List.sum_append, List.map_singleton, List.sum_singleton, ← movedTotal, ← ih]
      exact (serve_effect _ call).moves tenantId fundId custodianId

/-- What an answer says of a fund or of a balance is what the tables say. -/
def Agrees (s : FundService) : FundAnswer → Prop
  | .fund fund => s.funds.get? (fund.tenantId, fund.fundId) = some fund
  | .balance balance =>
      balance.amountScaled = s.balance balance.tenantId balance.fundId balance.custodianId
      ∧ ∃ fund,
          s.funds.get? (balance.tenantId, balance.fundId) = some fund
          ∧ balance.currency = fund.currency

theorem balance_set_self (s : FundService) (funds : Dict (Uuid × Uuid) Fund)
    (tenantId fundId custodianId : Uuid) (amount : Int)
    : FundService.balance ⟨funds, s.balances.set (tenantId, fundId, custodianId) amount⟩
          tenantId fundId custodianId
      = amount := by
  rw [balance_set, if_pos rfl]

/-- A call that answers agrees with the state that it leaves. -/
theorem serve_agrees {s : FundService} {call : FundCall} {answered : FundAnswer}
    (answers : (serve s call).1 = .ok answered)
    : Agrees (serve s call).2 answered := by
  cases call with
  | createFund drawn tenantId name currency custodianId initial =>
      revert answers
      refine attempt_elim
        (motive := fun r => (answer .fund r).1 = .ok answered
          → Agrees (answer .fund r).2 answered) ?_ ?_
      · intro error _ same
        cases same
      · intro fund passed same
        cases same
        obtain ⟨amount, _, passed⟩ := bind_ok passed
        obtain ⟨normalized, _, passed⟩ := bind_ok passed
        obtain ⟨_, _, passed⟩ := bind_ok passed
        cases passed
        exact Dict.get?_set_self ..
  | allocateFloat tenantId fundId custodianId arg =>
      revert answers
      refine attempt_elim
        (motive := fun r => (answer .balance r).1 = .ok answered
          → Agrees (answer .balance r).2 answered) ?_ ?_
      · intro error _ same
        cases same
      · intro checked _ same
        cases same
        exact ⟨(balance_set_self ..).symm, _, Dict.get?_set_self .., rfl⟩
  | issueDisbursement tenantId fundId custodianId arg =>
      revert answers
      refine attempt_elim
        (motive := fun r => (answer .balance r).1 = .ok answered
          → Agrees (answer .balance r).2 answered) ?_ ?_
      · intro error _ same
        cases same
      · intro checked passed same
        cases same
        obtain ⟨amount, _, passed⟩ := bind_ok passed
        obtain ⟨fund, looked, passed⟩ := bind_ok passed
        obtain ⟨_, _, passed⟩ := bind_ok passed
        cases passed
        exact ⟨(balance_set_self ..).symm, fund, FundService.getFund_ok looked, rfl⟩
  | getCustodianBalance tenantId fundId custodianId =>
      revert answers
      refine attempt_elim
        (motive := fun r => (answer .balance r).1 = .ok answered
          → Agrees (answer .balance r).2 answered) ?_ ?_
      · intro error _ same
        cases same
      · intro fund looked same
        cases same
        exact ⟨rfl, fund, FundService.getFund_ok looked, rfl⟩

/-- What the tables say of a fund stays within the messages' field. -/
theorem Books.fits {past : List FundEvent} {s : FundService} {target : Uuid × Uuid}
    (books : Books past s target) {fund : Fund} (found : s.funds.get? target = some fund)
    : (0 ≤ fund.availableAmountScaled ∧ fund.availableAmountScaled ≤ maxInt64)
      ∧ ∀ custodianId,
          0 ≤ s.balance target.1 target.2 custodianId
          ∧ s.balance target.1 target.2 custodianId ≤ maxInt64 := by
  obtain ⟨initial, _, sum, available, bounded⟩ := books.opened fund found
  have paid := books.paid
  have some_held := books.balance_le
  have total : 0 ≤ custodianTotal s target := (books.held target.1).trans (some_held target.1)
  refine ⟨⟨available, by omega⟩, fun custodianId => ⟨books.held custodianId, ?_⟩⟩
  exact (some_held custodianId).trans (by omega)

/-- A fund keeps its currency in every run with fresh identifiers. -/
theorem currency_kept {s : FundService} {calls : List FundCall} {target : Uuid × Uuid}
    {currency : String} (fresh : fundMachine.Admits FreshFund s calls)
    (has : ∃ fund, s.funds.get? target = some fund ∧ fund.currency = currency)
    : ∃ fund,
        (fundMachine.exec s calls).funds.get? target = some fund ∧ fund.currency = currency := by
  refine fundMachine.exec_invariant
    (motive := fun s => ∃ fund, s.funds.get? target = some fund ∧ fund.currency = currency)
    ?_ has fresh
  intro s call ⟨fund, found, same⟩ fresh
  have effect := serve_effect s call
  unfold FreshFund at fresh
  show ∃ fund, (serve s call).2.funds.get? target = some fund ∧ fund.currency = currency
  generalize (serve s call).1 = output, (serve s call).2 = next at effect fresh ⊢
  cases effect with
  | raised | read | disbursed => exact ⟨fund, found, same⟩
  | @opened drawn tenantId name text custodianId amount new nonneg bounded key available =>
      have other : (tenantId, drawn) ≠ target := by
        rintro rfl
        rw [FreshAnswer, key, found] at fresh
        cases fresh
      exact ⟨fund, (Dict.get?_set_ne _ _ other).trans found, same⟩
  | @allocated tenantId fundId custodianId amount old held positive present enough =>
      by_cases here : (tenantId, fundId) = target
      · subst here
        rw [found] at present
        cases present
        exact ⟨_, Dict.get?_set_self .., same⟩
      · exact ⟨fund, (Dict.get?_set_ne _ _ here).trans found, same⟩

end PettyFlow.Funds
