import Mathlib
import PettyFlow.Funds.Service

/-! Every unit put into a fund is available, held by a custodian or paid out, on every run
of the fund service.
-/

namespace PettyFlow.Funds

open Foundation

/-- What one call can do to the tables, with the checks that let it. -/
inductive Effect (s : FundService)
    : FundCall → Except FundError FundAnswer → FundService → Prop
  | raised {call error} : Effect s call (.error error) s
  | opened {drawn tenantId name currency custodianId amount fund}
    (nonneg : 0 ≤ amount) (bounded : amount ≤ maxInt64)
    (key : (fund.tenantId, fund.fundId) = (tenantId, drawn))
    (available : fund.availableAmountScaled = amount)
    : Effect s (.createFund drawn tenantId name currency custodianId (.int amount))
        (.ok (.fund fund)) { s with funds := s.funds.set (tenantId, drawn) fund }
  | allocated {tenantId fundId custodianId amount fund held}
    (positive : 0 < amount) (found : s.funds.get? (tenantId, fundId) = some fund)
    (enough : amount ≤ fund.availableAmountScaled)
    : Effect s (.allocateFloat tenantId fundId custodianId (.int amount))
        (.ok (.balance held))
        {
          funds := s.funds.set (tenantId, fundId)
            { fund with availableAmountScaled := fund.availableAmountScaled - amount }
          balances := s.balances.set (tenantId, fundId, custodianId)
            (s.balance tenantId fundId custodianId + amount)
        }
  | disbursed {tenantId fundId custodianId amount fund held}
    (positive : 0 < amount) (found : s.funds.get? (tenantId, fundId) = some fund)
    (enough : amount ≤ s.balance tenantId fundId custodianId)
    : Effect s (.issueDisbursement tenantId fundId custodianId (.int amount))
        (.ok (.balance held))
        {
          s with
          balances := s.balances.set (tenantId, fundId, custodianId)
            (s.balance tenantId fundId custodianId - amount)
        }
  | read {tenantId fundId custodianId held}
    : Effect s (.getCustodianBalance tenantId fundId custodianId) (.ok (.balance held)) s

/-- An accepted amount is an integer of the sign asked for, within the 64-bit bound. -/
theorem validateAmount_ok {arg : NumberArg} {name : String} {allowZero : Bool} {amount : Int}
    (passed : validateAmount arg name allowZero = .ok amount)
    : arg = .int amount ∧ 0 ≤ amount ∧ (allowZero = false → 0 < amount)
      ∧ amount ≤ maxInt64 := by
  cases arg with
  | bool _ | other _ => simp [validateAmount, NumberArg.int?] at passed
  | int value =>
      simp only [validateAmount, NumberArg.int?] at passed
      split at passed
      · cases passed
      · rename_i signed
        split at passed
        · cases passed
        · obtain rfl := Except.ok.inj passed
          rw [not_or, not_and] at signed
          refine ⟨rfl, by omega, ?_, by omega⟩
          intro strict
          have nonzero : value ≠ 0 := fun zero => signed.2 zero strict
          omega

theorem FundService.getFund_ok {s : FundService} {tenantId fundId : Uuid} {fund : Fund}
    (passed : s.getFund tenantId fundId = .ok fund)
    : s.funds.get? (tenantId, fundId) = some fund := by
  unfold FundService.getFund at passed
  cases found : s.funds.get? (tenantId, fundId) with
  | none => simp [found] at passed
  | some stored =>
      simp only [found, Except.ok.injEq] at passed
      rw [passed]

/-- Every call of the service has one of the listed effects. -/
theorem serve_effect (s : FundService) (call : FundCall)
    : Effect s call (serve s call).1 (serve s call).2 := by
  cases call with
  | createFund drawn tenantId name currency custodianId initial =>
      refine attempt_elim
        (motive := fun r => Effect s _ (answer .fund r).1 (answer .fund r).2) ?_ ?_
      · exact fun _ _ => .raised
      · intro fund passed
        obtain ⟨amount, validated, passed⟩ := bind_ok passed
        obtain ⟨normalized, _, passed⟩ := bind_ok passed
        obtain ⟨_, _, passed⟩ := bind_ok passed
        obtain rfl := Except.ok.inj passed
        -- All checks have passed, so the amount is an integer within its bounds
        obtain ⟨rfl, nonneg, _, bounded⟩ := validateAmount_ok validated
        exact .opened nonneg bounded rfl rfl
  | allocateFloat tenantId fundId custodianId arg =>
      refine attempt_elim
        (motive := fun r => Effect s _ (answer .balance r).1 (answer .balance r).2) ?_ ?_
      · exact fun _ _ => .raised
      · intro checked passed
        obtain ⟨amount, validated, passed⟩ := bind_ok passed
        obtain ⟨fund, looked, passed⟩ := bind_ok passed
        obtain ⟨_, enough, passed⟩ := bind_ok passed
        obtain rfl := Except.ok.inj passed
        obtain ⟨rfl, _, positive, _⟩ := validateAmount_ok validated
        exact .allocated (positive rfl) (FundService.getFund_ok looked)
          (not_lt.mp (raiseIf_ok enough))
  | issueDisbursement tenantId fundId custodianId arg =>
      refine attempt_elim
        (motive := fun r => Effect s _ (answer .balance r).1 (answer .balance r).2) ?_ ?_
      · exact fun _ _ => .raised
      · intro checked passed
        obtain ⟨amount, validated, passed⟩ := bind_ok passed
        obtain ⟨fund, looked, passed⟩ := bind_ok passed
        obtain ⟨_, enough, passed⟩ := bind_ok passed
        obtain rfl := Except.ok.inj passed
        obtain ⟨rfl, _, positive, _⟩ := validateAmount_ok validated
        exact .disbursed (positive rfl) (FundService.getFund_ok looked)
          (not_lt.mp (raiseIf_ok enough))
  | getCustodianBalance tenantId fundId custodianId =>
      refine attempt_elim
        (motive := fun r => Effect s _ (answer .balance r).1 (answer .balance r).2) ?_ ?_
      · exact fun _ _ => .raised
      · exact fun _ _ => .read

/-- The amounts held by all custodians of a fund. -/
def custodianTotal (s : FundService) (target : Uuid × Uuid) : Int :=
  s.balances.total (fun key amount => if (key.1, key.2.1) = target then amount else 0)

abbrev FundEvent := Event FundService FundCall (Except FundError FundAnswer)

/-- The amount put into a fund, if this is the call that created it. -/
def createdAmount (target : Uuid × Uuid) (event : FundEvent) : Option Int :=
  match event.input, event.output with
  | .createFund drawn tenantId _ _ _ (.int amount), .ok _ =>
      if (tenantId, drawn) = target then some amount else none
  | _, _ => none

/-- The amount one call paid out of a fund. -/
def disbursedAmount (target : Uuid × Uuid) (event : FundEvent) : Int :=
  match event.input, event.output with
  | .issueDisbursement tenantId fundId _ (.int amount), .ok _ =>
      if (tenantId, fundId) = target then amount else 0
  | _, _ => 0

def initialAmount (past : List FundEvent) (target : Uuid × Uuid) : Option Int :=
  past.findSome? (createdAmount target)

def disbursedTotal (past : List FundEvent) (target : Uuid × Uuid) : Int :=
  (past.map (disbursedAmount target)).sum

/-- The books of one fund after a past: nothing is booked before the fund is created, and
from then on the three places money can be in add up to the initial amount.
-/
structure Books (past : List FundEvent) (s : FundService) (target : Uuid × Uuid) : Prop where
  unopened
    : s.funds.get? target = none
      → initialAmount past target = none
        ∧ custodianTotal s target = 0
        ∧ disbursedTotal past target = 0
  opened
    : ∀ fund,
        s.funds.get? target = some fund
        → ∃ initial,
            initialAmount past target = some initial
            ∧ initial
              = fund.availableAmountScaled + custodianTotal s target
                + disbursedTotal past target
            ∧ 0 ≤ fund.availableAmountScaled
            ∧ initial ≤ maxInt64
  paid : 0 ≤ disbursedTotal past target
  held : ∀ custodianId, 0 ≤ s.balance target.1 target.2 custodianId

theorem disbursedTotal_append (past : List FundEvent) (event : FundEvent)
    (target : Uuid × Uuid)
    : disbursedTotal (past ++ [event]) target
      = disbursedTotal past target + disbursedAmount target event := by
  simp [disbursedTotal]

theorem initialAmount_append (past : List FundEvent) (event : FundEvent)
    (target : Uuid × Uuid)
    : initialAmount (past ++ [event]) target
      = (initialAmount past target).or (createdAmount target event) := by
  simp [initialAmount, List.findSome?_append]

/-- Setting one custodian's balance moves the total of that custodian's fund only. -/
theorem custodianTotal_set (s : FundService) (funds : Dict (Uuid × Uuid) Fund)
    (tenantId fundId custodianId : Uuid) (amount : Int) (target : Uuid × Uuid)
    : custodianTotal
          ⟨funds, s.balances.set (tenantId, fundId, custodianId) amount⟩ target
      = custodianTotal s target
        + if (tenantId, fundId) = target then
            amount - s.balance tenantId fundId custodianId
          else
            0 := by
  have moved := s.balances.total_set (tenantId, fundId, custodianId) amount
    (fun key amount => if (key.1, key.2.1) = target then amount else 0)
  unfold custodianTotal FundService.balance Dict.getD
  cases stored : s.balances.get? (tenantId, fundId, custodianId) with
  | none =>
      simp only [stored, Option.elim_none, add_zero] at moved
      rw [moved]
      simp
  | some old =>
      simp only [stored, Option.elim_some] at moved
      by_cases same : (tenantId, fundId) = target
      · simp only [same, if_true, Option.getD_some] at moved ⊢
        omega
      · simp only [same, if_false, add_zero] at moved ⊢
        exact moved

/-- Another custodian's or another fund's balance is not touched. -/
theorem balance_set (s : FundService) (funds : Dict (Uuid × Uuid) Fund)
    (tenantId fundId custodianId : Uuid) (amount : Int) (tenant fund custodian : Uuid)
    : FundService.balance ⟨funds, s.balances.set (tenantId, fundId, custodianId) amount⟩
          tenant fund custodian
      = if (tenantId, fundId, custodianId) = (tenant, fund, custodian) then
          amount
        else
          s.balance tenant fund custodian := by
  unfold FundService.balance Dict.getD
  rw [Dict.get?_set]
  split <;> rfl

/-- A drawn identifier is fresh when no fund of the tenant is stored under it. Only an
answer that returns a fund has drawn one.
-/
def FreshAnswer (s : FundService) : Except FundError FundAnswer → Prop
  | .ok (.fund fund) => s.funds.get? (fund.tenantId, fund.fundId) = none
  | _ => True

def FreshFund (s : FundService) (call : FundCall) : Prop := FreshAnswer s (serve s call).1

instance (s : FundService) : (output : Except FundError FundAnswer) →
    Decidable (FreshAnswer s output)
  | .ok (.fund fund) =>
      inferInstanceAs (Decidable (s.funds.get? (fund.tenantId, fund.fundId) = none))
  | .ok (.balance _) => isTrue trivial
  | .error _ => isTrue trivial

instance (s : FundService) (call : FundCall) : Decidable (FreshFund s call) :=
  inferInstanceAs (Decidable (FreshAnswer s (serve s call).1))

/-- A call that neither creates the fund nor pays out of it, and leaves its record, total
and balances alone, leaves its books alone.
-/
theorem Books.unaffected {past : List FundEvent} {s next : FundService}
    {target : Uuid × Uuid} {event : FundEvent} (books : Books past s target)
    (created : createdAmount target event = none)
    (disbursed : disbursedAmount target event = 0)
    (record : next.funds.get? target = s.funds.get? target)
    (total : custodianTotal next target = custodianTotal s target)
    (balances
      : ∀ custodianId,
          next.balance target.1 target.2 custodianId
          = s.balance target.1 target.2 custodianId)
    : Books (past ++ [event]) next target := by
  constructor
  · rw [record, initialAmount_append, disbursedTotal_append, created, disbursed, total]
    simpa using books.unopened
  · rw [record, initialAmount_append, disbursedTotal_append, created, disbursed, total]
    simpa using books.opened
  · rw [disbursedTotal_append, disbursed]
    simpa using books.paid
  · intro custodianId
    rw [balances]
    exact books.held custodianId

theorem createdAmount_raised (target : Uuid × Uuid) (s next : FundService) (call : FundCall)
    (error : FundError)
    : createdAmount target ⟨s, call, .error error, next⟩ = none := by
  unfold createdAmount
  split
  · contradiction
  · rfl

theorem disbursedAmount_raised (target : Uuid × Uuid) (s next : FundService)
    (call : FundCall) (error : FundError)
    : disbursedAmount target ⟨s, call, .error error, next⟩ = 0 := by
  unfold disbursedAmount
  split
  · contradiction
  · rfl

/-- Every call keeps the books of every fund, by the effect it had. -/
theorem Books.step {past : List FundEvent} {s next : FundService} {call : FundCall}
    {output : Except FundError FundAnswer} {target : Uuid × Uuid}
    (effect : Effect s call output next) (fresh : FreshAnswer s output)
    (books : Books past s target)
    : Books (past ++ [⟨s, call, output, next⟩]) next target := by
  cases effect with
  | raised =>
      exact books.unaffected (createdAmount_raised target s s call _)
        (disbursedAmount_raised target s s call _) rfl rfl (fun _ => rfl)
  | read => exact books.unaffected rfl rfl rfl rfl (fun _ => rfl)
  | @opened drawn tenantId name currency custodianId amount fund nonneg bounded key available =>
      by_cases same : (tenantId, drawn) = target
      · subst same
        -- A fresh identifier has no fund, so its books are still empty
        have unused : s.funds.get? (tenantId, drawn) = none := by
          simpa only [FreshAnswer, key] using fresh
        obtain ⟨unborn, empty, unpaid⟩ := books.unopened unused
        constructor
        · intro absent
          simp at absent
        · intro stored found
          obtain rfl : fund = stored := by simpa using found
          refine ⟨amount, ?_, ?_, by omega, bounded⟩
          · rw [initialAmount_append, unborn]
            simp [createdAmount]
          · rw [disbursedTotal_append, unpaid]
            have total : custodianTotal
                { s with funds := s.funds.set (tenantId, drawn) fund } (tenantId, drawn)
                = 0 := empty
            rw [total]
            simp [disbursedAmount, available]
        · rw [disbursedTotal_append, unpaid]
          simp [disbursedAmount]
        · exact books.held
      · refine books.unaffected ?_ rfl (Dict.get?_set_ne _ _ same) rfl (fun _ => rfl)
        simp [createdAmount, same]
  | @allocated tenantId fundId custodianId amount fund held positive found enough =>
      by_cases same : (tenantId, fundId) = target
      · subst same
        obtain ⟨initial, created, sum, available, bounded⟩ := books.opened fund found
        constructor
        · intro absent
          simp at absent
        · intro stored updated
          obtain rfl := by simpa using updated
          refine ⟨initial, ?_, ?_, by dsimp only; omega, bounded⟩
          · rw [initialAmount_append, created]
            rfl
          · rw [disbursedTotal_append, custodianTotal_set, if_pos rfl]
            simp only [disbursedAmount, add_zero]
            omega
        · rw [disbursedTotal_append]
          simpa [disbursedAmount] using books.paid
        · intro custodian
          have old := books.held custodian
          have own : 0 ≤ s.balance tenantId fundId custodianId := books.held custodianId
          rw [balance_set]
          split <;> omega
      · refine books.unaffected rfl rfl (Dict.get?_set_ne _ _ same) ?_ ?_
        · rw [custodianTotal_set, if_neg same, add_zero]
        · intro custodian
          rw [balance_set, if_neg]
          rintro eq
          exact same (by simp_all)
  | @disbursed tenantId fundId custodianId amount fund held positive found enough =>
      by_cases same : (tenantId, fundId) = target
      · subst same
        obtain ⟨initial, created, sum, available, bounded⟩ := books.opened fund found
        have paid := books.paid
        constructor
        · intro absent
          simp [found] at absent
        · intro stored updated
          obtain rfl : fund = stored := by simpa [found] using updated
          refine ⟨initial, ?_, ?_, available, bounded⟩
          · rw [initialAmount_append, created]
            rfl
          · rw [disbursedTotal_append, custodianTotal_set, if_pos rfl]
            simp only [disbursedAmount, if_true]
            omega
        · rw [disbursedTotal_append]
          simp only [disbursedAmount, if_true]
          omega
        · intro custodian
          have old := books.held custodian
          rw [balance_set]
          split <;> omega
      · refine books.unaffected rfl ?_ rfl ?_ ?_
        · simp [disbursedAmount, same]
        · rw [custodianTotal_set, if_neg same, add_zero]
        · intro custodian
          rw [balance_set, if_neg]
          rintro eq
          exact same (by simp_all)

/-- The books of every fund balance after every run with fresh identifiers. -/
theorem books_balance {calls : List FundCall}
    (fresh : fundMachine.Admits FreshFund .empty calls) (target : Uuid × Uuid)
    : Books (fundMachine.history .empty calls) (fundMachine.exec .empty calls) target := by
  have start : Books [] .empty target := by
    constructor
    · exact fun _ => ⟨rfl, rfl, rfl⟩
    · intro fund found
      cases found
    · exact le_refl 0
    · exact fun _ => le_refl 0
  exact fundMachine.history_invariant
    (motive := fun past s => Books past s target)
    (fun _ s call books fresh => books.step (serve_effect s call) fresh) start fresh

/-- One custodian's balance is a summand of the fund's custodian total, all of whose
summands are nonnegative.
-/
theorem Books.balance_le {past : List FundEvent} {s : FundService} {target : Uuid × Uuid}
    (books : Books past s target) (custodianId : Uuid)
    : s.balance target.1 target.2 custodianId ≤ custodianTotal s target := by
  have summands
      : ∀ summand ∈ s.balances.entries.map
            (fun entry => if (entry.1.1, entry.1.2.1) = target then entry.2 else 0),
          0 ≤ summand := by
    intro summand member
    obtain ⟨⟨⟨tenant, fund, custodian⟩, amount⟩, listed, rfl⟩ := List.mem_map.mp member
    by_cases same : (tenant, fund) = target
    · subst same
      have stored := (Dict.mem_entries_iff _ _ _).mp listed
      have held := books.held custodian
      simpa [FundService.balance, Dict.getD, stored] using held
    · simp [same]
  unfold FundService.balance Dict.getD
  cases stored : s.balances.get? (target.1, target.2, custodianId) with
  | none => exact List.sum_nonneg summands
  | some amount =>
      have listed := (Dict.mem_entries_iff _ _ _).mpr stored
      exact List.single_le_sum summands amount
        (List.mem_map.mpr ⟨_, listed, by simp⟩)

/-- A call that raises leaves both tables exactly as they were. -/
theorem serve_raised {s : FundService} {call : FundCall} {error : FundError}
    (raised : (serve s call).1 = .error error)
    : (serve s call).2 = s := by
  have effect := serve_effect s call
  rw [raised] at effect
  generalize (serve s call).2 = next at effect ⊢
  cases effect
  rfl

/-- A call for one tenant and fund touches no other fund's record or balances. -/
theorem serve_frame (s : FundService) (call : FundCall) {other : Uuid × Uuid}
    (different : call.target ≠ other)
    : (serve s call).2.funds.get? other = s.funds.get? other
      ∧ ∀ custodianId,
          (serve s call).2.balance other.1 other.2 custodianId
          = s.balance other.1 other.2 custodianId := by
  have effect := serve_effect s call
  generalize (serve s call).1 = output, (serve s call).2 = next at effect ⊢
  cases effect with
  | raised | read => exact ⟨rfl, fun _ => rfl⟩
  | opened => exact ⟨Dict.get?_set_ne _ _ different, fun _ => rfl⟩
  | allocated | disbursed =>
      refine ⟨?_, fun custodian => ?_⟩
      · first
        | rfl
        | exact Dict.get?_set_ne _ _ different
      · rw [balance_set, if_neg]
        intro same
        obtain ⟨rfl, rest⟩ := Prod.mk.inj same
        obtain ⟨rfl, _⟩ := Prod.mk.inj rest
        exact different rfl

/-- On every run of the service, each fund's initial amount is what is available, what the
custodians hold and what was paid out; every amount stays between zero and the initial
one, within 64 bits; and from the state reached, a call that raises changes nothing and a
call for one fund changes no other.
-/
theorem fund_amounts_conserved (calls : List FundCall)
    (fresh : fundMachine.Admits FreshFund .empty calls)
    : (∀ target fund,
        (fundMachine.exec .empty calls).funds.get? target = some fund
        → ∃ initial,
            initialAmount (fundMachine.history .empty calls) target = some initial
            ∧ initial
              = fund.availableAmountScaled
                + custodianTotal (fundMachine.exec .empty calls) target
                + disbursedTotal (fundMachine.history .empty calls) target
            ∧ 0 ≤ fund.availableAmountScaled
            ∧ fund.availableAmountScaled ≤ initial
            ∧ (∀ custodianId,
                0 ≤ (fundMachine.exec .empty calls).balance target.1 target.2 custodianId
                ∧ (fundMachine.exec .empty calls).balance target.1 target.2 custodianId
                  ≤ initial)
            ∧ initial ≤ maxInt64)
      ∧ ∀ call,
          (∀ error,
            (serve (fundMachine.exec .empty calls) call).1 = .error error
            → (serve (fundMachine.exec .empty calls) call).2
              = fundMachine.exec .empty calls)
          ∧ ∀ other,
              call.target ≠ other
              → (serve (fundMachine.exec .empty calls) call).2.funds.get? other
                  = (fundMachine.exec .empty calls).funds.get? other
                ∧ ∀ custodianId,
                    (serve (fundMachine.exec .empty calls) call).2.balance
                        other.1 other.2 custodianId
                    = (fundMachine.exec .empty calls).balance
                        other.1 other.2 custodianId := by
  refine ⟨?_, fun call => ⟨fun _ => serve_raised, fun _ => serve_frame _ call⟩⟩
  intro target fund found
  have books := books_balance fresh target
  obtain ⟨initial, created, sum, available, bounded⟩ := books.opened fund found
  have paid := books.paid
  have some_held (custodianId : Uuid) := books.balance_le custodianId
  have total : 0 ≤ custodianTotal (fundMachine.exec .empty calls) target :=
    (books.held target.1).trans (some_held target.1)
  refine ⟨initial, created, sum, available, by omega, fun custodianId => ?_, bounded⟩
  exact ⟨books.held custodianId, (some_held custodianId).trans (by omega)⟩

/-- A fund of 100 from which 40 is allocated and 15 paid out, and an allocation refused. -/
def sampleCalls : List FundCall :=
  let tenant : Uuid := ⟨1⟩
  let fund : Uuid := ⟨2⟩
  let custodian : Uuid := ⟨3⟩
  [
    .createFund fund tenant "Branch float" "usd" custodian (.int 100),
    .allocateFloat tenant fund custodian (.int 40),
    .allocateFloat tenant fund custodian (.int 61),
    .issueDisbursement tenant fund custodian (.int 15)
  ]

theorem fund_amounts_conserved_sample
    : ∃ fund initial,
        (fundMachine.exec .empty sampleCalls).funds.get? (⟨1⟩, ⟨2⟩) = some fund
        ∧ initialAmount (fundMachine.history .empty sampleCalls) (⟨1⟩, ⟨2⟩) = some initial
        ∧ initial
          = fund.availableAmountScaled
            + custodianTotal (fundMachine.exec .empty sampleCalls) (⟨1⟩, ⟨2⟩)
            + disbursedTotal (fundMachine.history .empty sampleCalls) (⟨1⟩, ⟨2⟩) := by
  have found
      : (fundMachine.exec .empty sampleCalls).funds.get? (⟨1⟩, ⟨2⟩)
        = some ⟨⟨2⟩, ⟨1⟩, "Branch float", "USD", ⟨3⟩, 60⟩ := by decide
  obtain ⟨initial, created, sum, _⟩ :=
    (fund_amounts_conserved sampleCalls (by decide)).1 _ _ found
  exact ⟨_, initial, found, created, sum⟩

end PettyFlow.Funds
