import PettyFlow.Workflow.AuditTrail
import PettyFlow.Workflow.Queries

/-! The figures of the dashboard and the listing of requests are taken by traversals of their own.
They agree in every reachable state, because no stored request is a draft.
-/

namespace PettyFlow.Workflow

open Foundation

section Slices

variable {α : Type}

/-- A slice between two positions that count from the front. -/
theorem slice_of_nat (items : List α) (offset limit : Nat)
    : slice (offset : Int) (offset + limit : Int) items = (items.drop offset).take limit := by
  have first : slicePosition items.length offset = min offset items.length := by
    rw [slicePosition, if_neg (by omega), Int.toNat_natCast]
  have last : slicePosition items.length (offset + limit : Int)
      = min (offset + limit) items.length := by
    rw [slicePosition, if_neg (by omega)]
    rfl
  unfold slice
  dsimp only
  rw [first, last]
  rcases Nat.le_total offset items.length with inside | outside
  · rw [min_eq_left inside, List.take_eq_take_iff, List.length_drop]
    omega
  · rw [min_eq_right outside, List.drop_length, List.drop_eq_nil_of_le outside, List.take_nil,
      List.take_nil]

end Slices

/-- A stored request fulfils the filters of a listing. -/
def ApprovalRequest.Matches (request : ApprovalRequest) (state : Option ApprovalState)
    (tier : Option ApprovalTier) (custodianId : Option String)
    : Prop :=
  (∀ wanted ∈ state, request.state = wanted)
  ∧ (∀ wanted ∈ tier, request.requiredApprovalTier = wanted.value)
  ∧ (∀ wanted ∈ custodianId, request.custodianId = wanted)

instance (request : ApprovalRequest) (state : Option ApprovalState) (tier : Option ApprovalTier)
    (custodianId : Option String)
    : Decidable (request.Matches state tier custodianId) :=
  inferInstanceAs (Decidable (_ ∧ _ ∧ _))

namespace ApprovalWorkflowService

/-- The requests of a tenant without their keys, oldest entry first. -/
def requestsOf (s : ApprovalWorkflowService) (tenantId : String) : List ApprovalRequest :=
  (s.tenantRequests (strip tenantId)).map Prod.snd

/-- The requests that a listing from the first one on shows. -/
def listed (s : ApprovalWorkflowService) (tenantId : String) (state : Option ApprovalState)
    (tier : Option ApprovalTier) (limit : Int)
    : List ApprovalRequest :=
  (s.listRequests tenantId state tier none limit 0).map Prod.fst

end ApprovalWorkflowService

/-- The sum of the amounts of some requests. -/
def amountOf (requests : List ApprovalRequest) : Int :=
  (requests.map ApprovalRequest.amountScaled).sum

/-- The figures are those of the listings with the filters that they stand for. -/
structure SummaryCounts.Agrees (counts : SummaryCounts)
    (listed : Option ApprovalState → Option ApprovalTier → List ApprovalRequest)
    : Prop where
  total : counts.totalCount = (listed none none).length
  parts
    : counts.totalCount
      = counts.pendingCount + counts.approvedCount + counts.rejectedCount + counts.disbursedCount
  pending : counts.pendingCount = (listed (some .pending) none).length
  approved : counts.approvedCount = (listed (some .approved) none).length
  rejected : counts.rejectedCount = (listed (some .rejected) none).length
  disbursed : counts.disbursedCount = (listed (some .disbursed) none).length
  tier1Auto : counts.tier1AutoCount = (listed none (some .autoApprove)).length
  tier2Manager : counts.tier2ManagerCount = (listed (some .pending) (some .manager)).length
  tier3Cfo : counts.tier3CfoCount = (listed (some .pending) (some .financeDirector)).length
  totalPending : counts.totalPendingScaled = amountOf (listed (some .pending) none)
  totalApproved : counts.totalApprovedScaled = amountOf (listed (some .approved) none)

section Listing

variable {s : ApprovalWorkflowService} {tenantId : String}

theorem matchingRequests_perm (s : ApprovalWorkflowService) (tenantId : String)
    (state : Option ApprovalState) (tier : Option ApprovalTier) (custodianId : Option String)
    : ((s.matchingRequests tenantId state tier custodianId).map Prod.fst).Perm
        ((s.requestsOf tenantId).filter (fun request => request.Matches state tier custodianId)) := by
  unfold ApprovalWorkflowService.matchingRequests ApprovalWorkflowService.requestsOf
  refine ((List.perm_insertionSort _ _).map Prod.fst).trans (List.Perm.of_eq ?_)
  rw [List.map_map, List.filter_map]
  rfl

/-- A listing that is long enough shows what matches its filters, in another order. -/
theorem listed_perm {limit : Int} (enough : (s.requestsOf tenantId).length ≤ limit)
    (state : Option ApprovalState) (tier : Option ApprovalTier)
    : (s.listed tenantId state tier limit).Perm
        ((s.requestsOf tenantId).filter (fun request => request.Matches state tier none)) := by
  obtain ⟨size, rfl⟩ := Int.eq_ofNat_of_zero_le (by omega : 0 ≤ limit)
  have matched := matchingRequests_perm s tenantId state tier none
  have short : (s.matchingRequests tenantId state tier none).length ≤ size := by
    have same := matched.length_eq
    have fewer := List.length_filter_le (fun request : ApprovalRequest =>
      decide (request.Matches state tier none)) (s.requestsOf tenantId)
    rw [List.length_map] at same
    omega
  have whole
      : s.listRequests tenantId state tier none size 0
        = s.matchingRequests tenantId state tier none := by
    have cut := slice_of_nat (s.matchingRequests tenantId state tier none) 0 size
    rw [List.drop_zero, List.take_of_length_le short] at cut
    exact cut
  rw [ApprovalWorkflowService.listed, whole]
  exact matched

end Listing

/-- One request more, figure by figure. -/
theorem SummaryCounts.add_eq (counts : SummaryCounts) (request : ApprovalRequest)
    : counts.add request
      = {
          totalCount := counts.totalCount + 1
          pendingCount := counts.pendingCount + if request.state = .pending then 1 else 0
          approvedCount := counts.approvedCount + if request.state = .approved then 1 else 0
          rejectedCount := counts.rejectedCount + if request.state = .rejected then 1 else 0
          disbursedCount := counts.disbursedCount + if request.state = .disbursed then 1 else 0
          tier1AutoCount :=
            counts.tier1AutoCount
            + if request.requiredApprovalTier = ApprovalTier.autoApprove.value then 1 else 0
          tier2ManagerCount :=
            counts.tier2ManagerCount
            + if request.state = .pending
                  ∧ request.requiredApprovalTier = ApprovalTier.manager.value then 1 else 0
          tier3CfoCount :=
            counts.tier3CfoCount
            + if request.state = .pending
                  ∧ request.requiredApprovalTier = ApprovalTier.financeDirector.value then 1
              else 0
          totalPendingScaled :=
            counts.totalPendingScaled
            + if request.state = .pending then request.amountScaled else 0
          totalApprovedScaled :=
            counts.totalApprovedScaled
            + if request.state = .approved then request.amountScaled else 0
        } := by
  unfold SummaryCounts.add SummaryCounts.addPending
  by_cases automatic : request.requiredApprovalTier = ApprovalTier.autoApprove.value
  · cases state : request.state <;> simp [automatic, ApprovalTier.value]
  by_cases manager : request.requiredApprovalTier = ApprovalTier.manager.value
  · cases state : request.state <;> simp [manager, ApprovalTier.value]
  by_cases director : request.requiredApprovalTier = ApprovalTier.financeDirector.value
  · cases state : request.state <;> simp [director, ApprovalTier.value]
  · cases state : request.state <;> simp [automatic, manager, director]

section Figures

variable {μ : Type} [AddCommMonoid μ]

/-- A figure that each request of some kind raises by its weight. -/
theorem foldl_add_figure {figure : SummaryCounts → μ} {weight : ApprovalRequest → μ}
    {state : Option ApprovalState} {tier : Option ApprovalTier}
    (raised
      : ∀ counts request,
          figure (counts.add request)
          = figure counts + if request.Matches state tier none then weight request else 0)
    (requests : List ApprovalRequest) (counts : SummaryCounts)
    : figure (requests.foldl SummaryCounts.add counts)
      = figure counts
        + ((requests.filter (fun request => request.Matches state tier none)).map weight).sum := by
  induction requests generalizing counts with
  | nil => simp
  | cons request rest ih =>
      rw [List.foldl_cons, ih, raised, List.filter_cons, add_assoc]
      by_cases matched : request.Matches state tier none
      · rw [if_pos matched, if_pos (decide_eq_true matched), List.map_cons, List.sum_cons]
      · rw [if_neg matched, if_neg (by simpa using matched), zero_add]

/-- A figure that starts at nothing is the sum over the listing of its kind. -/
theorem foldl_add_listed {s : ApprovalWorkflowService} {tenantId : String} {limit : Int}
    (enough : (s.requestsOf tenantId).length ≤ limit) {figure : SummaryCounts → μ}
    (weight : ApprovalRequest → μ) {state : Option ApprovalState} {tier : Option ApprovalTier}
    (zero : figure .zero = 0)
    (raised
      : ∀ counts request,
          figure (counts.add request)
          = figure counts + if request.Matches state tier none then weight request else 0)
    : figure ((s.requestsOf tenantId).foldl SummaryCounts.add .zero)
      = ((s.listed tenantId state tier limit).map weight).sum := by
  rw [foldl_add_figure raised, zero, zero_add]
  exact (((listed_perm enough state tier).map weight).sum_eq).symm

/-- A count is the length of the listing of its kind. -/
theorem foldl_add_length {s : ApprovalWorkflowService} {tenantId : String} {limit : Int}
    (enough : (s.requestsOf tenantId).length ≤ limit) {figure : SummaryCounts → Nat}
    {state : Option ApprovalState} {tier : Option ApprovalTier} (zero : figure .zero = 0)
    (raised
      : ∀ counts request,
          figure (counts.add request)
          = figure counts + if request.Matches state tier none then 1 else 0)
    : figure ((s.requestsOf tenantId).foldl SummaryCounts.add .zero)
      = (s.listed tenantId state tier limit).length := by
  rw [foldl_add_listed enough (fun _ => 1) zero raised, List.map_const',
    List.sum_replicate, smul_eq_mul, mul_one]

end Figures


/-- Without drafts, the four states make up the total. -/
theorem foldl_add_parts {requests : List ApprovalRequest}
    (submitted : ∀ request ∈ requests, request.state ≠ .draft) {counts : SummaryCounts}
    (parts
      : counts.totalCount
        = counts.pendingCount + counts.approvedCount + counts.rejectedCount
          + counts.disbursedCount)
    : (requests.foldl SummaryCounts.add counts).totalCount
      = (requests.foldl SummaryCounts.add counts).pendingCount
        + (requests.foldl SummaryCounts.add counts).approvedCount
        + (requests.foldl SummaryCounts.add counts).rejectedCount
        + (requests.foldl SummaryCounts.add counts).disbursedCount := by
  induction requests generalizing counts with
  | nil => exact parts
  | cons request rest ih =>
      refine ih (fun other member => submitted other (List.mem_cons_of_mem _ member)) ?_
      have notDraft := submitted request List.mem_cons_self
      rw [SummaryCounts.add_eq]
      cases state : request.state with
      | draft => exact absurd state notDraft
      | pending | approved | rejected | disbursed =>
          simp only [reduceCtorEq, if_true, if_false]
          omega

/-- The figures of a tenant without drafts are those of its listings. -/
theorem counts_agree {s : ApprovalWorkflowService} {tenantId : String} {limit : Int}
    (enough : (s.requestsOf tenantId).length ≤ limit)
    (submitted : ∀ request ∈ s.requestsOf tenantId, request.state ≠ .draft)
    : ((s.requestsOf tenantId).foldl SummaryCounts.add .zero).Agrees
        (fun state tier => s.listed tenantId state tier limit) where
  total := foldl_add_length enough rfl (by simp [SummaryCounts.add_eq, ApprovalRequest.Matches])
  parts := foldl_add_parts submitted rfl
  pending := foldl_add_length enough rfl (by simp [SummaryCounts.add_eq, ApprovalRequest.Matches])
  approved := foldl_add_length enough rfl (by simp [SummaryCounts.add_eq, ApprovalRequest.Matches])
  rejected := foldl_add_length enough rfl (by simp [SummaryCounts.add_eq, ApprovalRequest.Matches])
  disbursed := foldl_add_length enough rfl (by simp [SummaryCounts.add_eq, ApprovalRequest.Matches])
  tier1Auto := foldl_add_length enough rfl (by simp [SummaryCounts.add_eq, ApprovalRequest.Matches])
  tier2Manager :=
    foldl_add_length enough rfl (by simp [SummaryCounts.add_eq, ApprovalRequest.Matches])
  tier3Cfo := foldl_add_length enough rfl (by simp [SummaryCounts.add_eq, ApprovalRequest.Matches])
  totalPending :=
    foldl_add_listed enough _ rfl (by simp [SummaryCounts.add_eq, ApprovalRequest.Matches])
  totalApproved :=
    foldl_add_listed enough _ rfl (by simp [SummaryCounts.add_eq, ApprovalRequest.Matches])

/-- No stored request is a draft. -/
def NoDrafts (s : ApprovalWorkflowService) : Prop :=
  ∀ key request, s.requests.get? key = some request → request.state ≠ .draft

/-- No move leads back to a draft. -/
theorem Moved.ne_draft {before after : ApprovalRequest} {event : ApprovalEvent}
    {record : StateTransitionRecord} (moved : Moved before event record after)
    : after.state ≠ .draft := by
  have allowed := moved.allowed
  have state : after.state = record.toState := by rw [moved.result]
  rw [state]
  generalize before.state = source at allowed
  generalize record.toState = target at allowed ⊢
  cases source <;> cases event
  all_goals cases allowed
  all_goals decide

theorem Submitted.ne_draft {request : ApprovalRequest} (born : Submitted request)
    : request.state ≠ .draft := by
  cases born with
  | pending _ _ submitted => exact submitted.ne_draft
  | approved _ _ _ _ approved => exact approved.ne_draft

theorem Effect.noDrafts {s next : ApprovalWorkflowService} {call : WorkflowCall}
    {output : Except WorkflowError WorkflowAnswer} (effect : Effect s call output next)
    (clean : NoDrafts s)
    : NoDrafts next := by
  have set {key : RequestKey} {stored : ApprovalRequest} (moved : stored.state ≠ .draft)
      (other : RequestKey) (request : ApprovalRequest)
      (found : (s.requests.set key stored).get? other = some request)
      : request.state ≠ .draft := by
    rw [Dict.get?_set] at found
    split at found
    · exact Option.some.inj found ▸ moved
    · exact clean other request found
  cases effect with
  | raised => exact clean
  | submitted born => exact set born.ne_draft
  | acted _ _ _ _ moved => exact set moved.ne_draft

/-- No run of the service stores a draft. -/
theorem exec_noDrafts (evaluator : ApprovalPolicyEvaluator) (calls : List WorkflowCall)
    : NoDrafts (workflowMachine.exec (.initial evaluator) calls) := by
  have noneStored : NoDrafts (.initial evaluator) := nofun
  exact workflowMachine.exec_invariant_of_step
    (fun s call clean => (serve_effect s call).noDrafts clean) noneStored calls

/-- Both totals of the dashboard, taken from listings, have a text. -/
def TotalsWritable
    (listed : Option ApprovalState → Option ApprovalTier → List ApprovalRequest)
    : Prop :=
  (centsText (amountOf (listed (some .pending) none))).isSome
  ∧ (centsText (amountOf (listed (some .approved) none))).isSome

instance (listed : Option ApprovalState → Option ApprovalTier → List ApprovalRequest)
    : Decidable (TotalsWritable listed) :=
  inferInstanceAs (Decidable (_ ∧ _))

/-- The figures of a tenant. -/
def ApprovalWorkflowService.figures (s : ApprovalWorkflowService) (tenantId : String)
    : SummaryCounts :=
  (s.requestsOf tenantId).foldl SummaryCounts.add .zero

/-- The dashboard shows the figures when both totals have a text. -/
theorem getSummaryStats_iff (s : ApprovalWorkflowService) (tenantId : String)
    (property : SummaryCounts → Prop)
    : (∃ stats, s.getSummaryStats tenantId = some stats ∧ property stats.counts)
      ↔ ((centsText (s.figures tenantId).totalPendingScaled).isSome
          ∧ (centsText (s.figures tenantId).totalApprovedScaled).isSome)
        ∧ property (s.figures tenantId) := by
  have shown
      : s.getSummaryStats tenantId
        = (centsText (s.figures tenantId).totalPendingScaled).bind (fun pendingText =>
            (centsText (s.figures tenantId).totalApprovedScaled).bind (fun approvedText =>
              some ⟨strip tenantId, s.figures tenantId, s!"${groupThousands pendingText}",
                s!"${groupThousands approvedText}"⟩)) :=
    rfl
  rw [shown]
  cases centsText (s.figures tenantId).totalPendingScaled with
  | none => simp
  | some pendingText =>
      cases centsText (s.figures tenantId).totalApprovedScaled with
      | none => simp
      | some approvedText => simp

/-- In every reachable state, the dashboard of a tenant shows the figures of a listing that is
long enough, and it does so exactly when the totals of that listing have a text.
-/
theorem summary_agrees_iff (evaluator : ApprovalPolicyEvaluator) (calls : List WorkflowCall)
    (tenantId : String) {limit : Int}
    (enough
      : ((workflowMachine.exec (.initial evaluator) calls).requestsOf tenantId).length ≤ limit)
    : (∃ stats,
        (workflowMachine.exec (.initial evaluator) calls).getSummaryStats tenantId = some stats
        ∧ stats.counts.Agrees (fun state tier =>
            (workflowMachine.exec (.initial evaluator) calls).listed tenantId state tier limit))
      ↔ TotalsWritable (fun state tier =>
          (workflowMachine.exec (.initial evaluator) calls).listed tenantId state tier limit) := by
  have clean := exec_noDrafts evaluator calls
  generalize workflowMachine.exec (.initial evaluator) calls = s at enough clean ⊢
  have submitted (request : ApprovalRequest) (member : request ∈ s.requestsOf tenantId)
      : request.state ≠ .draft := by
    obtain ⟨⟨key, _⟩, stored, rfl⟩ := List.mem_map.mp member
    exact clean key _ ((Dict.mem_entries_iff _ _ _).mp (List.mem_of_mem_filter stored))
  have agrees : (s.figures tenantId).Agrees _ := counts_agree enough submitted
  have shown := getSummaryStats_iff s tenantId (fun counts =>
    counts.Agrees (fun state tier => s.listed tenantId state tier limit))
  rw [agrees.totalPending, agrees.totalApproved] at shown
  exact shown.trans (and_iff_left agrees)

/-- A request that waits for its approver is counted and listed. -/
theorem summary_agrees_iff_sample
    : ∃ stats,
        (workflowMachine.exec (.initial ⟨defaultPettyflowPolicy⟩) (sampleCalls.take 1)).getSummaryStats
          "acme"
        = some stats
        ∧ stats.counts.Agrees (fun state tier =>
            (workflowMachine.exec (.initial ⟨defaultPettyflowPolicy⟩)
              (sampleCalls.take 1)).listed "acme" state tier 100) :=
  (summary_agrees_iff ⟨defaultPettyflowPolicy⟩ (sampleCalls.take 1) "acme" (by decide)).mpr
    (by decide +kernel)

/-- A request whose amount no double holds. -/
def hugeSubmission : WorkflowCall :=
  .submitRequest ⟨⟨7⟩, 1, 2, ⟨⟨9⟩, 10, 11⟩, ⟨⟨9⟩, 10, 11⟩⟩ "acme" "dana" (.int (10 ^ 313)) "usd"
    "Chairs" none true none

/-- Its listing is there, but the dashboard raises. -/
theorem huge_total_unshown
    : ¬ ∃ stats,
        (workflowMachine.exec (.initial ⟨defaultPettyflowPolicy⟩) [hugeSubmission]).getSummaryStats
          "acme"
        = some stats := by
  have raised
      : (workflowMachine.exec (.initial ⟨defaultPettyflowPolicy⟩) [hugeSubmission]).getSummaryStats
          "acme"
        = none := by
    decide +kernel
  rw [raised]
  exact nofun

end PettyFlow.Workflow
