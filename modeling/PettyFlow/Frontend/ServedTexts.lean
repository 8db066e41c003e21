import PettyFlow.Api.RestIsolation
import PettyFlow.Foundation.Bytes
import PettyFlow.Foundation.UuidText
import PettyFlow.Frontend.ApprovalQueue

/-! Texts of the server that cannot delimit anything in a page of the dashboard, after any run of
the application.
-/

namespace PettyFlow.Frontend

open Foundation Foundation.Markup PettyFlow.Api PettyFlow.Workflow

/-! ### Texts of the server -/

section Texts

/-- A text in which no character delimits. -/
def Plain (text : String) : Prop := ∀ c ∈ text.toList, isMark c.toNat = false

instance (text : String) : Decidable (Plain text) :=
  decidable_of_iff (text.toList.all (fun c => !isMark c.toNat) = true) (by simp [Plain])

theorem Plain.append {first second : String} (one : Plain first) (other : Plain second)
    : Plain (first ++ second) := by
  intro c member
  rw [String.toList_append, List.mem_append] at member
  exact member.elim (one c) (other c)

theorem isMark_of_digit {c : Char} (digit : c.isDigit = true) : isMark c.toNat = false := by
  have range := Char.isDigit_iff_toNat.mp digit
  have bounds : 48 ≤ c.toNat ∧ c.toNat ≤ 57 := range
  simp only [isMark, Bool.or_eq_false_iff, decide_eq_false_iff_not]
  omega

theorem plain_toString (n : Int) : Plain (toString n) := by
  intro c member
  rcases mem_repr member with digit | rfl
  · exact isMark_of_digit digit
  · decide

theorem plain_zeroPadded (width : Nat) (n : Int) : Plain (zeroPadded width n) := by
  refine Plain.append ?_ (plain_toString n)
  intro c member
  rw [String.toList_ofList] at member
  rw [List.eq_of_mem_replicate member]
  decide

theorem plain_fixed (decimals : Nat) (x : Double) : Plain (x.fixed decimals) := by
  refine Plain.append (Plain.append ?_ ?_) (plain_zeroPadded _ _)
  · exact plain_toString (_ : Nat)
  · decide

theorem plain_centsText {amount : Int} {text : String} (written : centsText amount = some text)
    : Plain text := by
  unfold centsText at written
  split at written
  · cases written
    decide
  · obtain ⟨x, _, rfl⟩ := Option.map_eq_some_iff.mp written
    refine Plain.append ?_ (plain_fixed 2 x)
    split <;> decide

theorem mem_commaSeparated {digits : List Char} {c : Char} (member : c ∈ commaSeparated digits)
    : c ∈ digits ∨ c = ',' := by
  induction digits using commaSeparated.induct with
  | case1 first second third fourth rest ih =>
      rw [commaSeparated] at member
      simp only [List.mem_cons] at member ih ⊢
      tauto
  | case2 digits short =>
      rw [commaSeparated.eq_2 digits short] at member
      exact Or.inl member

theorem plain_groupThousands {numeral : String} (plain : Plain numeral)
    : Plain (groupThousands numeral) := by
  intro c member
  unfold groupThousands at member
  rw [String.toList_ofList, List.mem_append, List.mem_append, List.mem_reverse] at member
  have within {p q : Char → Bool}
      (among : c ∈ (numeral.toList.dropWhile p).takeWhile q) : c ∈ numeral.toList :=
    (List.dropWhile_sublist _).subset ((List.takeWhile_sublist _).subset among)
  rcases member with (sign | whole) | decimals
  · exact plain c ((List.takeWhile_sublist _).subset sign)
  · rcases mem_commaSeparated whole with digit | rfl
    · exact plain c (within (List.mem_reverse.mp digit))
    · decide
  · exact plain c ((List.dropWhile_sublist _).subset ((List.dropWhile_sublist _).subset decimals))

theorem plain_uuid (u : Uuid) : Plain u.text := by
  intro c member
  rcases Uuid.mem_text member with rfl | digit
  · decide
  · -- The digits of an identifier come after the delimiters or between them
    have each : ∀ n < 0x3F, PlainDigit (Char.ofNat n) → isMark n = false := by decide
    by_cases small : c.toNat < 0x3F
    · exact each c.toNat small (by rwa [Char.ofNat_toNat])
    · exact isMark_eq_false (by omega)

theorem plain_letters {text : String} (letters : ∀ c ∈ text.toList, isAsciiAlpha c = true)
    : Plain text := by
  intro c member
  have range := isAsciiAlpha_iff.mp (letters c member)
  simp only [isMark, Bool.or_eq_false_iff, decide_eq_false_iff_not]
  omega

end Texts

/-! ### Requests of the server -/

/-- A request with identifiers that were drawn, a currency of letters and a tier of the policy. -/
structure Tame (request : ApprovalRequest) : Prop where
  requestId : Plain request.requestId
  currency : Plain request.currency
  tier : Plain request.requiredApprovalTier
  transitionIds : ∀ record ∈ request.auditTrail, Plain record.transitionId

def AllTame (s : ApprovalWorkflowService) : Prop :=
  ∀ key request, s.requests.get? key = some request → Tame request

/-- A transition adds a record with an identifier that was drawn. -/
theorem Tame.transition {before after : ApprovalRequest} {event : ApprovalEvent}
    {actorId : String} {notes : Option String} {draw : TransitionDraw} (tame : Tame before)
    (passed : transition before event actorId notes draw = .ok after)
    : Tame after := by
  unfold Workflow.transition at passed
  split at passed
  · cases passed
  · cases passed
    refine ⟨tame.requestId, tame.currency, tame.tier, ?_⟩
    rw [List.forall_mem_append]
    exact ⟨tame.transitionIds, List.forall_mem_singleton.mpr (plain_uuid draw.transitionId)⟩

theorem plain_tier (tier : ApprovalTier) : Plain tier.value := by
  cases tier <;> decide

theorem plain_state (state : ApprovalState) : Plain state.value := by
  cases state <;> decide

theorem plain_event (event : ApprovalEvent) : Plain event.value := by
  cases event <;> decide

/-- A submitted request has the identifier that was drawn and the currency in capitals. -/
theorem submitRequest_tame {s : ApprovalWorkflowService} {draw : SubmitDraw}
    {tenantId custodianId : String} {amountScaled : NumberArg} {currency description : String}
    {receiptMetadata : Option ReceiptMetadata} {auto : Bool} {initialNotes : Option String}
    {request : ApprovalRequest} {evaluation : PolicyEvaluationResult}
    (plain : Plain (upper (strip currency)))
    (ok
      : (s.submitRequest draw tenantId custodianId amountScaled currency description
          receiptMetadata auto initialNotes).1
        = .ok (request, evaluation))
    : Tame request := by
  obtain ⟨⟨_, _⟩, passed, same⟩ := attempt_ok ok
  obtain ⟨rfl, rfl⟩ := Prod.mk.inj same
  obtain ⟨_, _, passed⟩ := bind_ok passed
  obtain ⟨_, _, passed⟩ := bind_ok passed
  obtain ⟨amount, _, passed⟩ := bind_ok passed
  obtain ⟨_, _, passed⟩ := bind_ok passed
  obtain ⟨_, _, passed⟩ := bind_ok passed
  obtain ⟨_, _, passed⟩ := bind_ok passed
  obtain ⟨reported, _, passed⟩ := bind_ok passed
  obtain ⟨submitted, submit, passed⟩ := bind_ok passed
  have drafted : Tame submitted := by
    refine Tame.transition ?_ submit
    exact ⟨plain_uuid draw.requestId, plain, plain_tier reported.requiredTier,
      List.forall_mem_nil _⟩
  split at passed
  · obtain ⟨approved, approve, passed⟩ := bind_ok passed
    obtain ⟨rfl, rfl⟩ := Prod.mk.inj (Except.ok.inj passed)
    exact drafted.transition approve
  · obtain ⟨rfl, rfl⟩ := Prod.mk.inj (Except.ok.inj passed)
    exact drafted

theorem plain_currency (currency : CurrencyCode) : Plain (upper (strip currency.text)) := by
  rw [currency.strip_text, currency.capitals]
  exact plain_letters (List.all_eq_true.mp currency.letters.2)

theorem AllTame.set {s : ApprovalWorkflowService} (all : AllTame s) {request : ApprovalRequest}
    (tame : Tame request) (key : RequestKey) (metadata : Dict RequestKey (List (String × Json)))
    : AllTame { s with requests := s.requests.set key request, metadata } := by
  intro other stored found
  change (s.requests.set key request).get? other = some stored at found
  rw [Dict.get?_set] at found
  split at found
  · cases found
    exact tame
  · exact all other stored found

/-- An action that moves a stored request keeps all requests tame. -/
theorem AllTame.action {s : ApprovalWorkflowService} (all : AllTame s) (key : RequestKey)
    (updatedAt : Int) {checks : Except WorkflowError ApprovalRequest}
    (checked
      : ∀ moved,
          checks = .ok moved
          → ∃ request event actorId notes draw,
              s.requests.get? key = some request
              ∧ transition request event actorId notes draw = .ok moved)
    (handlers : WorkflowError → EndpointError ApprovalEscape) (tenantId requestId : String)
    : AllTame
        (actionResponse handlers tenantId requestId
          (attempt s checks (s.touch key updatedAt))).2 := by
  rw [actionResponse_snd]
  refine attempt_elim (motive := fun r => AllTame r.2) (fun _ _ => all) ?_
  intro moved passed
  obtain ⟨request, event, actorId, notes, draw, found, step⟩ := checked moved passed
  have tame := (all _ _ found).transition step
  have touched : Tame { moved with updatedAt } :=
    ⟨tame.requestId, tame.currency, tame.tier, tame.transitionIds⟩
  exact all.set touched key s.metadata

/-- A call of an endpoint keeps all requests tame. -/
theorem AllTame.respond {s : Services} (all : AllTame s.workflow) (call : EndpointCall)
    : AllTame (Api.respond s call).2.workflow := by
  cases call with
  | createFund drawn request => exact all
  | allocateFloat fundId request => exact all
  | issueDisbursement fundId request => exact all
  | getCustodianBalance fundId custodianId tenantId => exact all
  | submitRequest draw body =>
      change AllTame (ApprovalRouter.submitRequest s.workflow draw body).2
      rw [submitRequest_snd]
      have outcome :=
        submitRequest_outcome s.workflow draw body.tenantId body.custodianId
          (.int body.amountScaled) body.currency.text body.description body.receiptMetadata
          body.autoApproveIfEligible body.notes
      rcases outcome with ⟨error, raised⟩ | ⟨request, evaluation, stored⟩
      · rw [submission, raised]
        exact all
      · have tame := submitRequest_tame (plain_currency body.currency) (congrArg Prod.fst stored)
        rw [submission, stored]
        exact all.set tame _ _
  | approveRequest draw updatedAt requestId action =>
      refine all.action _ updatedAt (fun moved passed => ?_) approveErrors action.tenantId requestId
      obtain ⟨_, _, passed⟩ := bind_ok passed
      obtain ⟨_, _, passed⟩ := bind_ok passed
      obtain ⟨request, stored, passed⟩ := bind_ok passed
      obtain ⟨_, _, passed⟩ := bind_ok passed
      exact ⟨request, _, _, _, draw, storedRequest_ok stored, passed⟩
  | rejectRequest draw updatedAt requestId action =>
      refine all.action _ updatedAt (fun moved passed => ?_) rejectErrors action.tenantId requestId
      obtain ⟨_, _, passed⟩ := bind_ok passed
      obtain ⟨_, _, passed⟩ := bind_ok passed
      obtain ⟨request, stored, passed⟩ := bind_ok passed
      exact ⟨request, _, _, _, draw, storedRequest_ok stored, passed⟩
  | disburseRequest draw updatedAt requestId action =>
      refine all.action _ updatedAt (fun moved passed => ?_) disburseErrors action.tenantId requestId
      obtain ⟨_, _, passed⟩ := bind_ok passed
      obtain ⟨request, stored, passed⟩ := bind_ok passed
      exact ⟨request, _, _, _, draw, storedRequest_ok stored, passed⟩

section Runs

variable {π : Type} {m : Reconciliation.ReconciliationMatcher}
  {a : Reconciliation.VarianceAnalyzer} {runtime : ReportsRuntime π}

/-- Every run keeps all requests tame, by induction over its calls. -/
theorem AllTame.exec {s : RestApi} (all : AllTame s.services.workflow) (calls : List RestCall)
    : AllTame ((restMachine m a runtime).exec s calls).services.workflow := by
  induction calls generalizing s with
  | nil => exact all
  | cons call rest ih =>
      rw [Machine.exec]
      apply ih
      cases call with
      | endpoint call => exact all.respond call
      | listApprovals tenantId state tier custodianId limit offset => exact all
      | getSummary tenantId => exact all
      | getApprovalDetails requestId tenantId => exact all
      | closing call => exact all
      | report call => exact all

theorem AllTame.initial (evaluator : ApprovalPolicyEvaluator) : AllTame (.initial evaluator) := by
  intro key request found
  cases found

end Runs

end PettyFlow.Frontend
