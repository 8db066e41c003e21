import PettyFlow.Api.ApprovalPages
import PettyFlow.Frontend.ServedTexts

/-! The queue of the dashboard after any run of the application: which texts of a request can add
delimiters to it.
-/

namespace PettyFlow.Frontend

open Foundation Foundation.Markup PettyFlow.Api PettyFlow.Workflow

section Runs

variable {π : Type} {m : Reconciliation.ReconciliationMatcher}
  {a : Reconciliation.VarianceAnalyzer} {runtime : ReportsRuntime π}

/-- The requests on a page are responses for stored requests. -/
theorem mem_listApprovals {s : ApprovalWorkflowService} {tenantId : String}
    {state tier custodianId : Option String} {limit : PageLimit} {offset : Nat}
    {page : ApprovalQueueResponse}
    (listed
      : ApprovalRouter.listApprovals s tenantId state tier custodianId limit offset = .ok page)
    {r : ApprovalRequestResponse} (member : r ∈ page.requests)
    : ∃ key request metadata,
        s.requests.get? key = some request ∧ toResponseDto request metadata = some r := by
  obtain ⟨parsedState, _, listed⟩ := bind_ok listed
  obtain ⟨parsedTier, _, listed⟩ := bind_ok listed
  dsimp only at listed
  split at listed
  · cases listed
  · rename_i dtos shown
    cases listed
    have mapped := mapM_eq_some_iff.mp shown
    obtain ⟨⟨request, metadata⟩, result, made⟩ :=
      List.mem_map.mp (mapped ▸ List.mem_map_of_mem member)
    -- A page is a part of the sorted requests of the tenant that match
    have sorted := (List.drop_sublist _ _).subset ((List.take_sublist _ _).subset result)
    have matched := (List.mem_insertionSort _).mp sorted
    obtain ⟨⟨key, stored⟩, entry, same⟩ := List.mem_map.mp matched
    obtain ⟨rfl, _⟩ := Prod.mk.inj same
    have kept := (List.mem_filter.mp (List.mem_filter.mp entry).1).1
    exact ⟨key, stored, metadata, (s.requests.mem_entries_iff _ _).mp kept, made⟩

/-- What a card shows of a tame request without escaping it delimits nothing, but for the end of the
custodian's name.
-/
theorem shownPlain_iff {toLocaleTimeString : Int → List Nat}
    (clock : ∀ time, (toLocaleTimeString time).filter isMark = []) {request : ApprovalRequest}
    (tame : Tame request) {metadata : ReceiptMetadata} {r : ApprovalRequestResponse}
    (made : toResponseDto request metadata = some r)
    : (∀ text ∈ shownPlain toLocaleTimeString r, text.filter isMark = [])
      ↔ (lastTwo (units r.custodianId)).filter isMark = [] := by
  obtain ⟨amountText, written, rfl⟩ := Option.map_eq_some_iff.mp made
  have amount : Plain s!"${groupThousands amountText}" :=
    Plain.append (by decide) (plain_groupThousands (plain_centsText written))
  simp only [shownPlain, List.forall_mem_cons, List.not_mem_nil, false_imp_iff, implies_true,
    and_true, marks_units tame.requestId, marks_units tame.currency, marks_units amount,
    marks_units (plain_state request.state), clock, marks_toUpperCase, true_and]

/-- After every run of the application the dashboard's page of listed requests has exactly the
delimiters of its templates if and only if no listed custodian's name ends in one, within its last
two units. Whatever the descriptions and names are, a browser shows them as they are.
-/
theorem queue_markup_iff {toLocaleTimeString : Int → List Nat}
    (clock : ∀ time, (toLocaleTimeString time).filter isMark = []) (funds : Funds.FundService)
    (evaluator : ApprovalPolicyEvaluator) (reports : ReportsRouter) (calls : List RestCall)
    {tenantId : String} {state tier custodianId : Option String} {limit : PageLimit}
    {offset : Nat} {page : ApprovalQueueResponse}
    (listed
      : ApprovalRouter.listApprovals
            ((restMachine m a runtime).exec ⟨⟨funds, .initial evaluator⟩, .new, reports⟩
              calls).services.workflow
            tenantId state tier custodianId limit offset
          = .ok page)
    : ((renderApprovalQueueDOM toLocaleTimeString page.requests).filter isMark
          = templateMarks toLocaleTimeString page.requests
        ↔ ∀ r ∈ page.requests, (lastTwo (units r.custodianId)).filter isMark = [])
      ∧ ∀ text, decode htmlEntities (escapeHtml text) = text := by
  refine ⟨(renderApprovalQueueDOM_marks page.requests).trans ?_, decode_escapeHtml⟩
  have all
      : AllTame
          ((restMachine m a runtime).exec ⟨⟨funds, .initial evaluator⟩, .new, reports⟩
            calls).services.workflow :=
    AllTame.exec (AllTame.initial evaluator) calls
  refine forall₂_congr (fun r member => ?_)
  obtain ⟨key, request, metadata, stored, made⟩ := mem_listApprovals listed member
  exact shownPlain_iff clock (all key request stored) made

end Runs

section Sample

/-- Hours and minutes of the day, as some locales write them. -/
def hoursAndMinutes (time : Int) : List Nat :=
  units (zeroPadded 2 (time / 3600000000 % 24) ++ ":" ++ zeroPadded 2 (time / 60000000 % 60))

theorem hoursAndMinutes_clean (time : Int) : (hoursAndMinutes time).filter isMark = [] :=
  marks_units
    (Plain.append (Plain.append (plain_zeroPadded _ _) (by decide)) (plain_zeroPadded _ _))

/-- A submission by a custodian whose name ends in a delimiter. -/
def angularSubmission : RestCall :=
  let moment : TransitionDraw := ⟨⟨9⟩, 10, 11⟩
  .endpoint (.submitRequest ⟨⟨7⟩, 1, 2, moment, moment⟩ {
    tenantId := "acme"
    custodianId := "eve<b"
    amountScaled := 600000
    currency := .ofText "usd" (by decide)
    description := "Chairs & \"tables\""
    receiptMetadata := none
    autoApproveIfEligible := true
    notes := none
    positive := by decide
  })

/-- The application after that submission. -/
def angularApi : RestApi :=
  (restMachine ⟨0⟩ .default plainRuntime).exec
    ⟨⟨.empty, .initial ⟨defaultPettyflowPolicy⟩⟩, .new, ⟨[]⟩⟩ [angularSubmission]

theorem queue_markup_iff_sample
    : ∃ page,
        ApprovalRouter.listApprovals angularApi.services.workflow "acme" none none none
            ⟨100, by decide, by decide⟩ 0
          = .ok page
        ∧ ((renderApprovalQueueDOM hoursAndMinutes page.requests).filter isMark
            = templateMarks hoursAndMinutes page.requests
          ↔ ∀ r ∈ page.requests, (lastTwo (units r.custodianId)).filter isMark = []) := by
  have some
      : (ApprovalRouter.listApprovals angularApi.services.workflow "acme" none none none
          ⟨100, by decide, by decide⟩ 0).toOption.isSome = true := by
    decide +kernel
  obtain ⟨page, found⟩ := Option.isSome_iff_exists.mp some
  have listed := ok_of_toOption found
  exact ⟨page, listed,
    (queue_markup_iff hoursAndMinutes_clean .empty ⟨defaultPettyflowPolicy⟩ ⟨[]⟩
      [angularSubmission] listed).1⟩

end Sample

end PettyFlow.Frontend
