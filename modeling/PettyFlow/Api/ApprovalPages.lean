import PettyFlow.Api.EndpointErrors
import PettyFlow.Foundation.Pages
import PettyFlow.Workflow.SummaryAgreement

/-! The pages of a listing hold every matching request once and in order. Each of them reports its
own length as the number of all matching requests.
-/

namespace PettyFlow.Api

open Foundation PettyFlow.Workflow

/-- The filters of a listing after their texts were read. -/
structure ListingFilters where
  tenantId : String
  state : Option ApprovalState
  tier : Option ApprovalTier
  custodianId : Option String

/-- The stored requests that match, oldest entry first, with their receipts. -/
def storedMatches (s : ApprovalWorkflowService) (filters : ListingFilters)
    : List (ApprovalRequest × ReceiptMetadata) :=
  ((s.tenantRequests (strip filters.tenantId)).filter (fun entry =>
      entry.2.Matches filters.state filters.tier filters.custodianId)).map (fun entry =>
        (entry.2, s.metadata.getD entry.1 []))

/-- The responses for some requests. -/
def responsesFor (entries : List (ApprovalRequest × ReceiptMetadata))
    : List (Option ApprovalRequestResponse) :=
  entries.map (fun entry => toResponseDto entry.1 entry.2)

/-- The responses together show every matching request once, the latest first, and each of them
reports how many there are.
-/
structure Complete (s : ApprovalWorkflowService) (filters : ListingFilters)
    (responses : List ApprovalQueueResponse) : Prop where
  everyOnce
    : ((responses.flatMap ApprovalQueueResponse.requests).map some).Perm
        (responsesFor (storedMatches s filters))
  latestFirst
    : (responses.flatMap ApprovalQueueResponse.requests).Pairwise (fun first later =>
        later.createdAt ≤ first.createdAt)
  totals
    : ∀ response ∈ responses, response.totalMatching = (storedMatches s filters).length

section Listing

variable {s : ApprovalWorkflowService} {filters : ListingFilters}

/-- The matching requests in the order of the pages. -/
def sortedMatches (s : ApprovalWorkflowService) (filters : ListingFilters)
    : List (ApprovalRequest × ReceiptMetadata) :=
  s.matchingRequests filters.tenantId filters.state filters.tier filters.custodianId

theorem sortedMatches_perm (s : ApprovalWorkflowService) (filters : ListingFilters)
    : (sortedMatches s filters).Perm (storedMatches s filters) :=
  List.perm_insertionSort _ _

theorem sortedMatches_latestFirst (s : ApprovalWorkflowService) (filters : ListingFilters)
    : (sortedMatches s filters).Pairwise (fun first later =>
        later.1.createdAt ≤ first.1.createdAt) := by
  have total
      : Std.Total (fun first later : ApprovalRequest × ReceiptMetadata =>
          later.1.createdAt ≤ first.1.createdAt) :=
    ⟨fun _ _ => le_total _ _⟩
  have transitive
      : IsTrans (ApprovalRequest × ReceiptMetadata) (fun first later =>
          later.1.createdAt ≤ first.1.createdAt) :=
    ⟨fun _ _ _ first second => second.trans first⟩
  exact List.pairwise_insertionSort _ _

theorem mapM_eq_some_iff {α β : Type} {f : α → Option β} {items : List α} {results : List β}
    : items.mapM f = some results ↔ items.map f = results.map some := by
  induction items generalizing results with
  | nil => cases results <;> simp
  | cons item rest ih =>
      rw [List.mapM_cons, List.map_cons]
      cases made : f item with
      | none => cases results <;> simp
      | some result =>
          cases results with
          | nil => cases rest.mapM f <;> simp
          | cons first results =>
              rw [List.map_cons, List.cons.injEq, ← ih]
              cases rest.mapM f <;> simp

/-- The response of a page, where the matching requests have texts. -/
theorem listApprovals_eq {state tier : Option String} {dtos : List ApprovalRequestResponse}
    (stateRead : parseState state = .ok filters.state)
    (tierRead : parseTier tier = .ok filters.tier)
    (shown : responsesFor (sortedMatches s filters) = dtos.map some) (limit : PageLimit)
    (number : Nat)
    : ApprovalRouter.listApprovals s filters.tenantId state tier filters.custodianId limit
          (number * limit.size)
      = .ok
          {
            tenantId := filters.tenantId
            totalMatching := (page limit.size dtos number).length
            requests := page limit.size dtos number
          } := by
  have results
      : s.listRequests filters.tenantId filters.state filters.tier filters.custodianId limit.size
          (number * limit.size : Nat)
        = page limit.size (sortedMatches s filters) number :=
    slice_of_nat _ _ _
  have made
      : (page limit.size (sortedMatches s filters) number).mapM
          (fun entry => toResponseDto entry.1 entry.2)
        = some (page limit.size dtos number) := by
    rw [mapM_eq_some_iff, map_page, map_page, ← shown, responsesFor]
  unfold ApprovalRouter.listApprovals
  simp only [stateRead, tierRead, bind, Except.bind, results, made]

/-- The responses for the first pages of a listing, one after the other. -/
def pagesOf (s : ApprovalWorkflowService) (filters : ListingFilters)
    (state tier : Option String) (limit : PageLimit) (count : Nat)
    : Except (EndpointError ApprovalEscape) (List ApprovalQueueResponse) :=
  (List.range count).mapM (fun number =>
    ApprovalRouter.listApprovals s filters.tenantId state tier filters.custodianId limit
      (number * limit.size))

/-- Pages that reach the end show every matching request once and in order, whatever they
report.
-/
theorem pagesOf_eq {state tier : Option String} {dtos : List ApprovalRequestResponse}
    (stateRead : parseState state = .ok filters.state)
    (tierRead : parseTier tier = .ok filters.tier)
    (shown : responsesFor (sortedMatches s filters) = dtos.map some) (limit : PageLimit)
    (count : Nat)
    : pagesOf s filters state tier limit count
      = .ok
          ((List.range count).map (fun number => {
            tenantId := filters.tenantId
            totalMatching := (page limit.size dtos number).length
            requests := page limit.size dtos number
          })) := by
  unfold pagesOf
  simp only [listApprovals_eq stateRead tierRead shown]
  exact List.mapM_pure

theorem createdAt_of_responses {entries : List (ApprovalRequest × ReceiptMetadata)}
    {dtos : List ApprovalRequestResponse} (shown : responsesFor entries = dtos.map some)
    : dtos.map ApprovalRequestResponse.createdAt
      = entries.map (fun entry => entry.1.createdAt) := by
  induction entries generalizing dtos with
  | nil =>
      rw [List.map_eq_nil_iff.mp shown.symm]
      rfl
  | cons entry rest ih =>
      cases dtos with
      | nil => cases shown
      | cons dto dtos =>
          obtain ⟨first, later⟩ := List.cons.inj shown
          obtain ⟨_, _, rfl⟩ := Option.map_eq_some_iff.mp first
          exact congrArg (List.cons _) (ih later)

/-- Requests whose amounts have texts have responses. -/
theorem responses_of_writable {entries : List (ApprovalRequest × ReceiptMetadata)}
    (writable : ∀ entry ∈ entries, Writable entry.1.amountScaled)
    : ∃ dtos : List ApprovalRequestResponse, responsesFor entries = dtos.map some := by
  induction entries with
  | nil => exact ⟨[], rfl⟩
  | cons entry rest ih =>
      obtain ⟨dtos, later⟩ :=
        ih (fun other member => writable other (List.mem_cons_of_mem _ member))
      obtain ⟨dto, first⟩ :=
        Option.isSome_iff_exists.mp
          ((toResponseDto_isSome_iff entry.1 entry.2).mpr (writable entry List.mem_cons_self))
      exact ⟨dto :: dtos, congrArg₂ List.cons first later⟩

/-- Responses in the order of their requests are the latest first. -/
theorem responses_latestFirst {dtos : List ApprovalRequestResponse}
    (shown : responsesFor (sortedMatches s filters) = dtos.map some)
    : dtos.Pairwise (fun first later => later.createdAt ≤ first.createdAt) := by
  have ordered
      : ((sortedMatches s filters).map (fun entry => entry.1.createdAt)).Pairwise
          (fun first later => later ≤ first) :=
    List.pairwise_map.mpr (sortedMatches_latestFirst s filters)
  rw [← createdAt_of_responses shown] at ordered
  exact List.pairwise_map.mp ordered

/-- There is a response for each matching request. -/
theorem length_of_responses {dtos : List ApprovalRequestResponse}
    (shown : responsesFor (sortedMatches s filters) = dtos.map some)
    : dtos.length = (storedMatches s filters).length := by
  have lengths := congrArg List.length shown
  rw [responsesFor, List.length_map, List.length_map, (sortedMatches_perm s filters).length_eq]
    at lengths
  exact lengths.symm

/-- Matching requests whose amounts have texts have responses, in their order. -/
theorem sortedResponses_of_writable
    (writable : ∀ entry ∈ storedMatches s filters, Writable entry.1.amountScaled)
    : ∃ dtos : List ApprovalRequestResponse,
        responsesFor (sortedMatches s filters) = dtos.map some :=
  responses_of_writable (fun entry member =>
    writable entry ((sortedMatches_perm s filters).mem_iff.mp member))

/-- Complete pages show a response for every matching request. -/
theorem Complete.writable {responses : List ApprovalQueueResponse}
    (complete : Complete s filters responses)
    : ∀ entry ∈ storedMatches s filters, Writable entry.1.amountScaled := by
  intro entry member
  have shown := complete.everyOnce.mem_iff.mpr
    (List.mem_map_of_mem (f := fun entry => toResponseDto entry.1 entry.2) member)
  obtain ⟨dto, _, made⟩ := List.mem_map.mp shown
  rw [← toResponseDto_isSome_iff entry.1 entry.2, ← made]
  rfl

end Listing

/-- The pages of a listing that reach its end are complete exactly when every matching amount has
a text, and there is one page or nothing to show.
-/
theorem pages_complete_iff (s : ApprovalWorkflowService) (filters : ListingFilters)
    {state tier : Option String} (limit : PageLimit) {count : Nat}
    (stateRead : parseState state = .ok filters.state)
    (tierRead : parseTier tier = .ok filters.tier) (some : 1 ≤ count)
    (covered : (storedMatches s filters).length ≤ count * limit.size)
    : (∃ responses,
        pagesOf s filters state tier limit count = .ok responses ∧ Complete s filters responses)
      ↔ (∀ entry ∈ storedMatches s filters, Writable entry.1.amountScaled)
        ∧ (storedMatches s filters = [] ∨ count = 1) := by
  constructor
  · rintro ⟨responses, returned, complete⟩
    refine ⟨complete.writable, ?_⟩
    obtain ⟨dtos, shown⟩ := sortedResponses_of_writable complete.writable
    have many := length_of_responses shown
    rw [pagesOf_eq stateRead tierRead shown] at returned
    cases returned
    have whole (number : Nat) (inside : number < count)
        : (page limit.size dtos number).length = dtos.length :=
      (complete.totals _ (List.mem_map_of_mem (List.mem_range.mpr inside))).trans many.symm
    rcases (length_page_eq_iff limit.positive some (many ▸ covered)).mp whole with none | single
    · rw [none] at many
      exact Or.inl (List.length_eq_zero_iff.mp many.symm)
    · exact Or.inr single
  · rintro ⟨writable, few⟩
    obtain ⟨dtos, shown⟩ := sortedResponses_of_writable writable
    have many := length_of_responses shown
    refine ⟨_, pagesOf_eq stateRead tierRead shown limit count, ?_⟩
    have requests
        : ((List.range count).map (fun number =>
              ({
                tenantId := filters.tenantId
                totalMatching := (page limit.size dtos number).length
                requests := page limit.size dtos number
              } : ApprovalQueueResponse))).flatMap
            ApprovalQueueResponse.requests
          = dtos := by
      rw [List.flatMap_map]
      exact flatMap_page_of_covered (many ▸ covered)
    constructor
    · rw [requests, ← shown]
      exact (sortedMatches_perm s filters).map _
    · rw [requests]
      exact responses_latestFirst shown
    · intro response member
      obtain ⟨number, inside, rfl⟩ := List.mem_map.mp member
      refine ((length_page_eq_iff limit.positive some (many ▸ covered)).mpr ?_ number
        (List.mem_range.mp inside)).trans many
      refine few.imp_left (fun none => ?_)
      rw [none] at many
      exact List.length_eq_zero_iff.mp many

/-- Three requests that wait for their approvers. -/
def threeSubmissions : List WorkflowCall :=
  [
    .submitRequest ⟨⟨1⟩, 1, 1, ⟨⟨11⟩, 1, 1⟩, ⟨⟨12⟩, 1, 1⟩⟩ "acme" "dana" (.int 600000) "usd" "Chairs"
      none true none,
    .submitRequest ⟨⟨2⟩, 2, 2, ⟨⟨21⟩, 2, 2⟩, ⟨⟨22⟩, 2, 2⟩⟩ "acme" "dana" (.int 700000) "usd" "Desk"
      none true none,
    .submitRequest ⟨⟨3⟩, 2, 2, ⟨⟨31⟩, 2, 2⟩, ⟨⟨32⟩, 2, 2⟩⟩ "acme" "dana" (.int 800000) "usd" "Lamps"
      none true none
  ]

/-- The service after the three submissions. -/
def threeWaiting : ApprovalWorkflowService :=
  workflowMachine.exec (.initial ⟨defaultPettyflowPolicy⟩) threeSubmissions

/-- One page that is long enough is complete. -/
theorem pages_complete_iff_sample
    : ∃ responses,
        pagesOf threeWaiting ⟨"acme", some .pending, none, none⟩ (some "pending") none
            ⟨50, by decide, by decide⟩ 1
          = .ok responses
        ∧ Complete threeWaiting ⟨"acme", some .pending, none, none⟩ responses :=
  (pages_complete_iff threeWaiting ⟨"acme", some .pending, none, none⟩
      ⟨50, by decide, by decide⟩ rfl rfl (by decide) (by decide +kernel)).mpr
    ⟨by decide +kernel, Or.inr rfl⟩

/-- With pages of two requests, the first page of three requests reports two. -/
theorem short_pages_incomplete
    : ¬ ∃ responses,
        pagesOf threeWaiting ⟨"acme", none, none, none⟩ none none ⟨2, by decide, by decide⟩ 2
          = .ok responses
        ∧ Complete threeWaiting ⟨"acme", none, none, none⟩ responses := by
  rintro ⟨responses, returned, complete⟩
  have totals
      : (pagesOf threeWaiting ⟨"acme", none, none, none⟩ none none ⟨2, by decide, by decide⟩ 2).map
          (List.map ApprovalQueueResponse.totalMatching)
        = .ok [2, 1] := by
    rfl
  rw [returned] at totals
  have reported : responses.map ApprovalQueueResponse.totalMatching = [2, 1] :=
    Except.ok.inj totals
  obtain ⟨first, shown, two⟩ := List.mem_map.mp (reported ▸ List.mem_cons_self)
  obtain ⟨second, later, one⟩ :=
    List.mem_map.mp (reported ▸ List.mem_cons_of_mem _ List.mem_cons_self)
  have same := (complete.totals first shown).trans (complete.totals second later).symm
  rw [two, one] at same
  cases same

end PettyFlow.Api
