import PettyFlow.Foundation.DoubleText
import PettyFlow.Workflow.Service

/-! What the workflow service tells a tenant about its requests: one request, pages of them,
and the figures of the dashboard.
-/

namespace PettyFlow.Workflow

open Foundation

abbrev ReceiptMetadata := List (String × Json)

/-- An index of a slice as a position: negative indices count from the end. -/
def slicePosition (length : Nat) (index : Int) : Nat :=
  if index < 0 then (index + length).toNat else min index.toNat length

/-- The items of a list from one index up to another. -/
def slice {α : Type} (start stop : Int) (items : List α) : List α :=
  let first := slicePosition items.length start
  (items.drop first).take (slicePosition items.length stop - first)

/-- Digits from the last one on, with a comma after every three. -/
def commaSeparated : List Char → List Char
  | a :: b :: c :: d :: rest => a :: b :: c :: ',' :: commaSeparated (d :: rest)
  | digits => digits

/-- A decimal text with commas between the thousands. -/
def groupThousands (numeral : String) : String :=
  let sign := numeral.toList.takeWhile (· = '-')
  let unsigned := numeral.toList.dropWhile (· = '-')
  let whole := unsigned.takeWhile (· ≠ '.')
  let decimals := unsigned.dropWhile (· ≠ '.')
  String.ofList (sign ++ (commaSeparated whole.reverse).reverse ++ decimals)

/-- The numbers that are counted request by request. -/
structure SummaryCounts where
  totalCount : Nat
  pendingCount : Nat
  approvedCount : Nat
  rejectedCount : Nat
  disbursedCount : Nat
  tier1AutoCount : Nat
  tier2ManagerCount : Nat
  tier3CfoCount : Nat
  totalPendingScaled : Int
  totalApprovedScaled : Int
deriving DecidableEq

namespace SummaryCounts

def zero : SummaryCounts := ⟨0, 0, 0, 0, 0, 0, 0, 0, 0, 0⟩

def addPending (counts : SummaryCounts) (request : ApprovalRequest) : SummaryCounts :=
  let counts := {
    counts with
    pendingCount := counts.pendingCount + 1
    totalPendingScaled := counts.totalPendingScaled + request.amountScaled
  }
  if request.requiredApprovalTier = ApprovalTier.manager.value then
    { counts with tier2ManagerCount := counts.tier2ManagerCount + 1 }
  else if request.requiredApprovalTier = ApprovalTier.financeDirector.value then
    { counts with tier3CfoCount := counts.tier3CfoCount + 1 }
  else
    counts

/-- Count one request more. -/
def add (counts : SummaryCounts) (request : ApprovalRequest) : SummaryCounts :=
  let counts := { counts with totalCount := counts.totalCount + 1 }
  let counts :=
    match request.state with
    | .pending => counts.addPending request
    | .approved => {
        counts with
        approvedCount := counts.approvedCount + 1
        totalApprovedScaled := counts.totalApprovedScaled + request.amountScaled
      }
    | .rejected => { counts with rejectedCount := counts.rejectedCount + 1 }
    | .disbursed => { counts with disbursedCount := counts.disbursedCount + 1 }
    | .draft => counts
  if request.requiredApprovalTier = ApprovalTier.autoApprove.value then
    { counts with tier1AutoCount := counts.tier1AutoCount + 1 }
  else
    counts

end SummaryCounts

structure SummaryStats where
  tenantId : String
  counts : SummaryCounts
  totalPendingFormatted : String
  totalApprovedFormatted : String
deriving DecidableEq

namespace ApprovalWorkflowService

def getRequest (s : ApprovalWorkflowService) (tenantId requestId : String)
    : Except WorkflowError (ApprovalRequest × ReceiptMetadata) := do
  let request ← s.storedRequest (strip tenantId) (strip requestId)
  return (request, s.metadata.getD (strip tenantId, strip requestId) [])

/-- The requests stored for a tenant, oldest entry first. -/
def tenantRequests (s : ApprovalWorkflowService) (tenant : String)
    : List (RequestKey × ApprovalRequest) :=
  s.requests.entries.filter (fun (key, _) => key.1 = tenant)

/-- The requests of a tenant that match, the latest first; requests created at the same time
stay in their order.
-/
def matchingRequests (s : ApprovalWorkflowService) (tenantId : String)
    (state : Option ApprovalState) (tier : Option ApprovalTier) (custodianId : Option String)
    : List (ApprovalRequest × ReceiptMetadata) :=
  let matched :=
    (s.tenantRequests (strip tenantId)).filter (fun (_, request) =>
      (∀ wanted ∈ state, request.state = wanted)
      ∧ (∀ wanted ∈ tier, request.requiredApprovalTier = wanted.value)
      ∧ (∀ wanted ∈ custodianId, request.custodianId = wanted))
  (matched.map (fun (key, request) => (request, s.metadata.getD key []))).insertionSort
    (fun first later => later.1.createdAt ≤ first.1.createdAt)

def listRequests (s : ApprovalWorkflowService) (tenantId : String)
    (state : Option ApprovalState) (tier : Option ApprovalTier) (custodianId : Option String)
    (limit offset : Int)
    : List (ApprovalRequest × ReceiptMetadata) :=
  slice offset (offset + limit) (s.matchingRequests tenantId state tier custodianId)

/-- The figures of a tenant, unless a total is too large to be written. -/
def getSummaryStats (s : ApprovalWorkflowService) (tenantId : String) : Option SummaryStats := do
  let requests := (s.tenantRequests (strip tenantId)).map Prod.snd
  let counts := requests.foldl SummaryCounts.add .zero
  let pendingText ← centsText counts.totalPendingScaled
  let approvedText ← centsText counts.totalApprovedScaled
  return {
    tenantId := strip tenantId
    counts
    totalPendingFormatted := s!"${groupThousands pendingText}"
    totalApprovedFormatted := s!"${groupThousands approvedText}"
  }

end ApprovalWorkflowService

example : groupThousands "-1234567.80" = "-1,234,567.80" ∧ groupThousands "999.00" = "999.00" := by
  decide

end PettyFlow.Workflow
