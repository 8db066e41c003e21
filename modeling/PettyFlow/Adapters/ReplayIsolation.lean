import PettyFlow.Adapters.NetSuiteAdapter
import PettyFlow.Adapters.PlaidAdapter

/-! The posting adapters are replay caches whose keys carry no tenant, and tenants are
isolated exactly when their keys happen to differ.
-/

namespace PettyFlow.Adapters

open Foundation

structure PostingCall (entry : Type) where
  draw : Draw
  entry : entry
deriving DecidableEq

structure TransferCall where
  draw : TransferDraw
  request : ACHTransferRequest

/-- Journal posting to SAP as a posting service. -/
def sapPosting
    : Posting SAPAdapter (PostingCall SAPJournalEntry) PostingError String String
        SAPJournalEntry where
  checks call := call.entry.validateBalance
  key call := givenKey call.entry.idempotencyKey
  tenant call := call.entry.tenantId
  records s := s.posted
  owner entry := entry.tenantId
  count s := s.syncLog.length
  post s call := .ok (s.post call.draw call.entry)
  succeeds _ := true
  post_raised := nofun
  post_ok _ _ _ := ⟨_, _, rfl⟩
  post_owner := by
    rintro s call _ _ ⟨⟩
    rfl
  post_records := by
    rintro s call _ _ ⟨⟩
    cases givenKey call.entry.idempotencyKey <;> rfl
  post_count := by
    rintro s call _ _ _ ⟨⟩
    exact List.length_append

theorem sapPosting_step (s : SAPAdapter) (call : PostingCall SAPJournalEntry)
    : sapPosting.machine.step s call = s.postJournalEntry call.draw call.entry := rfl

/-- Journal posting to NetSuite as a posting service. -/
def netSuitePosting
    : Posting NetSuiteAdapter (PostingCall NetSuiteJournalEntry) PostingError String String
        NetSuiteJournalEntry where
  checks call := call.entry.validateBalance
  key call := givenKey call.entry.idempotencyKey
  tenant call := call.entry.tenantId
  records s := s.posted
  owner entry := entry.tenantId
  count s := s.syncLog.length
  post s call := .ok (s.post call.draw call.entry)
  succeeds _ := true
  post_raised := nofun
  post_ok _ _ _ := ⟨_, _, rfl⟩
  post_owner := by
    rintro s call _ _ ⟨⟩
    rfl
  post_records := by
    rintro s call _ _ ⟨⟩
    cases givenKey call.entry.idempotencyKey <;> rfl
  post_count := by
    rintro s call _ _ _ ⟨⟩
    exact List.length_append

theorem netSuitePosting_step (s : NetSuiteAdapter) (call : PostingCall NetSuiteJournalEntry)
    : netSuitePosting.machine.step s call = s.postJournalEntry call.draw call.entry := rfl

/-- A transfer is initiated whenever its amount can be written. -/
theorem initiate_isOk (draw : TransferDraw) (request : ACHTransferRequest)
    : (PlaidAdapter.initiate draw request).toBool = (amountText request.amountScaled).isSome := by
  unfold PlaidAdapter.initiate buildPain001Xml orRaise
  cases amountText request.amountScaled <;> rfl

theorem initiate_tenant {draw : TransferDraw} {request : ACHTransferRequest}
    {result : ACHTransferResult} (ok : PlaidAdapter.initiate draw request = .ok result)
    : result.tenantId = request.tenantId := by
  obtain ⟨_, _, built⟩ := bind_ok ok
  obtain rfl := Except.ok.inj built
  rfl

/-- A posted transfer is the one initiated for the request, filed under its key. -/
theorem PlaidAdapter.post_ok {s next : PlaidAdapter} {draw : TransferDraw}
    {request : ACHTransferRequest} {posted : ACHTransferResult}
    (ok : s.post draw request = .ok (posted, next))
    : PlaidAdapter.initiate draw request = .ok posted
      ∧ next = { s with transfers := s.transfers.set request.idempotencyKey posted } := by
  unfold PlaidAdapter.post at ok
  cases made : PlaidAdapter.initiate draw request with
  | error error => simp [made, Except.map] at ok
  | ok result =>
      rw [made] at ok
      obtain ⟨rfl, rfl⟩ := Prod.mk.inj (Except.ok.inj ok)
      exact ⟨rfl, rfl⟩

/-- Transfers as a posting service: the transfer is what is posted. -/
def plaidPosting
    : Posting PlaidAdapter TransferCall PostingError String String ACHTransferResult where
  checks _ := .ok ()
  key call := some call.request.idempotencyKey
  tenant call := call.request.tenantId
  records s := s.transfers
  owner result := result.tenantId
  count s := s.transfers.entries.length
  post s call := s.post call.draw call.request
  succeeds call := (amountText call.request.amountScaled).isSome
  post_raised s call fails := by
    have outcome := initiate_isOk call.draw call.request
    unfold PlaidAdapter.post
    cases made : PlaidAdapter.initiate call.draw call.request with
    | error error => exact ⟨error, rfl⟩
    | ok result =>
        rw [made, fails] at outcome
        cases outcome
  post_ok s call succeeds := by
    have outcome := initiate_isOk call.draw call.request
    unfold PlaidAdapter.post
    cases made : PlaidAdapter.initiate call.draw call.request with
    | error error =>
        rw [made, succeeds] at outcome
        cases outcome
    | ok result => exact ⟨_, _, rfl⟩
  post_owner s call posted next ok := initiate_tenant (PlaidAdapter.post_ok ok).1
  post_records s call posted next ok := by
    rw [(PlaidAdapter.post_ok ok).2]
  post_count s call posted next new ok := by
    rw [(PlaidAdapter.post_ok ok).2]
    exact Dict.length_set_new _ _ (new _ rfl)

theorem plaidPosting_step (s : PlaidAdapter) (call : TransferCall)
    : plaidPosting.machine.step s call = s.initiateTransfer call.draw call.request := rfl

/-- On every run of each adapter, the tenants get their own records only and cannot notice
each other exactly when no call files a record under a key that a later call of another
tenant looks up.
-/
theorem postings_isolated_iff
    (companyCode fiscalYear subsidiary defaultCurrency : String) (mockMode : Bool)
    (sapCalls : List (PostingCall SAPJournalEntry))
    (netSuiteCalls : List (PostingCall NetSuiteJournalEntry)) (plaidCalls : List TransferCall)
    : (sapPosting.cache.Isolated (.new companyCode fiscalYear mockMode) sapCalls
        ↔ sapPosting.cache.KeysApart sapCalls)
      ∧ (netSuitePosting.cache.Isolated (.new subsidiary defaultCurrency mockMode) netSuiteCalls
        ↔ netSuitePosting.cache.KeysApart netSuiteCalls)
      ∧ (plaidPosting.cache.Isolated (.new mockMode) plaidCalls
        ↔ plaidPosting.cache.KeysApart plaidCalls) := by
  refine ⟨?_, ?_, ?_⟩
  · exact sapPosting.cache.isolated_iff (fun _ => rfl) sapCalls
  · exact netSuitePosting.cache.isolated_iff (fun _ => rfl) netSuiteCalls
  · exact plaidPosting.cache.isolated_iff (fun _ => rfl) plaidCalls

/-- Two tenants whose replenishments refer to documents of the same name. -/
def sharedDocument : List (PostingCall SAPJournalEntry) :=
  let adapter := SAPAdapter.new "1000" "2026" true
  let today : CivilDate := ⟨2026, 8, 1⟩
  let draw : Draw := ⟨⟨0x123e4567e89b42d3a456426614174000⟩, ⟨1785542400000000⟩⟩
  [
    ⟨draw, adapter.buildReplenishmentEntry today "acme" "TX-1" 500000⟩,
    ⟨draw, adapter.buildReplenishmentEntry today "globex" "TX-1" 700000⟩
  ]

/-- The second tenant's entry is not posted, and the second tenant gets the first tenant's
entry in its place.
-/
theorem sharedDocument_not_isolated
    : ¬ sapPosting.cache.Isolated (.new "1000" "2026" true) sharedDocument := by
  intro isolated
  have own := isolated.own _ (List.mem_cons_of_mem _ List.mem_cons_self) _ rfl
  revert own
  decide

end PettyFlow.Adapters
