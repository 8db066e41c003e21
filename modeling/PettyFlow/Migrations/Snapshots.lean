import PettyFlow.Foundation.Casing
import PettyFlow.Foundation.Digest
import PettyFlow.Foundation.Separators
import PettyFlow.Ledger.ChainIntegrity

/-! Snapshots of a tenant's postings before and after a migration: which of them are taken for the
same state, by their fields and by their digests, and what this says about the ledger.
-/

namespace PettyFlow.Migrations

open Foundation PettyFlow.Ledger

/-! ### Snapshots -/

/-- A posting as a row, in which a column may be missing. -/
structure PostingRow where
  tenantId : Option String
  entryType : Option RawType
  amountScaled : Option Int
deriving DecidableEq

/-- The entry type in capitals. Bytes in capitals equal no text. -/
def PostingRow.entryText (p : PostingRow) : Option String :=
  match p.entryType.getD (.text "") with
  | .text value => some (upper value)
  | .bytes _ => none

def PostingRow.amount (p : PostingRow) : Int := p.amountScaled.getD 0

structure LedgerSnapshotChecksum where
  tenantId : String
  totalDebitsScaled : Int
  totalCreditsScaled : Int
  postingsCount : Nat
  hashChainHead : String
  timestampUtc : String
deriving DecidableEq

namespace LedgerSnapshotChecksum

def isBalanced (s : LedgerSnapshotChecksum) : Bool := s.totalDebitsScaled = s.totalCreditsScaled

/-- The text that the digest is made of, of totals that can be written (`HasDecimal`). -/
def data (s : LedgerSnapshotChecksum) : String :=
  s!"{s.tenantId}:{s.totalDebitsScaled}:{s.totalCreditsScaled}:{s.postingsCount}:{s.hashChainHead}"

def digest (digests : Digests) (s : LedgerSnapshotChecksum) : List Char :=
  hexDigest (digests.sha256 s.data)

end LedgerSnapshotChecksum

/-- What the loop over the postings adds up. -/
structure SnapshotTotals where
  totalDebits : Int
  totalCredits : Int
  count : Nat

/-- A posting of the tenant is counted, and is added to the side that its entry type names. -/
def SnapshotTotals.add (tenantId : String) (t : SnapshotTotals) (p : PostingRow) : SnapshotTotals :=
  if p.tenantId = some tenantId then
    if p.entryText = some "DEBIT" then
      ⟨t.totalDebits + p.amount, t.totalCredits, t.count + 1⟩
    else if p.entryText = some "CREDIT" then
      ⟨t.totalDebits, t.totalCredits + p.amount, t.count + 1⟩
    else
      ⟨t.totalDebits, t.totalCredits, t.count + 1⟩
  else
    t

def computeLedgerSnapshot (tenantId : String) (postings : List PostingRow) (hashChainHead : String)
    (now : Instant)
    : LedgerSnapshotChecksum :=
  let totals := postings.foldl (SnapshotTotals.add tenantId) ⟨0, 0, 0⟩
  ⟨tenantId, totals.totalDebits, totals.totalCredits, totals.count, hashChainHead, now.isoformat⟩

def verifyStateContinuity (before after : LedgerSnapshotChecksum) : Bool :=
  before.tenantId = after.tenantId
  ∧ before.totalDebitsScaled = after.totalDebitsScaled
  ∧ before.totalCreditsScaled = after.totalCreditsScaled
  ∧ before.postingsCount = after.postingsCount
  ∧ before.hashChainHead = after.hashChainHead
  ∧ before.isBalanced
  ∧ after.isBalanced

/-! ### Digests -/

section Digests

variable {a b : LedgerSnapshotChecksum}

theorem colon_not_mem_int (n : Int) : ':' ∉ (toString n).toList := by
  intro member
  rcases mem_repr member with digit | sign
  · exact absurd digit (by decide)
  · exact absurd sign (by decide)

/-- The text of a snapshot, with the fields joined by colons. -/
theorem toList_data (s : LedgerSnapshotChecksum)
    : s.data.toList
      = (((s.tenantId.toList ++ ':' :: (toString s.totalDebitsScaled).toList)
              ++ ':' :: (toString s.totalCreditsScaled).toList)
            ++ ':' :: (toString (s.postingsCount : Int)).toList)
          ++ ':' :: s.hashChainHead.toList := by
  simp only [LedgerSnapshotChecksum.data, String.toList_append, List.append_assoc]
  rfl

/-- Without a colon in the head of the chain the text of a snapshot determines its fields. They are
read back from the last one on, as the tenant may have colons.
-/
theorem data_injective (clean : ':' ∉ a.hashChainHead.toList) (clean' : ':' ∉ b.hashChainHead.toList)
    (same : a.data = b.data)
    : a.tenantId = b.tenantId
      ∧ a.totalDebitsScaled = b.totalDebitsScaled
      ∧ a.totalCreditsScaled = b.totalCreditsScaled
      ∧ a.postingsCount = b.postingsCount
      ∧ a.hashChainHead = b.hashChainHead := by
  have texts := congrArg String.toList same
  rw [toList_data, toList_data] at texts
  obtain ⟨texts, head⟩ := split_last clean clean' texts
  obtain ⟨texts, count⟩ := split_last (colon_not_mem_int _) (colon_not_mem_int _) texts
  obtain ⟨texts, credits⟩ := split_last (colon_not_mem_int _) (colon_not_mem_int _) texts
  obtain ⟨tenant, debits⟩ := split_last (colon_not_mem_int _) (colon_not_mem_int _) texts
  have number {n n' : Int} (same : (toString n).toList = (toString n').toList) : n = n' :=
    Int.repr_injective (String.toList_injective same)
  exact ⟨String.toList_injective tenant, number debits, number credits,
    Int.natCast_inj.mp (number count), String.toList_injective head⟩

/-- Snapshots whose texts do not collide are taken for the same state exactly if their digests are
the same and they are balanced.
-/
theorem continuity_iff_digest (digests : Digests) (clean : ':' ∉ a.hashChainHead.toList)
    (clean' : ':' ∉ b.hashChainHead.toList)
    (collisionFree : digests.sha256 a.data = digests.sha256 b.data → a.data = b.data)
    : verifyStateContinuity a b = true
      ↔ a.digest digests = b.digest digests ∧ a.isBalanced = true := by
  simp only [verifyStateContinuity, decide_eq_true_eq, LedgerSnapshotChecksum.digest,
    LedgerSnapshotChecksum.isBalanced]
  constructor
  · rintro ⟨tenant, debits, credits, count, head, balanced, _⟩
    refine ⟨?_, balanced⟩
    rw [LedgerSnapshotChecksum.data, LedgerSnapshotChecksum.data, tenant, debits, credits, count,
      head]
  · rintro ⟨same, balanced⟩
    obtain ⟨tenant, debits, credits, count, head⟩ :=
      data_injective clean clean' (collisionFree (hexDigest_injective same))
    exact ⟨tenant, debits, credits, count, head, balanced, debits ▸ credits ▸ balanced⟩

end Digests

/-! ### Totals -/

/-- The amount of a row if it names the side. -/
def PostingRow.onSide (p : PostingRow) (side : String) : Int :=
  if p.entryText = some side then p.amount else 0

/-- The rows of a tenant. -/
def ownRows (tenantId : String) (postings : List PostingRow) : List PostingRow :=
  postings.filter (fun p => p.tenantId = some tenantId)

def sideTotal (side : String) (postings : List PostingRow) : Int :=
  (postings.map (·.onSide side)).sum

/-- The loop adds up the rows of the tenant, by induction over the postings. -/
theorem foldl_add (tenantId : String) (t : SnapshotTotals) (postings : List PostingRow)
    : postings.foldl (SnapshotTotals.add tenantId) t
      = ⟨t.totalDebits + sideTotal "DEBIT" (ownRows tenantId postings),
          t.totalCredits + sideTotal "CREDIT" (ownRows tenantId postings),
          t.count + (ownRows tenantId postings).length⟩ := by
  induction postings generalizing t with
  | nil => simp [sideTotal, ownRows]
  | cons p rest ih =>
      rw [List.foldl_cons, ih, SnapshotTotals.add]
      by_cases own : p.tenantId = some tenantId
      · by_cases debit : p.entryText = some "DEBIT"
        · simp [ownRows, sideTotal, PostingRow.onSide, own, debit]
          omega
        · by_cases credit : p.entryText = some "CREDIT"
          · simp [ownRows, sideTotal, PostingRow.onSide, own, credit]
            omega
          · simp [ownRows, sideTotal, PostingRow.onSide, own, debit, credit]
            omega
      · simp [ownRows, own]

theorem computeLedgerSnapshot_eq (tenantId : String) (postings : List PostingRow)
    (hashChainHead : String) (now : Instant)
    : computeLedgerSnapshot tenantId postings hashChainHead now
      = ⟨tenantId, sideTotal "DEBIT" (ownRows tenantId postings),
          sideTotal "CREDIT" (ownRows tenantId postings), (ownRows tenantId postings).length,
          hashChainHead, now.isoformat⟩ := by
  rw [computeLedgerSnapshot, foldl_add]
  simp

/-! ### Postings of a chain -/

/-- The rows of the legs that a chain's blocks record. -/
def chainPostings (chain : CryptographicLedgerChain) : List PostingRow :=
  chain.blocks.flatMap (fun block =>
    block.legsPayload.map (fun leg => ⟨some block.tenantId, some leg.type, some leg.amt⟩))

def legRow (tenantId : String) (leg : PostingLeg) : PostingRow :=
  ⟨some tenantId, some leg.entryType.raw, some leg.amountScaled⟩

/-- The batches that a chain of the tenant accepts. -/
def accepted (tenantId : String) (batches : List TransactionBatch) : List TransactionBatch :=
  batches.filter (fun tx => tx.tenantId = tenantId ∧ tx.totalDebits = tx.totalCredits)

def acceptedLegs (tenantId : String) (batches : List TransactionBatch) : List PostingLeg :=
  (accepted tenantId batches).flatMap TransactionBatch.legs

/-- An entry type that a snapshot takes for what the balance check takes it for. -/
def SnapshotAlike : EntryTypeArg → Prop
  | .member _ => True
  | .text value => upper value = "CREDIT"
  | .bytes _ => False

instance : DecidablePred SnapshotAlike
  | .member _ => isTrue trivial
  | .text value => inferInstanceAs (Decidable (upper value = "CREDIT"))
  | .bytes _ => isFalse id

section Chain

variable (hmac : Bytes → Bytes → Bytes)

/-- A chain has the postings of the batches that it has accepted, by induction from the last. -/
theorem chainPostings_exec (encodeCache : EncodeCache) (tenantId : String) (secretKey : Bytes)
    (batches : List TransactionBatch)
    : let s := (ledgerMachine hmac).exec (.new encodeCache tenantId secretKey) batches
      s.chain.tenantId = tenantId
      ∧ chainPostings s.chain = (acceptedLegs tenantId batches).map (legRow tenantId) := by
  induction batches using List.reverseRecOn with
  | nil => exact ⟨rfl, rfl⟩
  | append_singleton batches tx ih =>
      obtain ⟨tenant, postings⟩ := ih
      rw [Machine.exec_concat]
      generalize (ledgerMachine hmac).exec (.new encodeCache tenantId secretKey) batches = s at *
      change (s.appendTransaction hmac tx).2.chain.tenantId = tenantId
        ∧ chainPostings (s.appendTransaction hmac tx).2.chain = _
      rw [acceptedLegs, accepted, List.filter_append, List.flatMap_append, List.map_append,
        ← accepted, ← acceptedLegs, ← postings]
      by_cases accepts : tx.tenantId = tenantId ∧ tx.totalDebits = tx.totalCredits
      · obtain ⟨block, made⟩ :=
          appendTransaction_isOk hmac (accepts.1.trans tenant.symm) accepts.2
        rcases appendTransaction_cases hmac s tx with ⟨error, raised⟩ | ⟨_, _, cache, appended⟩
        · rw [raised] at made
          cases made
        · rw [appended]
          refine ⟨tenant, ?_⟩
          simp [chainPostings, nextBlock, accepts.1, accepts.2, legRow, PostingLeg.payload]
      · rcases appendTransaction_cases hmac s tx with ⟨error, raised⟩ | ⟨own, equal, _⟩
        · rw [raised]
          refine ⟨tenant, ?_⟩
          simp [accepts]
        · exact absurd ⟨own.trans tenant, equal⟩ accepts

end Chain

/-! ### Balance -/

/-- What a snapshot counts a leg as, debits less credits, beyond what the balance check counts. -/
def drift (leg : PostingLeg) : Int :=
  (legRow "" leg).onSide "DEBIT" - (legRow "" leg).onSide "CREDIT"
    - (if leg.entryType = .member .debit then leg.amountScaled else -leg.amountScaled)

/-- Whatever a snapshot takes for something else makes the debits look larger. -/
theorem drift_nonneg (leg : PostingLeg)
    : 0 ≤ drift leg ∧ (drift leg = 0 ↔ SnapshotAlike leg.entryType) := by
  have positive := leg.amountPositive
  unfold drift PostingRow.onSide PostingRow.entryText PostingRow.amount legRow SnapshotAlike
  cases entryType : leg.entryType with
  | member side =>
      cases side with
      | debit =>
          have capital : upper EntryType.debit.value = "DEBIT" := by decide
          simp [EntryTypeArg.raw, capital]
      | credit =>
          have capital : upper EntryType.credit.value = "CREDIT" := by decide
          simp [EntryTypeArg.raw, capital]
  | text value =>
      by_cases credit : upper value = "CREDIT"
      · simp [EntryTypeArg.raw, credit]
      · by_cases debit : upper value = "DEBIT"
        · simp [EntryTypeArg.raw, debit]
          omega
        · simp [EntryTypeArg.raw, debit, credit]
          omega
  | bytes value =>
      simp [EntryTypeArg.raw]
      omega

/-- What the balance check counts some legs as, debits less credits. -/
def checkedNet (legs : List PostingLeg) : Int :=
  (legs.map (fun leg =>
    if leg.entryType = .member .debit then leg.amountScaled else -leg.amountScaled)).sum

theorem checkedNet_batch (tx : TransactionBatch)
    : checkedNet tx.legs = tx.totalDebits - tx.totalCredits := by
  unfold checkedNet TransactionBatch.totalDebits TransactionBatch.totalCredits
  induction tx.legs with
  | nil => rfl
  | cons leg rest ih =>
      by_cases debit : leg.entryType = .member .debit
      · simp [debit] at ih ⊢
        omega
      · simp [debit] at ih ⊢
        omega

/-- Accepted batches balance, so their legs do. -/
theorem checkedNet_accepted (tenantId : String) (batches : List TransactionBatch)
    : checkedNet (acceptedLegs tenantId batches) = 0 := by
  induction batches with
  | nil => rfl
  | cons tx rest ih =>
      by_cases accepts : tx.tenantId = tenantId ∧ tx.totalDebits = tx.totalCredits
      · have split : acceptedLegs tenantId (tx :: rest) = tx.legs ++ acceptedLegs tenantId rest := by
          simp [acceptedLegs, accepted, accepts]
        have balanced := checkedNet_batch tx
        rw [split, checkedNet, List.map_append, List.sum_append, ← checkedNet, ← checkedNet, ih]
        omega
      · have skipped : acceptedLegs tenantId (tx :: rest) = acceptedLegs tenantId rest := by
          simp [acceptedLegs, accepted, accepts]
        rw [skipped, ih]

theorem sideTotals_legs (tenantId : String) (legs : List PostingLeg)
    : sideTotal "DEBIT" (legs.map (legRow tenantId))
        - sideTotal "CREDIT" (legs.map (legRow tenantId))
      = (legs.map drift).sum + checkedNet legs := by
  unfold sideTotal checkedNet
  induction legs with
  | nil => rfl
  | cons leg rest ih =>
      have here
          : drift leg
            = (legRow tenantId leg).onSide "DEBIT" - (legRow tenantId leg).onSide "CREDIT"
              - (if leg.entryType = .member .debit then leg.amountScaled else -leg.amountScaled) :=
        rfl
      simp only [List.map_cons, List.sum_cons] at ih ⊢
      omega

/-- The postings of accepted batches balance exactly if every leg is taken for what it was checked
as.
-/
theorem postings_balanced_iff (tenantId : String) (batches : List TransactionBatch)
    : sideTotal "DEBIT" ((acceptedLegs tenantId batches).map (legRow tenantId))
        = sideTotal "CREDIT" ((acceptedLegs tenantId batches).map (legRow tenantId))
      ↔ ∀ leg ∈ acceptedLegs tenantId batches, SnapshotAlike leg.entryType := by
  have net := sideTotals_legs tenantId (acceptedLegs tenantId batches)
  rw [checkedNet_accepted, add_zero] at net
  rw [← sub_eq_zero, net]
  constructor
  · intro none_ leg member
    have zero := List.all_zero_of_le_zero_le_of_sum_eq_zero
      (fun d listed => by
        obtain ⟨leg, _, rfl⟩ := List.mem_map.mp listed
        exact (drift_nonneg leg).1)
      none_ (List.mem_map_of_mem member)
    exact (drift_nonneg leg).2.mp zero
  · intro alike
    refine List.sum_eq_zero (fun d listed => ?_)
    obtain ⟨leg, member, rfl⟩ := List.mem_map.mp listed
    exact (drift_nonneg leg).2.mpr (alike leg member)

/-! ### Continuity -/

/-- A table holds the postings of a chain in some order, and postings of other tenants. -/
def HoldsRows (tenantId : String) (table : List PostingRow) (chain : CryptographicLedgerChain)
    : Prop :=
  (ownRows tenantId table).Perm (chainPostings chain)

theorem snapshot_of_holds {tenantId : String} {table : List PostingRow}
    {chain : CryptographicLedgerChain} (holds : HoldsRows tenantId table chain)
    (hashChainHead : String)
    (now : Instant)
    : computeLedgerSnapshot tenantId table hashChainHead now
      = ⟨tenantId, sideTotal "DEBIT" (chainPostings chain),
          sideTotal "CREDIT" (chainPostings chain), (chainPostings chain).length, hashChainHead,
          now.isoformat⟩ := by
  rw [computeLedgerSnapshot_eq]
  congr 1
  · exact (holds.map _).sum_eq
  · exact (holds.map _).sum_eq
  · exact holds.length_eq

/-- However a table orders the postings of a tenant's chain, and whatever other tenants have in it:
a snapshot is balanced exactly if every leg on the chain has a member of the enumeration, or spells a
credit, as its entry type; and snapshots before and after more batches are taken for the same state
exactly if the first one is balanced, the head is the same and no batch with legs was accepted in
between.
-/
theorem snapshots_continue_iff (hmac : Bytes → Bytes → Bytes) (encodeCache : EncodeCache)
    (tenantId : String) (secretKey : Bytes) (first later : List TransactionBatch)
    (head head' : String) (now now' : Instant) (table table' : List PostingRow)
    (holds
      : HoldsRows tenantId table
          ((ledgerMachine hmac).exec (.new encodeCache tenantId secretKey) first).chain)
    (holds'
      : HoldsRows tenantId table'
          ((ledgerMachine hmac).exec (.new encodeCache tenantId secretKey)
            (first ++ later)).chain)
    : ((computeLedgerSnapshot tenantId table head now).isBalanced = true
        ↔ ∀ tx ∈ accepted tenantId first, ∀ leg ∈ tx.legs, SnapshotAlike leg.entryType)
      ∧ (verifyStateContinuity (computeLedgerSnapshot tenantId table head now)
            (computeLedgerSnapshot tenantId table' head' now') = true
        ↔ head = head'
          ∧ (∀ tx ∈ accepted tenantId later, tx.legs = [])
          ∧ ∀ tx ∈ accepted tenantId first, ∀ leg ∈ tx.legs, SnapshotAlike leg.entryType) := by
  have postings := (chainPostings_exec hmac encodeCache tenantId secretKey first).2
  have postings' := (chainPostings_exec hmac encodeCache tenantId secretKey (first ++ later)).2
  have legs : acceptedLegs tenantId (first ++ later)
      = acceptedLegs tenantId first ++ acceptedLegs tenantId later := by
    rw [acceptedLegs, accepted, List.filter_append, List.flatMap_append]
    rfl
  have alike
      : (∀ leg ∈ acceptedLegs tenantId first, SnapshotAlike leg.entryType)
        ↔ ∀ tx ∈ accepted tenantId first, ∀ leg ∈ tx.legs, SnapshotAlike leg.entryType := by
    simp only [acceptedLegs, List.mem_flatMap]
    exact ⟨fun all tx member leg listed => all leg ⟨tx, member, listed⟩,
      fun all leg ⟨tx, member, listed⟩ => all tx member leg listed⟩
  have none_
      : (∀ tx ∈ accepted tenantId later, tx.legs = []) ↔ acceptedLegs tenantId later = [] := by
    rw [acceptedLegs, List.flatMap_eq_nil_iff]
  rw [snapshot_of_holds holds, snapshot_of_holds holds', postings, postings', none_, ← alike,
    ← postings_balanced_iff]
  simp only [verifyStateContinuity, LedgerSnapshotChecksum.isBalanced, decide_eq_true_eq]
  refine ⟨trivial, ?_, ?_⟩
  · rintro ⟨_, _, _, count, same, balanced, _⟩
    refine ⟨same, ?_, balanced⟩
    rw [legs, List.length_map, List.length_map, List.length_append] at count
    exact List.length_eq_zero_iff.mp (by omega)
  · rintro ⟨same, unposted, balanced⟩
    rw [legs, unposted, List.append_nil]
    exact ⟨trivial, rfl, rfl, rfl, same, balanced, balanced⟩

section Sample

/-- Rent, with a credit whose type comes as a text. -/
def textRent : TransactionBatch where
  transactionId := "TX-1"
  tenantId := "acme"
  description := "Rent"
  legs := [⟨"RENT", .member .debit, 700, by decide⟩, ⟨"CASH", .text "Credit", 700, by decide⟩]
  timestamp := .text "2026-05-01T00:00:00"

/-- The rows of the rent in another order, behind a row of another tenant. -/
def rentTable : List PostingRow :=
  [
    ⟨some "globex", some (.text "DEBIT"), some 5⟩, ⟨some "acme", some (.text "Credit"), some 700⟩,
    ⟨some "acme", some (.text "DEBIT"), some 700⟩
  ]

/-- The snapshot of these rows at a time. -/
def rentSnapshot (timestampUtc : String) : LedgerSnapshotChecksum :=
  ⟨"acme", 700, 700, 2, "head", timestampUtc⟩

/-- The digests of the text of this snapshot. -/
def rentDigests : Digests :=
  ⟨fun _ => 0x0add74bc30c59127ead9efc00b1fc58cbcdb9e1788066eb5280ae91736ed1e26#256,
    fun _ => 0xdfa3088750d65478869d061ba8fb21a8#128⟩

theorem continuity_iff_digest_sample
    : verifyStateContinuity (rentSnapshot "2026-05-01") (rentSnapshot "2026-05-02") = true
      ↔ (rentSnapshot "2026-05-01").digest rentDigests
        = (rentSnapshot "2026-05-02").digest rentDigests
        ∧ (rentSnapshot "2026-05-01").isBalanced = true :=
  continuity_iff_digest rentDigests (by decide) (by decide) (fun _ => rfl)

theorem snapshots_continue_iff_sample
    : ((computeLedgerSnapshot "acme" rentTable "head" ⟨0⟩).isBalanced = true
        ↔ ∀ tx ∈ accepted "acme" [textRent], ∀ leg ∈ tx.legs, SnapshotAlike leg.entryType)
      ∧ (verifyStateContinuity (computeLedgerSnapshot "acme" rentTable "head" ⟨0⟩)
            (computeLedgerSnapshot "acme" rentTable.reverse "head" ⟨1⟩) = true
        ↔ "head" = "head"
          ∧ (∀ tx ∈ accepted "acme" [], tx.legs = [])
          ∧ ∀ tx ∈ accepted "acme" [textRent], ∀ leg ∈ tx.legs, SnapshotAlike leg.entryType) :=
  snapshots_continue_iff (fun _ _ => []) .empty "acme" [] [textRent] [] "head" "head" ⟨0⟩ ⟨1⟩
    rentTable rentTable.reverse (by unfold HoldsRows; decide +kernel)
    (by unfold HoldsRows; decide +kernel)

end Sample

end PettyFlow.Migrations
