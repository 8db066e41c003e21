import Mathlib
import PettyFlow.Ledger.HashChain

/-! Chains built by appending verify: the append path signs the canonical bytes of the block
it stores, and the blocks are numbered, linked, balanced and never altered.
-/

namespace PettyFlow.Ledger

open Foundation

/-- The cache never changes what an encoding is. -/
theorem EncodeCache.getBytes_eq (cache : EncodeCache) (text : String)
    : (cache.getBytes text).1 = utf8 text := by
  unfold EncodeCache.getBytes
  cases stored : cache.entries.get? text with
  | none => rfl
  | some bytes => exact cache.coherent text bytes stored

theorem EncodeCache.getTypeBytes_eq (cache : EncodeCache) (raw : RawType)
    : (cache.getTypeBytes raw).1 = typeBytes raw := by
  unfold EncodeCache.getTypeBytes typeBytes
  split
  · rfl
  · rfl
  · rfl
  · exact cache.getBytes_eq _

/-- A leg as a block stores it. -/
def PostingLeg.payload (leg : PostingLeg) : LegPayload :=
  ⟨leg.accountId, leg.entryType.raw, leg.amountScaled⟩

/-- The loop of the append path encodes the legs that it stores, by induction over the
legs. -/
theorem encodeLegs_eq (cache : EncodeCache) (legs : List PostingLeg)
    : (encodeLegs cache legs).1
      = ((legs.map PostingLeg.payload).map LegPayload.encode,
        legs.map PostingLeg.payload) := by
  induction legs generalizing cache with
  | nil => rfl
  | cons leg rest ih =>
      simp only [encodeLegs, EncodeCache.getBytes_eq, EncodeCache.getTypeBytes_eq, ih,
        List.map_cons]
      rfl

/-- The append path signs the canonical bytes of the legs that it stores. -/
theorem encodeTransaction_eq (cache : EncodeCache) (seqNum : Int) (previousHash : Bytes)
    (tx : TransactionBatch)
    : (encodeTransaction cache seqNum previousHash tx).1
      = (computeCanonicalBytes seqNum tx.tenantId tx.transactionId tx.description
          previousHash tx.timestamp.written (tx.legs.map PostingLeg.payload),
        tx.legs.map PostingLeg.payload) := by
  simp only [encodeTransaction, EncodeCache.getBytes_eq, encodeLegs_eq,
    computeCanonicalBytes]

/-- The block that a batch becomes on a chain. -/
def nextBlock (hmac : Bytes → Bytes → Bytes) (chain : CryptographicLedgerChain)
    (tx : TransactionBatch)
    : LedgerBlock :=
  let legsPayload := tx.legs.map PostingLeg.payload
  let payload := computeCanonicalBytes (chain.blocks.length + 1) tx.tenantId
    tx.transactionId tx.description chain.previousHash tx.timestamp.written legsPayload
  {
    sequenceNumber := chain.blocks.length + 1
    tenantId := tx.tenantId
    transactionId := tx.transactionId
    description := tx.description
    legsPayload
    previousHash := chain.previousHash
    currentHash := hmac chain.secretKey payload
    timestamp := tx.timestamp.written
  }

/-- What appending a batch can do: it raises and changes nothing, or it puts the batch's
block at the end of the chain.
-/
theorem appendTransaction_cases (hmac : Bytes → Bytes → Bytes) (s : CachedChain)
    (tx : TransactionBatch)
    : (∃ error, s.appendTransaction hmac tx = (.error error, s))
      ∨ tx.tenantId = s.chain.tenantId
        ∧ tx.totalDebits = tx.totalCredits
        ∧ ∃ encodeCache,
            s.appendTransaction hmac tx
            = (.ok (nextBlock hmac s.chain tx),
              {
                encodeCache
                chain :=
                  { s.chain with blocks := s.chain.blocks ++ [nextBlock hmac s.chain tx] }
              }) := by
  unfold CachedChain.appendTransaction
  refine attempt_elim
    (motive := fun r =>
      (∃ error, r = (.error error, s))
      ∨ tx.tenantId = s.chain.tenantId
        ∧ tx.totalDebits = tx.totalCredits
        ∧ ∃ encodeCache,
            r = (.ok (nextBlock hmac s.chain tx),
              {
                encodeCache
                chain :=
                  { s.chain with blocks := s.chain.blocks ++ [nextBlock hmac s.chain tx] }
              }))
    (fun error _ => Or.inl ⟨error, rfl⟩) (fun _ passed => Or.inr ?_)
  obtain ⟨_, ownTenant, validated⟩ := bind_ok passed
  refine ⟨not_not.mp (raiseIf_ok ownTenant), tx.validateBalance_ok_iff.mp validated,
    (s.encode tx).2, ?_⟩
  simp only [CachedChain.encode, encodeTransaction_eq]
  rfl

/-- A balanced batch of the chain's tenant is never refused. -/
theorem appendTransaction_isOk (hmac : Bytes → Bytes → Bytes) {s : CachedChain}
    {tx : TransactionBatch} (own : tx.tenantId = s.chain.tenantId)
    (equal : tx.totalDebits = tx.totalCredits)
    : ∃ block, (s.appendTransaction hmac tx).1 = .ok block := by
  refine attempt_isOk_iff.mpr ⟨(), ?_⟩
  rw [raiseIf_neg (not_not.mpr own)]
  exact tx.validateBalance_ok_iff.mpr equal

/-- Blocks numbered from `number` on, each referring to the hash before it. -/
def Linked : Bytes → Int → List LedgerBlock → Prop
  | _, _, [] => True
  | previous, number, block :: rest =>
      block.previousHash = previous ∧ block.sequenceNumber = number
        ∧ Linked block.currentHash (number + 1) rest

/-- The last hash of some blocks, or the hash before them. -/
def lastHash (previous : Bytes) (blocks : List LedgerBlock) : Bytes :=
  match blocks.getLast? with
  | none => previous
  | some block => block.currentHash

theorem lastHash_cons (previous : Bytes) (block : LedgerBlock) (rest : List LedgerBlock)
    : lastHash previous (block :: rest) = lastHash block.currentHash rest := by
  unfold lastHash
  rw [List.getLast?_cons]
  cases rest.getLast? <;> rfl

/-- A chain stays linked when the next number and the last hash are used, by induction over
the blocks before.
-/
theorem linked_concat (previous : Bytes) (number : Int) (blocks : List LedgerBlock)
    (block : LedgerBlock)
    : Linked previous number (blocks ++ [block])
      ↔ Linked previous number blocks
        ∧ block.previousHash = lastHash previous blocks
        ∧ block.sequenceNumber = number + blocks.length := by
  induction blocks generalizing previous number with
  | nil => simp [Linked, lastHash]
  | cons head rest ih =>
      simp only [List.cons_append, Linked, ih, lastHash_cons, List.length_cons, and_assoc]
      have shift : number + 1 + (rest.length : Int) = number + ((rest.length + 1 : Nat) : Int) := by
        omega
      rw [shift]

/-- A balanced batch with any legs has a debit leg, since amounts are positive. -/
theorem debit_leg_exists {tx : TransactionBatch} (balanced : tx.totalDebits = tx.totalCredits)
    (some : tx.legs ≠ [])
    : ∃ leg ∈ tx.legs, leg.entryType = .member .debit := by
  by_contra none
  push Not at none
  have debits : tx.totalDebits = 0 := by
    unfold TransactionBatch.totalDebits
    rw [List.filter_eq_nil_iff.mpr (fun leg member => by simpa using none leg member)]
    rfl
  have credits : 0 < tx.totalCredits := by
    unfold TransactionBatch.totalCredits
    rw [List.filter_eq_self.mpr (fun leg member => by simpa using none leg member)]
    refine List.sum_pos _ (fun amount member => ?_) (by simpa using some)
    obtain ⟨leg, _, rfl⟩ := List.mem_map.mp member
    exact leg.amountPositive
  omega

/-- What holds of every chain built by appending. -/
structure Built (hmac : Bytes → Bytes → Bytes) (chain : CryptographicLedgerChain) : Prop where
  linked : Linked genesisPreviousHash 1 chain.blocks
  tenant : ∀ block ∈ chain.blocks, block.tenantId = chain.tenantId
  signed
    : ∀ block ∈ chain.blocks,
        block.currentHash = hmac chain.secretKey block.toCanonicalBytes
  debited
    : ∀ block ∈ chain.blocks,
        block.legsPayload ≠ []
        → ∃ leg ∈ block.legsPayload, leg.type = .text EntryType.debit.value

theorem Built.new (hmac : Bytes → Bytes → Bytes) (tenantId : String) (secretKey : Bytes)
    : Built hmac ⟨tenantId, secretKey, []⟩ :=
  ⟨trivial, nofun, nofun, nofun⟩

theorem Built.append {hmac : Bytes → Bytes → Bytes} {s : CachedChain}
    (built : Built hmac s.chain) (tx : TransactionBatch)
    : Built hmac (s.appendTransaction hmac tx).2.chain := by
  rcases appendTransaction_cases hmac s tx with ⟨error, raised⟩ | ⟨own, equal, cache, appended⟩
  · rw [raised]
    exact built
  · rw [appended]
    refine { linked := ?_, tenant := ?_, signed := ?_, debited := ?_ }
    · -- The new block takes the next number and the last hash
      rw [linked_concat]
      exact ⟨built.linked, rfl, by simp only [nextBlock]; omega⟩
    · intro block member
      rcases List.mem_append.mp member with old | new
      · exact built.tenant block old
      · rw [List.mem_singleton.mp new]
        exact own
    · intro block member
      rcases List.mem_append.mp member with old | new
      · exact built.signed block old
      · rw [List.mem_singleton.mp new]
        rfl
    · intro block member
      rcases List.mem_append.mp member with old | new
      · exact built.debited block old
      · rw [List.mem_singleton.mp new]
        intro some
        obtain ⟨leg, given, debit⟩ := debit_leg_exists equal (fun empty => some (by
          rw [nextBlock, empty]
          rfl))
        exact ⟨leg.payload, List.mem_map_of_mem given, by rw [PostingLeg.payload, debit]; rfl⟩

/-- The verification passes a block and the rest exactly when the block refers to the hash
before it, is signed, and the rest passes from its hash on.
-/
theorem verifyFrom_cons {hmac : Bytes → Bytes → Bytes} {secretKey previous : Bytes}
    {block : LedgerBlock} {rest : List LedgerBlock}
    : CryptographicLedgerChain.verifyFrom hmac secretKey previous (block :: rest) = .ok ()
      ↔ block.previousHash = previous
        ∧ block.currentHash = hmac secretKey block.toCanonicalBytes
        ∧ CryptographicLedgerChain.verifyFrom hmac secretKey block.currentHash rest
          = .ok () := by
  constructor
  · intro passed
    unfold CryptographicLedgerChain.verifyFrom at passed
    obtain ⟨_, refers, passed⟩ := bind_ok passed
    obtain ⟨_, matching, passed⟩ := bind_ok passed
    exact ⟨not_not.mp (raiseIf_ok refers), (not_not.mp (raiseIf_ok matching)).symm, passed⟩
  · rintro ⟨refers, matching, passed⟩
    unfold CryptographicLedgerChain.verifyFrom
    rw [raiseIf_neg (not_not.mpr refers), raiseIf_neg (not_not.mpr matching.symm)]
    exact passed

/-- Linked and signed blocks pass the verification, by induction over the blocks. -/
theorem verifyFrom_ok {hmac : Bytes → Bytes → Bytes} {secretKey previous : Bytes}
    {number : Int} {blocks : List LedgerBlock} (linked : Linked previous number blocks)
    (signed : ∀ block ∈ blocks, block.currentHash = hmac secretKey block.toCanonicalBytes)
    : CryptographicLedgerChain.verifyFrom hmac secretKey previous blocks = .ok () := by
  induction blocks generalizing previous number with
  | nil => rfl
  | cons block rest ih =>
      obtain ⟨refers, _, linkedRest⟩ := linked
      obtain ⟨own, signedRest⟩ := List.forall_mem_cons.mp signed
      exact verifyFrom_cons.mpr ⟨refers, own, ih linkedRest signedRest⟩

theorem Built.verified {hmac : Bytes → Bytes → Bytes} {chain : CryptographicLedgerChain}
    (built : Built hmac chain)
    : chain.verifyIntegrity hmac = .ok true := by
  unfold CryptographicLedgerChain.verifyIntegrity
  rw [verifyFrom_ok built.linked built.signed]
  rfl

/-- The amounts of the legs that a block stores under one entry type. -/
def LedgerBlock.total (block : LedgerBlock) (entryType : EntryType) : Int :=
  ((block.legsPayload.filter (fun leg => leg.type = .text entryType.value)).map
    LegPayload.amt).sum

/-- The entry type is a member of the enumeration. -/
def EntryTypeArg.IsMember (arg : EntryTypeArg) : Prop := ∃ entryType, arg = .member entryType

instance : DecidablePred EntryTypeArg.IsMember
  | .member entryType => isTrue ⟨entryType, rfl⟩
  | .text _ => isFalse nofun
  | .bytes _ => isFalse nofun

/-- All legs are typed with members of the enumeration. -/
def TransactionBatch.Typed (tx : TransactionBatch) : Prop :=
  ∀ leg ∈ tx.legs, leg.entryType.IsMember

instance (tx : TransactionBatch) : Decidable tx.Typed :=
  inferInstanceAs (Decidable (∀ leg ∈ tx.legs, leg.entryType.IsMember))

/-- Typed legs have the same totals as the legs stored for them, by induction over the
legs. -/
theorem payload_totals {legs : List PostingLeg}
    (typed : ∀ leg ∈ legs, leg.entryType.IsMember)
    : ((((legs.map PostingLeg.payload).filter
          (fun leg => leg.type = .text EntryType.debit.value)).map LegPayload.amt).sum
        = ((legs.filter (fun leg => leg.entryType = .member .debit)).map
            PostingLeg.amountScaled).sum)
      ∧ (((legs.map PostingLeg.payload).filter
          (fun leg => leg.type = .text EntryType.credit.value)).map LegPayload.amt).sum
        = ((legs.filter (fun leg => leg.entryType ≠ .member .debit)).map
            PostingLeg.amountScaled).sum := by
  induction legs with
  | nil => exact ⟨rfl, rfl⟩
  | cons leg rest ih =>
      obtain ⟨debits, credits⟩ :=
        ih (fun leg member => typed leg (List.mem_cons_of_mem _ member))
      obtain ⟨entryType, member⟩ := typed leg List.mem_cons_self
      cases entryType with
      | debit | credit =>
          simp [PostingLeg.payload, EntryTypeArg.raw, EntryType.value, member] at debits credits ⊢
          exact ⟨debits, credits⟩

theorem nextBlock_balanced (hmac : Bytes → Bytes → Bytes) (chain : CryptographicLedgerChain)
    {tx : TransactionBatch} (typed : tx.Typed) (balanced : tx.totalDebits = tx.totalCredits)
    : (nextBlock hmac chain tx).total .debit = (nextBlock hmac chain tx).total .credit := by
  obtain ⟨debits, credits⟩ := payload_totals typed
  exact debits.trans (balanced.trans credits.symm)

/-- A state reached from an empty chain of a tenant by appending typed batches. -/
structure Sound (hmac : Bytes → Bytes → Bytes) (tenantId : String) (secretKey : Bytes)
    (s : CachedChain)
    : Prop where
  tenant : s.chain.tenantId = tenantId
  key : s.chain.secretKey = secretKey
  built : Built hmac s.chain
  balanced : ∀ block ∈ s.chain.blocks, block.total .debit = block.total .credit

theorem Sound.new (hmac : Bytes → Bytes → Bytes) (encodeCache : EncodeCache)
    (tenantId : String) (secretKey : Bytes)
    : Sound hmac tenantId secretKey (.new encodeCache tenantId secretKey) :=
  { tenant := rfl, key := rfl, built := .new hmac tenantId secretKey, balanced := nofun }

/-- Acceptable batches have typed legs only. -/
def TypedBatch (_ : CachedChain) (tx : TransactionBatch) : Prop := tx.Typed

theorem admits_typed (hmac : Bytes → Bytes → Bytes) {s : CachedChain}
    {batches : List TransactionBatch} (typed : ∀ tx ∈ batches, tx.Typed)
    : (ledgerMachine hmac).Admits TypedBatch s batches := by
  rw [Machine.admits_iff_history]
  intro event member
  exact typed event.input (Machine.input_mem _ member)

theorem Sound.append {hmac : Bytes → Bytes → Bytes} {tenantId : String} {secretKey : Bytes}
    (s : CachedChain) (tx : TransactionBatch) (sound : Sound hmac tenantId secretKey s)
    (typed : TypedBatch s tx)
    : Sound hmac tenantId secretKey (s.appendTransaction hmac tx).2 := by
  have built := sound.built.append tx
  rcases appendTransaction_cases hmac s tx with ⟨error, raised⟩ | ⟨_, equal, cache, appended⟩
  · rw [raised]
    exact sound
  · rw [appended] at built ⊢
    refine { tenant := sound.tenant, key := sound.key, built, balanced := ?_ }
    intro block member
    rcases List.mem_append.mp member with old | new
    · exact sound.balanced block old
    · rw [List.mem_singleton.mp new]
      exact nextBlock_balanced hmac s.chain typed equal

theorem append_extends (hmac : Bytes → Bytes → Bytes) (s : CachedChain)
    (tx : TransactionBatch)
    : s.chain.blocks <+: (s.appendTransaction hmac tx).2.chain.blocks := by
  rcases appendTransaction_cases hmac s tx with ⟨error, raised⟩ | ⟨_, _, cache, appended⟩
  · rw [raised]
  · rw [appended]
    exact List.prefix_append _ _

/-- No run alters or removes a block. -/
theorem exec_extends (hmac : Bytes → Bytes → Bytes) (s : CachedChain)
    (batches : List TransactionBatch)
    : s.chain.blocks <+: ((ledgerMachine hmac).exec s batches).chain.blocks := by
  induction batches generalizing s with
  | nil => exact List.prefix_rfl
  | cons tx rest ih => exact (append_extends hmac s tx).trans (ih _)

/-- On every run of appended batches with typed legs: the blocks are numbered from 1 and
linked from the genesis hash; each carries the chain's tenant and balanced legs; the chain
verifies; later appends keep all blocks; a rejected batch changes nothing; and an accepted
one is signed over the canonical bytes of the block stored for it.
-/
theorem chain_sound (hmac : Bytes → Bytes → Bytes) (encodeCache : EncodeCache)
    (tenantId : String) (secretKey : Bytes) (earlier later : List TransactionBatch)
    (typed : ∀ tx ∈ earlier ++ later, tx.Typed)
    : let start := CachedChain.new encodeCache tenantId secretKey
      let reached := (ledgerMachine hmac).exec start earlier
      Linked genesisPreviousHash 1 reached.chain.blocks
      ∧ (∀ block ∈ reached.chain.blocks,
          block.tenantId = tenantId ∧ block.total .debit = block.total .credit)
      ∧ reached.chain.verifyIntegrity hmac = .ok true
      ∧ reached.chain.blocks
        <+: ((ledgerMachine hmac).exec start (earlier ++ later)).chain.blocks
      ∧ ∀ tx,
          (∀ error,
            (reached.appendTransaction hmac tx).1 = .error error
            → (reached.appendTransaction hmac tx).2 = reached)
          ∧ ∀ block,
              (reached.appendTransaction hmac tx).1 = .ok block
              → (reached.encode tx).1.1 = block.toCanonicalBytes
                ∧ block.currentHash = hmac secretKey (reached.encode tx).1.1
                ∧ (reached.appendTransaction hmac tx).2.chain.blocks
                  = reached.chain.blocks ++ [block] := by
  intro start reached
  have sound : Sound hmac tenantId secretKey reached :=
    (ledgerMachine hmac).exec_invariant Sound.append (.new hmac encodeCache tenantId secretKey)
      (admits_typed hmac (fun tx member => typed tx (List.mem_append_left _ member)))
  refine ⟨sound.built.linked, ?_, sound.built.verified, ?_, ?_⟩
  · intro block member
    exact ⟨(sound.built.tenant block member).trans sound.tenant, sound.balanced block member⟩
  · rw [Machine.exec_append]
    exact exec_extends hmac reached later
  · intro tx
    rcases appendTransaction_cases hmac reached tx with
      ⟨error, raised⟩ | ⟨_, _, cache, appended⟩
    · rw [raised]
      exact ⟨fun _ _ => rfl, nofun⟩
    · rw [appended]
      refine ⟨nofun, ?_⟩
      rintro block ⟨⟩
      -- What the append path encodes leg by leg is what the stored block comes to
      have signedBytes
          : (reached.encode tx).1.1 = (nextBlock hmac reached.chain tx).toCanonicalBytes := by
        unfold CachedChain.encode
        rw [encodeTransaction_eq]
        rfl
      refine ⟨signedBytes, ?_, rfl⟩
      rw [signedBytes, ← sound.key]
      rfl

/-- A sale of five units. -/
def sampleSale : TransactionBatch :=
  {
    transactionId := "tx-1"
    tenantId := "TENANT-A"
    description := "Sale"
    legs := [⟨"cash", .member .debit, 50000, by decide⟩, ⟨"sales", .member .credit, 50000, by decide⟩]
    timestamp := .text "2024-03-01T09:30:00"
  }

def samplePayload : Bytes :=
  utf8 "1|TENANT-A|tx-1|Sale|00000000000000000000000000000000|2024-03-01T09:30:00|cash:DEBIT:50000;sales:CREDIT:50000"

/-- The HMAC-SHA256 of `samplePayload` under the key `ledger key`. -/
def sampleDigest : Bytes :=
  [
    150, 122, 138, 147, 202, 254, 132, 68, 135, 125, 161, 126, 226, 38, 12, 105,
    53, 220, 49, 156, 53, 187, 238, 109, 166, 230, 94, 76, 233, 147, 108, 98
  ]

/-- A keyed digest without collisions that agrees with HMAC-SHA256 on the sale. -/
def sampleHmac (key payload : Bytes) : Bytes :=
  if key = utf8 "ledger key" ∧ payload = samplePayload then
    sampleDigest
  else
    List.replicate 33 0 ++ payload

/-- A sale is appended, an unbalanced batch and one of another tenant are not. -/
theorem chain_sound_sample
    : let batches :=
        [
          sampleSale,
          { sampleSale with legs := sampleSale.legs.take 1 },
          { sampleSale with tenantId := "TENANT-B" }
        ]
      let reached :=
        (ledgerMachine sampleHmac).exec (.new .empty "TENANT-A" (utf8 "ledger key")) batches
      reached.chain.blocks.map LedgerBlock.currentHash = [sampleDigest]
      ∧ reached.chain.verifyIntegrity sampleHmac = .ok true := by
  intro batches reached
  have typed : ∀ tx ∈ batches ++ [], tx.Typed := by decide
  have sound :=
    chain_sound sampleHmac .empty "TENANT-A" (utf8 "ledger key") batches [] typed
  exact ⟨by decide, sound.2.2.1⟩

end PettyFlow.Ledger
