import PettyFlow.Foundation.Matching
import PettyFlow.Ledger.CanonicalBytes
import PettyFlow.Ledger.ChainIntegrity

/-! Which alterations of a chain the verification notices. It recomputes the digests of the
stored blocks, so that it notices exactly what changes their canonical bytes.
-/

namespace PettyFlow.Ledger

open Foundation

/-- A copy of some blocks with other contents under the same hashes. -/
def Altered (blocks copy : List LedgerBlock) : Prop :=
  List.Forall₂ LedgerBlock.Retouched blocks copy ∧ copy ≠ blocks

/-- The digests of blocks and their copies do not collide under the key. -/
def CollisionFree (hmac : Bytes → Bytes → Bytes) (secretKey : Bytes)
    (blocks copy : List LedgerBlock)
    : Prop :=
  List.Forall₂
    (fun block copied =>
      hmac secretKey copied.toCanonicalBytes = hmac secretKey block.toCanonicalBytes
      → copied.toCanonicalBytes = block.toCanonicalBytes)
    blocks copy

/-- The verification of the chain with other blocks raises the exception for tampering. -/
def Raises (hmac : Bytes → Bytes → Bytes) (chain : CryptographicLedgerChain)
    (copy : List LedgerBlock)
    : Prop :=
  ∃ message, ({ chain with blocks := copy } : CryptographicLedgerChain).verifyIntegrity hmac
    = .error (.chainTampered message)

/-- Every altered copy without collisions is noticed. -/
def DetectsTampering (hmac : Bytes → Bytes → Bytes) (chain : CryptographicLedgerChain) : Prop :=
  ∀ copy,
    Altered chain.blocks copy
    → CollisionFree hmac chain.secretKey chain.blocks copy
    → Raises hmac chain copy

/-- The verification passes or raises the exception for tampering, by induction over the
blocks.
-/
theorem verifyFrom_outcome (hmac : Bytes → Bytes → Bytes) (secretKey previous : Bytes)
    (blocks : List LedgerBlock)
    : CryptographicLedgerChain.verifyFrom hmac secretKey previous blocks = .ok ()
      ∨ ∃ message, CryptographicLedgerChain.verifyFrom hmac secretKey previous blocks
          = .error (.chainTampered message) := by
  induction blocks generalizing previous with
  | nil => exact Or.inl rfl
  | cons block rest ih =>
      unfold CryptographicLedgerChain.verifyFrom
      by_cases refers : block.previousHash = previous
      · rw [raiseIf_neg (not_not.mpr refers)]
        by_cases signed : hmac secretKey block.toCanonicalBytes = block.currentHash
        · rw [raiseIf_neg (not_not.mpr signed)]
          exact ih block.currentHash
        · rw [raiseIf_pos signed]
          exact Or.inr ⟨_, rfl⟩
      · rw [raiseIf_pos refers]
        exact Or.inr ⟨_, rfl⟩

/-- Where the blocks pass, a copy under the same hashes passes exactly when it has the same
digests, by induction over the two lists.
-/
theorem verifyFrom_copy {hmac : Bytes → Bytes → Bytes} {secretKey previous : Bytes}
    {blocks copy : List LedgerBlock} (retouched : List.Forall₂ LedgerBlock.Retouched blocks copy)
    (passed : CryptographicLedgerChain.verifyFrom hmac secretKey previous blocks = .ok ())
    : CryptographicLedgerChain.verifyFrom hmac secretKey previous copy = .ok ()
      ↔ List.Forall₂
          (fun block copied =>
            hmac secretKey copied.toCanonicalBytes = hmac secretKey block.toCanonicalBytes)
          blocks copy := by
  induction retouched generalizing previous with
  | nil => simp [CryptographicLedgerChain.verifyFrom]
  | cons head _ ih =>
      obtain ⟨refers, signed, passedRest⟩ := verifyFrom_cons.mp passed
      rw [verifyFrom_cons, List.forall₂_cons, head.1, head.2, ih passedRest, ← signed]
      simp [refers, eq_comm]

theorem raises_iff {hmac : Bytes → Bytes → Bytes} {chain : CryptographicLedgerChain}
    {copy : List LedgerBlock}
    : Raises hmac chain copy
      ↔ CryptographicLedgerChain.verifyFrom hmac chain.secretKey genesisPreviousHash copy
        ≠ .ok () := by
  unfold Raises CryptographicLedgerChain.verifyIntegrity
  dsimp only
  rcases verifyFrom_outcome hmac chain.secretKey genesisPreviousHash copy with
    passed | ⟨message, raised⟩
  · rw [passed]
    exact ⟨nofun, fun fails => absurd rfl fails⟩
  · rw [raised]
    exact ⟨nofun, fun _ => ⟨message, rfl⟩⟩

/-- On a built chain, an altered copy without collisions goes unnoticed exactly when every
copied block has the canonical bytes of its original.
-/
theorem Built.unnoticed_iff {hmac : Bytes → Bytes → Bytes} {chain : CryptographicLedgerChain}
    (built : Built hmac chain) {copy : List LedgerBlock}
    (retouched : List.Forall₂ LedgerBlock.Retouched chain.blocks copy)
    (collisionFree : CollisionFree hmac chain.secretKey chain.blocks copy)
    : ¬ Raises hmac chain copy
      ↔ List.Forall₂
          (fun block copied => copied.toCanonicalBytes = block.toCanonicalBytes)
          chain.blocks copy := by
  rw [raises_iff, not_not, verifyFrom_copy retouched (verifyFrom_ok built.linked built.signed)]
  constructor
  · exact fun same => List.Forall₂.mp (fun _ _ free => free) collisionFree same
  · exact fun same => same.imp (fun _ _ same => by rw [same])

/-- Where the canonical bytes determine the blocks, an alteration is noticed. -/
theorem Built.raises_of_unique {hmac : Bytes → Bytes → Bytes} {chain : CryptographicLedgerChain}
    (built : Built hmac chain) {copy : List LedgerBlock} (altered : Altered chain.blocks copy)
    (collisionFree : CollisionFree hmac chain.secretKey chain.blocks copy)
    (unique
      : ∀ block ∈ chain.blocks,
          ∀ copied ∈ copy,
            block.Retouched copied
            → copied.toCanonicalBytes = block.toCanonicalBytes
            → copied = block)
    : Raises hmac chain copy := by
  by_contra unnoticed
  have same := (built.unnoticed_iff altered.1 collisionFree).mp unnoticed
  have related := List.Forall₂.mp (fun _ _ => And.intro) altered.1 same
  exact altered.2 (Matching.eq_of_unique related (fun block stored copied member both =>
    unique block stored copied member both.1 both.2))

/-- A block with a disguise gives an alteration that goes unnoticed. -/
theorem Built.unnoticed {hmac : Bytes → Bytes → Bytes} {chain : CryptographicLedgerChain}
    (built : Built hmac chain) {before after : List LedgerBlock} {block copy : LedgerBlock}
    (blocks : chain.blocks = before ++ block :: after) (disguise : block.Disguise copy)
    : Altered chain.blocks (before ++ copy :: after)
      ∧ CollisionFree hmac chain.secretKey chain.blocks (before ++ copy :: after)
      ∧ ¬ Raises hmac chain (before ++ copy :: after) := by
  obtain ⟨retouched, differs, same⟩ := disguise
  have everyRetouched
      : List.Forall₂ LedgerBlock.Retouched chain.blocks (before ++ copy :: after) := by
    rw [blocks]
    exact Matching.middle (fun _ => ⟨rfl, rfl⟩) before after retouched
  have everySame
      : List.Forall₂ (fun block copied => copied.toCanonicalBytes = block.toCanonicalBytes)
          chain.blocks (before ++ copy :: after) := by
    rw [blocks]
    exact Matching.middle
      (R := fun block copied => copied.toCanonicalBytes = block.toCanonicalBytes)
      (fun _ => rfl) before after same
  have collisionFree
      : CollisionFree hmac chain.secretKey chain.blocks (before ++ copy :: after) := by
    refine List.Forall₂.imp ?_ everySame
    intro _ _ same _
    exact same
  refine ⟨⟨everyRetouched, ?_⟩, collisionFree, ?_⟩
  · intro equal
    rw [blocks] at equal
    exact differs (List.cons.inj (List.append_cancel_left equal)).1
  · exact (built.unnoticed_iff everyRetouched collisionFree).mpr everySame

/-- Merging two neighbouring legs of a block is never noticed. -/
theorem Built.merge_unnoticed {hmac : Bytes → Bytes → Bytes} {chain : CryptographicLedgerChain}
    (built : Built hmac chain) {before after : List LedgerBlock} {block : LedgerBlock}
    (blocks : chain.blocks = before ++ block :: after) {front back : List LegPayload}
    {first second : LegPayload} (legs : block.legsPayload = front ++ first :: second :: back)
    {firstType : String} (type : first.type = .text firstType)
    : Altered chain.blocks (before ++ block.mergeLegs front first firstType second back :: after)
      ∧ ¬ Raises hmac chain
          (before ++ block.mergeLegs front first firstType second back :: after) := by
  obtain ⟨altered, _, quiet⟩ := built.unnoticed blocks (block.disguise_merge legs type)
  exact ⟨altered, quiet⟩

/-- The chain after a run of appends from an empty chain. -/
def builtChain (hmac : Bytes → Bytes → Bytes) (encodeCache : EncodeCache) (tenantId : String)
    (secretKey : Bytes) (batches : List TransactionBatch)
    : CryptographicLedgerChain :=
  ((ledgerMachine hmac).exec (.new encodeCache tenantId secretKey) batches).chain

theorem builtChain_built (hmac : Bytes → Bytes → Bytes) (encodeCache : EncodeCache)
    (tenantId : String) (secretKey : Bytes) (batches : List TransactionBatch)
    : Built hmac (builtChain hmac encodeCache tenantId secretKey batches) := by
  have anyBatch
      : (ledgerMachine hmac).Admits (fun _ _ => True)
          (.new encodeCache tenantId secretKey) batches :=
    ((ledgerMachine hmac).admits_iff_history _ _).mpr (fun _ _ => trivial)
  exact (ledgerMachine hmac).exec_invariant (motive := fun s => Built hmac s.chain)
    (fun _ tx built _ => built.append tx) (.new hmac tenantId secretKey) anyBatch

/-- On every built chain, all alterations without collisions are noticed exactly when every
block is sealed. On any built chain those between blocks without separators in their texts
are noticed.
-/
theorem tampering_detected_iff (hmac : Bytes → Bytes → Bytes) (encodeCache : EncodeCache)
    (tenantId : String) (secretKey : Bytes) (batches : List TransactionBatch)
    : let chain := builtChain hmac encodeCache tenantId secretKey batches
      (DetectsTampering hmac chain ↔ ∀ block ∈ chain.blocks, block.Sealed)
      ∧ ∀ copy,
          Altered chain.blocks copy
          → CollisionFree hmac chain.secretKey chain.blocks copy
          → (∀ block ∈ chain.blocks, block.SeparatorFree)
          → (∀ block ∈ copy, block.SeparatorFree)
          → Raises hmac chain copy := by
  intro chain
  have built : Built hmac chain :=
    builtChain_built hmac encodeCache tenantId secretKey batches
  refine ⟨⟨?_, ?_⟩, ?_⟩
  · intro detects block stored
    by_contra opened
    obtain ⟨copy, disguise⟩ := LedgerBlock.exists_disguise (built.debited block stored) opened
    obtain ⟨before, after, blocks⟩ := List.append_of_mem stored
    obtain ⟨altered, collisionFree, quiet⟩ := built.unnoticed blocks disguise
    exact quiet (detects _ altered collisionFree)
  · intro closed copy altered collisionFree
    exact built.raises_of_unique altered collisionFree
      (fun block stored _ _ => (closed block stored).unique)
  · intro copy altered collisionFree free copyFree
    exact built.raises_of_unique altered collisionFree
      (fun block stored copied member => (free block stored).unique (copyFree copied member))

theorem sampleHmac_injective (key : Bytes) : Function.Injective (sampleHmac key) := by
  have digestLength : sampleDigest.length = 32 := rfl
  intro first second same
  unfold sampleHmac at same
  split at same <;> split at same
  · rename_i one two
    rw [one.2, two.2]
  · have lengths := congrArg List.length same
    rw [List.length_append, List.length_replicate, digestLength] at lengths
    omega
  · have lengths := congrArg List.length same
    rw [List.length_append, List.length_replicate, digestLength] at lengths
    omega
  · exact List.append_cancel_left same

/-- The chain with one sale. -/
def sampleChain : CryptographicLedgerChain :=
  builtChain sampleHmac .empty "TENANT-A" (utf8 "ledger key") [sampleSale]

/-- The block of the sale. -/
def sampleBlock : LedgerBlock :=
  nextBlock sampleHmac ⟨"TENANT-A", utf8 "ledger key", []⟩ sampleSale

theorem sampleChain_blocks : sampleChain.blocks = [sampleBlock] := rfl

/-- The legs of the sale, with a debit of some amount. -/
def sampleLegs (debit : Int) : List LegPayload :=
  [⟨"cash", .text "DEBIT", debit⟩, ⟨"sales", .text "CREDIT", 50000⟩]

theorem sampleBlock_free (debit : Int)
    : ({ sampleBlock with legsPayload := sampleLegs debit } : LedgerBlock).SeparatorFree := by
  have cash : LegPayload.SeparatorFree ⟨"cash", .text "DEBIT", debit⟩ := by
    have clean : ':' ∉ "cash".toList ∧ ';' ∉ "cash".toList := by decide
    exact ⟨clean.1, clean.2, "DEBIT", rfl, by decide, by decide⟩
  have sales : LegPayload.SeparatorFree ⟨"sales", .text "CREDIT", 50000⟩ :=
    ⟨by decide, by decide, "CREDIT", rfl, by decide, by decide⟩
  have texts : sampleBlock.CleanHeader := ⟨by decide, by decide, by decide⟩
  have time : '|' ∉ sampleBlock.timestamp.toList := by decide
  exact ⟨⟨texts.tenant, texts.transaction, texts.description⟩, time,
    List.forall_mem_cons.mpr ⟨cash, List.forall_mem_singleton.mpr sales⟩⟩

/-- A copy of the sale with a higher debit is noticed. -/
theorem tampering_detected_iff_sample
    : Raises sampleHmac sampleChain [{ sampleBlock with legsPayload := sampleLegs 51000 }] := by
  refine (tampering_detected_iff sampleHmac .empty "TENANT-A" (utf8 "ledger key")
    [sampleSale]).2 _ ⟨?_, ?_⟩ ?_ ?_ ?_
  · exact .cons ⟨rfl, rfl⟩ .nil
  · decide
  · exact .cons (fun same => sampleHmac_injective _ same) .nil
  · exact List.forall_mem_singleton.mpr (sampleBlock_free 50000)
  · exact List.forall_mem_singleton.mpr (sampleBlock_free 51000)

/-- One leg with an account that spells the debit in front of its own account has the bytes
of both legs of the sale.
-/
theorem mergedLegs_unnoticed
    : let merged : LedgerBlock :=
        {
          sampleBlock with
          legsPayload := [⟨"cash:DEBIT:50000;sales", .text "CREDIT", 50000⟩]
        }
      Function.Injective (sampleHmac sampleChain.secretKey)
      ∧ Altered sampleChain.blocks [merged]
      ∧ ({ sampleChain with blocks := [merged] } : CryptographicLedgerChain).verifyIntegrity
          sampleHmac
        = .ok true := by
  intro merged
  refine ⟨sampleHmac_injective _, ⟨?_, ?_⟩, ?_⟩
  · rw [sampleChain_blocks]
    exact .cons ⟨rfl, rfl⟩ .nil
  · rw [sampleChain_blocks]
    decide
  · decide

end PettyFlow.Ledger
