import PettyFlow.Foundation.Dict
import PettyFlow.Foundation.Uuid
import PettyFlow.Ledger.Entry

/-! The hash chain of a tenant's ledger: the canonical bytes of a block, the append path
with its own encoder and cache, and the verification of a chain. The keyed digest is a
parameter.
-/

namespace PettyFlow.Ledger

open Foundation

def genesisPreviousHash : Bytes := List.replicate 32 0x30

/-- The entry type of a leg as a block stores it: the text of a member, or what was given. -/
inductive RawType where
  | text (value : String)
  | bytes (value : Bytes)
deriving DecidableEq

def EntryTypeArg.raw : EntryTypeArg → RawType
  | .member entryType => .text entryType.value
  | .text value => .text value
  | .bytes value => .bytes value

@[ext]
structure LegPayload where
  acct : String
  type : RawType
  amt : Int
deriving DecidableEq

def debitBytes : Bytes := utf8 "DEBIT"
def creditBytes : Bytes := utf8 "CREDIT"

def barByte : UInt8 := 0x7C
def colonByte : UInt8 := 0x3A
def semicolonByte : UInt8 := 0x3B

/-- One leg: account, type and amount, joined with colons. -/
def joinLeg (acct type : Bytes) (amt : Int) : Bytes :=
  acct ++ colonByte :: (type ++ colonByte :: decimal amt)

/-- The legs of a block, joined with semicolons. -/
def joinLegs (parts : List Bytes) : Bytes := [semicolonByte].intercalate parts

/-- The seven fields of a block, joined with bars. -/
def joinFields (seqNum : Int) (tenant tx desc previousHash ts legs : Bytes) : Bytes :=
  decimal seqNum ++ barByte :: (tenant ++ barByte :: (tx ++ barByte :: (desc
    ++ barByte :: (previousHash ++ barByte :: (ts ++ barByte :: legs)))))

def typeBytes : RawType → Bytes
  | .text "DEBIT" => debitBytes
  | .text "CREDIT" => creditBytes
  | .bytes value => value
  | .text value => utf8 value

def LegPayload.encode (leg : LegPayload) : Bytes :=
  joinLeg (utf8 leg.acct) (typeBytes leg.type) leg.amt

/-- The bytes that are signed for a block, whose numbers are ones that can be written
(`HasDecimal`); the source raises for others.
-/
def computeCanonicalBytes (seqNum : Int) (tenantId txId description : String)
    (previousHash : Bytes) (timestamp : String) (legs : List LegPayload)
    : Bytes :=
  joinFields seqNum (utf8 tenantId) (utf8 txId) (utf8 description) previousHash
    (utf8 timestamp) (joinLegs (legs.map LegPayload.encode))

@[ext]
structure LedgerBlock where
  sequenceNumber : Int
  tenantId : String
  transactionId : String
  description : String
  legsPayload : List LegPayload
  previousHash : Bytes
  currentHash : Bytes
  timestamp : String
deriving DecidableEq

def LedgerBlock.toCanonicalBytes (block : LedgerBlock) : Bytes :=
  computeCanonicalBytes block.sequenceNumber block.tenantId block.transactionId
    block.description block.previousHash block.timestamp block.legsPayload

/-- The cache of encoded texts that the append path shares between calls. Only encodings
are ever put into it.
-/
structure EncodeCache where
  entries : Dict String Bytes
  coherent : ∀ text bytes, entries.get? text = some bytes → bytes = utf8 text

def EncodeCache.empty : EncodeCache := ⟨.empty, nofun⟩

/-- Read the encoding of a text from the cache, or encode it and keep it there. -/
def EncodeCache.getBytes (cache : EncodeCache) (text : String) : Bytes × EncodeCache :=
  match cache.entries.get? text with
  | some bytes => (bytes, cache)
  | none =>
      (utf8 text,
        {
          entries := cache.entries.set text (utf8 text)
          coherent := by
            intro other bytes stored
            rw [Dict.get?_set] at stored
            split at stored
            · rename_i same
              rw [← Option.some.inj stored, same]
            · exact cache.coherent other bytes stored
        })

/-- The entry type on the append path. -/
def EncodeCache.getTypeBytes (cache : EncodeCache) : RawType → Bytes × EncodeCache
  | .text "DEBIT" => (debitBytes, cache)
  | .text "CREDIT" => (creditBytes, cache)
  | .bytes value => (value, cache)
  | .text value => cache.getBytes value

/-- The append path's loop over the legs: their encodings and what the block stores. -/
def encodeLegs (cache : EncodeCache)
    : List PostingLeg → (List Bytes × List LegPayload) × EncodeCache
  | [] => (([], []), cache)
  | leg :: rest =>
      let (acct, cache) := cache.getBytes leg.accountId
      let (type, cache) := cache.getTypeBytes leg.entryType.raw
      let ((parts, serialized), cache) := encodeLegs cache rest
      ((joinLeg acct type leg.amountScaled :: parts,
        ⟨leg.accountId, leg.entryType.raw, leg.amountScaled⟩ :: serialized),
        cache)

/-- What the append path computes of a batch whose amounts can be written (`HasDecimal`): the
bytes to sign and the legs to store.
-/
def encodeTransaction (cache : EncodeCache) (seqNum : Int) (previousHash : Bytes)
    (tx : TransactionBatch)
    : (Bytes × List LegPayload) × EncodeCache :=
  let (tenant, cache) := cache.getBytes tx.tenantId
  let (txId, cache) := cache.getBytes tx.transactionId
  let (desc, cache) := cache.getBytes tx.description
  let (ts, cache) := cache.getBytes tx.timestamp.written
  let ((parts, serialized), cache) := encodeLegs cache tx.legs
  ((joinFields seqNum tenant txId desc previousHash ts (joinLegs parts), serialized), cache)

structure CryptographicLedgerChain where
  tenantId : String
  secretKey : Bytes
  blocks : List LedgerBlock
deriving DecidableEq

/-- A chain together with the encoder's cache. -/
structure CachedChain where
  encodeCache : EncodeCache
  chain : CryptographicLedgerChain

def CachedChain.new (encodeCache : EncodeCache) (tenantId : String) (secretKey : Bytes)
    : CachedChain :=
  ⟨encodeCache, ⟨tenantId, secretKey, []⟩⟩

namespace CryptographicLedgerChain

/-- The hash that the next block refers to. -/
def previousHash (chain : CryptographicLedgerChain) : Bytes :=
  match chain.blocks.getLast? with
  | none => genesisPreviousHash
  | some block => block.currentHash

def shortHex (hash : Bytes) : String :=
  String.ofList ((hash.flatMap (fun byte => hexDigits 2 byte.toNat)).take 8)

/-- Check the blocks against the hash that the first of them should refer to. -/
def verifyFrom (hmac : Bytes → Bytes → Bytes) (secretKey : Bytes)
    : Bytes → List LedgerBlock → Except LedgerError Unit
  | _, [] => .ok ()
  | expectedPrevHash, block :: rest => do
      raiseIf (block.previousHash ≠ expectedPrevHash)
        (.chainTampered
          s!"Chain break at block {block.sequenceNumber}! Expected previous hash {shortHex expectedPrevHash}, got {shortHex block.previousHash}")
      let computedHash := hmac secretKey block.toCanonicalBytes
      raiseIf (computedHash ≠ block.currentHash)
        (.chainTampered
          s!"Tamper detected at block {block.sequenceNumber} (tx {block.transactionId})! Computed hash {shortHex computedHash} does not match block hash {shortHex block.currentHash}")
      verifyFrom hmac secretKey block.currentHash rest

def verifyIntegrity (hmac : Bytes → Bytes → Bytes) (chain : CryptographicLedgerChain)
    : Except LedgerError Bool := do
  verifyFrom hmac chain.secretKey genesisPreviousHash chain.blocks
  return true

end CryptographicLedgerChain

namespace CachedChain

/-- The bytes and legs that the append path computes of a batch in this state. -/
def encode (s : CachedChain) (tx : TransactionBatch) : (Bytes × List LegPayload) × EncodeCache :=
  encodeTransaction s.encodeCache (s.chain.blocks.length + 1) s.chain.previousHash tx

/-- Check a batch and append its signed block to the chain. -/
def appendTransaction (hmac : Bytes → Bytes → Bytes) (s : CachedChain) (tx : TransactionBatch)
    : Except LedgerError LedgerBlock × CachedChain :=
  attempt s
    (do
      raiseIf (tx.tenantId ≠ s.chain.tenantId)
        (.valueError
          s!"Cross-tenant transaction rejected: chain belongs to tenant '{s.chain.tenantId}', transaction belongs to tenant '{tx.tenantId}'.")
      tx.validateBalance)
    (fun _ =>
      let ((payload, serialized), encodeCache) := s.encode tx
      let block : LedgerBlock := {
        sequenceNumber := s.chain.blocks.length + 1
        tenantId := tx.tenantId
        transactionId := tx.transactionId
        description := tx.description
        legsPayload := serialized
        previousHash := s.chain.previousHash
        currentHash := hmac s.chain.secretKey payload
        timestamp := tx.timestamp.written
      }
      (block, { encodeCache, chain := { s.chain with blocks := s.chain.blocks ++ [block] } }))

end CachedChain

def ledgerMachine (hmac : Bytes → Bytes → Bytes)
    : Machine CachedChain TransactionBatch (Except LedgerError LedgerBlock) :=
  ⟨CachedChain.appendTransaction hmac⟩

end PettyFlow.Ledger
