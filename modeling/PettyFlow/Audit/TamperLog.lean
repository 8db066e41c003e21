import PettyFlow.Foundation.Bytes
import PettyFlow.Foundation.Casing
import PettyFlow.Foundation.Clock
import PettyFlow.Foundation.Dict
import PettyFlow.Foundation.Json
import PettyFlow.Foundation.Machine

/-! The write-once audit log: for each tenant a list of entries, each signed together with
the hash of the entry before it. The keyed digest is a parameter.
-/

namespace PettyFlow.Audit

open Foundation

def genesisHash : String := String.ofList (List.replicate 64 '0')

structure AuditEntry where
  entryId : String
  sequenceNumber : Int
  tenantId : String
  eventType : String
  actorId : String
  payloadJson : String
  timestamp : String
  prevHash : String
  currentHash : String
deriving DecidableEq

/-- The exceptions of the verification, by class, with their texts. -/
inductive AuditError where
  | integrity (message : String)
  | typeError (message : String)
deriving DecidableEq

structure WORMAuditLogger where
  secret : Bytes
  store : Dict String (List AuditEntry)
deriving DecidableEq

namespace WORMAuditLogger

def new (secret : Bytes) : WORMAuditLogger := ⟨secret, .empty⟩

def computeHash (hmac : Bytes → Bytes → Bytes) (s : WORMAuditLogger) (prevHash : String)
    (sequenceNumber : Int) (tenantId eventType actorId payloadJson timestamp : String)
    : String :=
  let material :=
    s!"{prevHash}|{sequenceNumber}|{tenantId}|{eventType}|{actorId}|{payloadJson}|{timestamp}"
  String.ofList ((hmac s.secret (utf8 material)).flatMap (fun byte => hexDigits 2 byte.toNat))

def getEntries (s : WORMAuditLogger) (tenantId : String) : List AuditEntry :=
  s.store.getD tenantId []

/-- Append an event to the tenant's entries. Its integers are ones that can be written
(`HasDecimal`); the source raises for others.
-/
def appendEvent (hmac : Bytes → Bytes → Bytes) (s : WORMAuditLogger) (draw : Draw)
    (tenantId eventType actorId : String) (payload : Json)
    : AuditEntry × WORMAuditLogger :=
  let entries := s.getEntries tenantId
  let sequenceNumber : Int := entries.length + 1
  let prevHash :=
    match entries.getLast? with
    | none => genesisHash
    | some entry => entry.currentHash
  let payloadJson := payload.text .spaced
  let timestamp := draw.now.isoformat
  let entry : AuditEntry := {
    entryId := "AUD-" ++ upper (String.ofList (draw.uuid.digits.take 12))
    sequenceNumber
    tenantId
    eventType
    actorId
    payloadJson
    timestamp
    prevHash
    currentHash :=
      s.computeHash hmac prevHash sequenceNumber tenantId eventType actorId payloadJson timestamp
  }
  (entry, { s with store := s.store.set tenantId (entries ++ [entry]) })

/-- An append adds one entry to the tenant's log, and nothing to any other. -/
theorem getEntries_appendEvent (hmac : Bytes → Bytes → Bytes) (s : WORMAuditLogger) (draw : Draw)
    (tenantId eventType actorId : String) (payload : Json) (other : String)
    : let call := s.appendEvent hmac draw tenantId eventType actorId payload
      call.2.getEntries other
      = if tenantId = other then s.getEntries other ++ [call.1] else s.getEntries other := by
  simp only [appendEvent, getEntries, Dict.getD, Dict.get?_set]
  split
  · rename_i same
    rw [same]
    rfl
  · rfl

/-- The hash that an entry should have. -/
def entryHash (hmac : Bytes → Bytes → Bytes) (s : WORMAuditLogger) (entry : AuditEntry)
    : String :=
  s.computeHash hmac entry.prevHash entry.sequenceNumber entry.tenantId entry.eventType
    entry.actorId entry.payloadJson entry.timestamp

/-- Check the entries from a place on: number, link and hash. Texts with other than ASCII
characters cannot be compared. The numbers are ones that can be written (`HasDecimal`).
-/
def verifyFrom (hmac : Bytes → Bytes → Bytes) (s : WORMAuditLogger)
    : String → Int → List AuditEntry → Except AuditError Unit
  | _, _, [] => .ok ()
  | expectedPrevHash, i, entry :: rest => do
      raiseIf (entry.sequenceNumber ≠ i + 1)
        (.integrity
          s!"Broken sequence at index {i}: expected sequence {i + 1}, got {entry.sequenceNumber}")
      raiseIf (entry.prevHash ≠ expectedPrevHash)
        (.integrity
          s!"Hash link mismatch at sequence {entry.sequenceNumber}: prev_hash '{entry.prevHash}' does not match expected '{expectedPrevHash}'")
      raiseIf (∃ c ∈ entry.currentHash.toList, 128 ≤ c.toNat)
        (.typeError "comparing strings with non-ASCII characters is not supported")
      raiseIf (entry.currentHash ≠ s.entryHash hmac entry)
        (.integrity
          s!"Tampered payload detected at sequence {entry.sequenceNumber} (entry_id: {entry.entryId})")
      verifyFrom hmac s entry.currentHash (i + 1) rest

def verifyIntegrity (hmac : Bytes → Bytes → Bytes) (s : WORMAuditLogger) (tenantId : String)
    : Except AuditError Bool := do
  s.verifyFrom hmac genesisHash 0 (s.getEntries tenantId)
  return true

end WORMAuditLogger

end PettyFlow.Audit
