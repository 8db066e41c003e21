import PettyFlow.Audit.Truncation
import PettyFlow.Foundation.Digest
import PettyFlow.Foundation.JsonRoundTrip

/-! Packages of fraud evidence and their sealing into the audit log: a package carries a digest of
its content, and is appended to the log as the payload of an event.
-/

namespace PettyFlow.Fraud

open Foundation
open PettyFlow.Audit

structure FraudEvidencePackage where
  evidenceId : String
  incidentType : String
  tenantId : String
  custodiansInvolved : List String
  transactionIds : List String
  evidencePayload : List (String × Json)
  createdAt : String
  packageSha256 : String

def textList (texts : List String) : Json := .arr (texts.map .str)

def FraudEvidencePackage.toDict (p : FraudEvidencePackage) : Json :=
  .obj
    [
      ("evidence_id", .str p.evidenceId),
      ("incident_type", .str p.incidentType),
      ("tenant_id", .str p.tenantId),
      ("custodians_involved", textList p.custodiansInvolved),
      ("transaction_ids", textList p.transactionIds),
      ("evidence_payload", .obj p.evidencePayload),
      ("created_at", .str p.createdAt),
      ("package_sha256", .str p.packageSha256)
    ]

/-- Packages are equal up to the order of the names in their payloads. -/
def FraudEvidencePackage.Same (p q : FraudEvidencePackage) : Prop :=
  p.toDict.sortKeys = q.toDict.sortKeys

structure SealedEvidenceReceipt where
  evidencePackage : FraudEvidencePackage
  auditEntry : AuditEntry

/-- What the verification of a receipt raises. -/
inductive EvidenceError where
  | audit (error : AuditError)
  | jsonDecode
  | attribute

namespace FraudEvidenceSealer

def eventType : String := "FRAUD_EVIDENCE_SEALED"

def actorId : String := "FRAUD_DETECTION_ENGINE"

/-- The digest of a payload whose integers can be written (`HasDecimal`). -/
def computeSha256 (sha256 : String → BitVec 256) (payload : Json) : String :=
  String.ofList (hexDigest (sha256 (payload.text .compact)))

def sortedTexts (texts : List String) : List String := texts.insertionSort (· ≤ ·)

/-- A package with the digest of its content. A missing or empty identifier is drawn. -/
def createPackage (sha256 : String → BitVec 256) (draw : Draw) (incidentType tenantId : String)
    (custodiansInvolved transactionIds : List String) (evidencePayload : List (String × Json))
    (evidenceId : Option String)
    : FraudEvidencePackage :=
  let evidenceId :=
    if evidenceId.getD "" = "" then
      "EV-" ++ upper (String.ofList (draw.uuid.digits.take 12))
    else
      evidenceId.getD ""
  let ts := draw.now.isoformat
  let contentForHash : Json :=
    .obj
      [
        ("evidence_id", .str evidenceId),
        ("incident_type", .str incidentType),
        ("tenant_id", .str tenantId),
        ("custodians_involved", textList (sortedTexts custodiansInvolved)),
        ("transaction_ids", textList (sortedTexts transactionIds)),
        ("evidence_payload", .obj evidencePayload),
        ("created_at", .str ts)
      ]
  {
    evidenceId
    incidentType
    tenantId
    custodiansInvolved := sortedTexts custodiansInvolved
    transactionIds := sortedTexts transactionIds
    evidencePayload
    createdAt := ts
    packageSha256 := computeSha256 sha256 contentForHash
  }

/-- Append a package to its tenant's log. -/
def sealPackage (hmac : Bytes → Bytes → Bytes) (s : WORMAuditLogger) (draw : Draw)
    (package : FraudEvidencePackage)
    : SealedEvidenceReceipt × WORMAuditLogger :=
  let (entry, s) := s.appendEvent hmac draw package.tenantId eventType actorId package.toDict
  (⟨package, entry⟩, s)

/-- The verification of a receipt: the log is intact, has the entry, and the entry names the
digest of the receipt's package.
-/
def verifySealedEvidence (hmac : Bytes → Bytes → Bytes) (s : WORMAuditLogger)
    (receipt : SealedEvidenceReceipt)
    : Except EvidenceError Bool :=
  match s.verifyIntegrity hmac receipt.evidencePackage.tenantId with
  | .error error => .error (.audit error)
  | .ok _ =>
      let entries := s.getEntries receipt.evidencePackage.tenantId
      match entries.filter (fun e => e.entryId = receipt.auditEntry.entryId) with
      | [] => .ok false
      | entry :: _ =>
          match Json.loads entry.payloadJson with
          | none => .error .jsonDecode
          | some (.obj members) =>
              .ok
                (((Json.obj members).latest? "package_sha256").bind Json.str?
                  = some receipt.evidencePackage.packageSha256)
          | some _ => .error .attribute

end FraudEvidenceSealer

end PettyFlow.Fraud
