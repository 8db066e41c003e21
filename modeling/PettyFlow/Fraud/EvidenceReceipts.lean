import PettyFlow.Fraud.EvidenceSealer

/-! What the verification of a receipt says about its package. The log keeps the package that was
sealed, but only the tenant and the digest of the receipt's package are compared with it.
-/

namespace PettyFlow.Fraud

open Foundation
open PettyFlow.Audit

/-- A call that adds to the log: any event, or the sealing of a package that can be read back. -/
inductive EvidenceCall where
  | append (call : AppendCall)
  | sealing (draw : Draw) (package : FraudEvidencePackage) (readable : package.toDict.Readable)

/-- The event that a call appends. -/
def EvidenceCall.event : EvidenceCall → AppendCall
  | append call => call
  | sealing draw package _ =>
      ⟨draw, package.tenantId, FraudEvidenceSealer.eventType, FraudEvidenceSealer.actorId,
        package.toDict⟩

/-- The identifier of the entry that a call appends. -/
def EvidenceCall.entryId (call : EvidenceCall) : String :=
  "AUD-" ++ upper (String.ofList (call.event.draw.uuid.digits.take 12))

/-- The log after some calls. -/
def evidenceLog (hmac : Bytes → Bytes → Bytes) (secret : Bytes) (calls : List EvidenceCall)
    : WORMAuditLogger :=
  appendedLogger hmac secret (calls.map EvidenceCall.event)

section Log

variable {hmac : Bytes → Bytes → Bytes} {secret : Bytes} {s : WORMAuditLogger}

theorem sealPackage_eq (s : WORMAuditLogger) (draw : Draw) (package : FraudEvidencePackage)
    (readable : package.toDict.Readable)
    : let step := (auditMachine hmac).step s (EvidenceCall.sealing draw package readable).event
      FraudEvidenceSealer.sealPackage hmac s draw package = (⟨package, step.1⟩, step.2) := rfl

/-- The entries of a tenant under an identifier. -/
def entriesNamed (s : WORMAuditLogger) (tenantId entryId : String) : List AuditEntry :=
  (s.getEntries tenantId).filter (fun e => e.entryId = entryId)

/-- A call adds its entry under its identifier, to the log of its tenant. -/
theorem entriesNamed_step (s : WORMAuditLogger) (call : EvidenceCall) (tenantId entryId : String)
    : entriesNamed ((auditMachine hmac).step s call.event).2 tenantId entryId
      = if call.event.tenantId = tenantId ∧ call.entryId = entryId then
          entriesNamed s tenantId entryId ++ [((auditMachine hmac).step s call.event).1]
        else
          entriesNamed s tenantId entryId := by
  have named : ((auditMachine hmac).step s call.event).1.entryId = call.entryId := rfl
  have added
      : ((auditMachine hmac).step s call.event).2.getEntries tenantId
        = if call.event.tenantId = tenantId then
            s.getEntries tenantId ++ [((auditMachine hmac).step s call.event).1]
          else
            s.getEntries tenantId :=
    s.getEntries_appendEvent hmac call.event.draw call.event.tenantId call.event.eventType
      call.event.actorId call.event.payload tenantId
  unfold entriesNamed
  rw [added]
  by_cases own : call.event.tenantId = tenantId
  · by_cases same : call.entryId = entryId
    · simp [own, same, named]
    · simp [own, same, named]
  · simp [own]

/-- Calls with other identifiers leave the entries under an identifier alone, by induction over
the calls.
-/
theorem entriesNamed_exec (s : WORMAuditLogger) (calls : List EvidenceCall)
    (tenantId entryId : String) (others : ∀ call ∈ calls, call.entryId ≠ entryId)
    : entriesNamed ((auditMachine hmac).exec s (calls.map EvidenceCall.event)) tenantId entryId
      = entriesNamed s tenantId entryId := by
  induction calls generalizing s with
  | nil => rfl
  | cons call rest ih =>
      rw [List.map_cons, Machine.exec,
        ih _ (fun later member => others later (List.mem_cons_of_mem _ member)),
        entriesNamed_step, if_neg (fun both => others call List.mem_cons_self both.2)]

end Log

section Sealed

variable {hmac : Bytes → Bytes → Bytes} {secret : Bytes} {before after : List EvidenceCall}
  {draw : Draw} {package : FraudEvidencePackage} {readable : package.toDict.Readable}

/-- Where no other call has the identifier of a sealing, its entry is the only one under it, in
the log of the package's tenant.
-/
theorem entriesNamed_sealed (tenantId : String)
    (unique
      : ∀ call ∈ before ++ after,
          call.entryId ≠ (EvidenceCall.sealing draw package readable).entryId)
    : entriesNamed (evidenceLog hmac secret (before ++ .sealing draw package readable :: after))
          tenantId (EvidenceCall.sealing draw package readable).entryId
      = if package.tenantId = tenantId then
          [(FraudEvidenceSealer.sealPackage hmac (evidenceLog hmac secret before) draw
            package).1.auditEntry]
        else
          [] := by
  have empty (t entryId : String) : entriesNamed (.new secret) t entryId = [] := rfl
  -- Nothing is under the identifier before the sealing, nor added after it
  have earlier := @entriesNamed_exec hmac (.new secret) before tenantId
    (EvidenceCall.sealing draw package readable).entryId
    (fun call member => unique call (List.mem_append_left _ member))
  rw [evidenceLog, appendedLogger, List.map_append, List.map_cons, Machine.exec_append,
    Machine.exec,
    entriesNamed_exec _ _ _ _ (fun call member => unique call (List.mem_append_right _ member)),
    entriesNamed_step, earlier, empty, List.nil_append]
  by_cases own : package.tenantId = tenantId
  · rw [if_pos own, if_pos ⟨own, rfl⟩]
    rfl
  · rw [if_neg own, if_neg (fun both => own both.1)]

/-- The digest that a sealed entry names is that of its package. -/
theorem sealed_digest (s : WORMAuditLogger) (draw : Draw) (readable : package.toDict.Readable)
    : Json.loads
          (FraudEvidenceSealer.sealPackage hmac s draw package).1.auditEntry.payloadJson
        = some package.toDict.sortKeys
      ∧ package.toDict.sortKeys.latest? "package_sha256" = some (.str package.packageSha256) := by
  refine ⟨Json.loads_text_readable .spaced readable, ?_⟩
  rw [Json.latest?_sortKeys]
  rfl

/-- The answer to a receipt with the identifier of a sealing: tenant and digest decide. -/
theorem verifySealedEvidence_sealed {receipt : SealedEvidenceReceipt}
    (named
      : receipt.auditEntry.entryId = (EvidenceCall.sealing draw package readable).entryId)
    (unique
      : ∀ call ∈ before ++ after,
          call.entryId ≠ (EvidenceCall.sealing draw package readable).entryId)
    : FraudEvidenceSealer.verifySealedEvidence hmac
          (evidenceLog hmac secret (before ++ .sealing draw package readable :: after)) receipt
      = .ok
          (package.tenantId = receipt.evidencePackage.tenantId
            ∧ package.packageSha256 = receipt.evidencePackage.packageSha256) := by
  have intact
      : (evidenceLog hmac secret
          (before ++ .sealing draw package readable :: after)).verifyIntegrity hmac
            receipt.evidencePackage.tenantId
        = .ok true :=
    (appendedLogger_appended hmac secret _).verified [] receipt.evidencePackage.tenantId
  have found := @entriesNamed_sealed hmac secret before after draw package readable
    receipt.evidencePackage.tenantId unique
  obtain ⟨loaded, digest⟩ :=
    @sealed_digest hmac package (evidenceLog hmac secret before) draw readable
  unfold FraudEvidenceSealer.verifySealedEvidence
  rw [intact]
  dsimp only
  rw [named]
  unfold entriesNamed at found
  rw [found]
  -- Only the log of the sealed tenant has an entry under the identifier
  by_cases own : package.tenantId = receipt.evidencePackage.tenantId
  · rw [if_pos own]
    dsimp only
    rw [loaded, FraudEvidencePackage.toDict, Json.sortKeys]
    dsimp only
    rw [← Json.sortKeys, ← FraudEvidencePackage.toDict, digest]
    simp [own, Json.str?]
  · rw [if_neg own]
    simp [own]

/-- Equal packages have one tenant and one digest. -/
theorem FraudEvidencePackage.Same.decided {p q : FraudEvidencePackage} (same : p.Same q)
    : q.tenantId = p.tenantId ∧ q.packageSha256 = p.packageSha256 := by
  have member (name : String) := congrArg (fun value => value.latest? name) same
  have tenant := member "tenant_id"
  have digest := member "package_sha256"
  simp only [Json.latest?_sortKeys] at tenant digest
  exact ⟨(Json.str.inj (Option.some.inj tenant)).symm, (Json.str.inj (Option.some.inj digest)).symm⟩

end Sealed

/-- For a receipt with the identifier of a sealed entry, verification says whether its package is
the one that was sealed exactly where the package is that one, or another tenant or another digest
stands in it. Whatever is appended later, the answer stays.
-/
theorem evidence_verified_iff (hmac : Bytes → Bytes → Bytes) (secret : Bytes)
    (before after : List EvidenceCall) (draw : Draw) (package : FraudEvidencePackage)
    (readable : package.toDict.Readable) (receipt : SealedEvidenceReceipt)
    (named
      : receipt.auditEntry.entryId = (EvidenceCall.sealing draw package readable).entryId)
    (unique
      : ∀ call ∈ before ++ after,
          call.entryId ≠ (EvidenceCall.sealing draw package readable).entryId)
    : let log := evidenceLog hmac secret (before ++ .sealing draw package readable :: after)
      ((FraudEvidenceSealer.verifySealedEvidence hmac log receipt = .ok true
          ↔ receipt.evidencePackage.Same package)
        ↔ receipt.evidencePackage.Same package
          ∨ receipt.evidencePackage.tenantId ≠ package.tenantId
          ∨ receipt.evidencePackage.packageSha256 ≠ package.packageSha256)
      ∧ ∀ more,
          (∀ call ∈ more,
            call.entryId ≠ (EvidenceCall.sealing draw package readable).entryId)
          → FraudEvidenceSealer.verifySealedEvidence hmac
              (evidenceLog hmac secret
                (before ++ .sealing draw package readable :: (after ++ more)))
              receipt
            = FraudEvidenceSealer.verifySealedEvidence hmac log receipt := by
  intro log
  have answer := @verifySealedEvidence_sealed hmac secret before after draw package readable receipt
    named unique
  constructor
  · have verified
        : FraudEvidenceSealer.verifySealedEvidence hmac log receipt = .ok true
          ↔ package.tenantId = receipt.evidencePackage.tenantId
            ∧ package.packageSha256 = receipt.evidencePackage.packageSha256 := by
      rw [answer, Except.ok.injEq, decide_eq_true_iff]
    rw [verified]
    constructor
    · intro right
      -- Right answers leave no room for another package with the same tenant and digest
      by_cases same : receipt.evidencePackage.Same package
      · exact Or.inl same
      by_cases tenant : receipt.evidencePackage.tenantId = package.tenantId
      · exact Or.inr (Or.inr (fun digest => same (right.mp ⟨tenant.symm, digest.symm⟩)))
      · exact Or.inr (Or.inl tenant)
    · rintro (same | tenant | digest)
      · exact iff_of_true same.decided same
      · exact iff_of_false (fun both => tenant both.1.symm) (fun same => tenant same.decided.1.symm)
      · exact iff_of_false (fun both => digest both.2.symm) (fun same => digest same.decided.2.symm)
  · intro more others
    rw [answer]
    apply verifySealedEvidence_sealed named
    intro call member
    rcases List.mem_append.mp member with early | late
    · exact unique call (List.mem_append_left _ early)
    rcases List.mem_append.mp late with known | added
    · exact unique call (List.mem_append_right _ known)
    · exact others call added

section Sample

def splitPackage : FraudEvidencePackage where
  evidenceId := "EV-000000000001"
  incidentType := "SPLIT_TRANSACTION_DETECTED"
  tenantId := "tenant-1"
  custodiansInvolved := ["CUST-1"]
  transactionIds := ["TX-1", "TX-2"]
  evidencePayload := [("window_total_scaled", .int 960000)]
  createdAt := "2026-10-15T14:00:00+00:00"
  packageSha256 := "9890b8072044463ddda845582e67026f55936c983cd45d7a27c384b004e060ef"

theorem splitPackage_readable : splitPackage.toDict.Readable :=
  Json.Plain.readable
    (by simp [splitPackage, FraudEvidencePackage.toDict, textList, Json.Plain, Json.PlainMembers,
      Json.PlainElements])

/-- The package with a hundredth of the amount. -/
def loweredPackage : FraudEvidencePackage :=
  { splitPackage with evidencePayload := [("window_total_scaled", .int 9600)] }

def splitReceipt (package : FraudEvidencePackage) : SealedEvidenceReceipt :=
  ⟨package, (FraudEvidenceSealer.sealPackage auditHmac (evidenceLog auditHmac auditSecret [])
    ⟨⟨1⟩, ⟨0⟩⟩ splitPackage).1.auditEntry⟩

theorem evidence_verified_iff_sample
    : FraudEvidenceSealer.verifySealedEvidence auditHmac
          (evidenceLog auditHmac auditSecret
            [.sealing ⟨⟨1⟩, ⟨0⟩⟩ splitPackage splitPackage_readable])
          (splitReceipt splitPackage)
        = .ok true := by
  have result := evidence_verified_iff auditHmac auditSecret [] [] ⟨⟨1⟩, ⟨0⟩⟩ splitPackage
    splitPackage_readable (splitReceipt splitPackage) rfl (fun _ member => by cases member)
  exact (result.1.mpr (Or.inl rfl)).mpr rfl

/-- A receipt whose package lost most of its amount is verified. -/
theorem lowered_evidence_verified
    : FraudEvidenceSealer.verifySealedEvidence auditHmac
          (evidenceLog auditHmac auditSecret
            [.sealing ⟨⟨1⟩, ⟨0⟩⟩ splitPackage splitPackage_readable])
          (splitReceipt loweredPackage)
        = .ok true
      ∧ ¬ loweredPackage.Same splitPackage := by
  constructor
  · exact @verifySealedEvidence_sealed auditHmac auditSecret [] [] ⟨⟨1⟩, ⟨0⟩⟩ splitPackage
      splitPackage_readable (splitReceipt loweredPackage) rfl (fun _ member => by cases member)
  · intro same
    have payload := congrArg (fun value => value.latest? "evidence_payload") same
    simp only [Json.latest?_sortKeys] at payload
    cases payload

end Sample

end PettyFlow.Fraud
