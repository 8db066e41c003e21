import PettyFlow.Audit.LogSoundness

/-! Audit logs that are cut back. The beginning of a chain is a chain, and appending to it makes
a chain again, so that nothing inside a log tells that entries are missing at its end.
-/

namespace PettyFlow.Audit

open Foundation

namespace WORMAuditLogger

/-- The logger with only the first entries of a tenant. -/
def cutBack (s : WORMAuditLogger) (tenantId : String) (k : Nat) : WORMAuditLogger :=
  s.altered (s.store.set tenantId ((s.getEntries tenantId).take k))

/-- The logger without a tenant. -/
def withoutTenant (s : WORMAuditLogger) (tenantId : String) : WORMAuditLogger :=
  s.altered (s.store.erase tenantId)

theorem getEntries_cutBack (s : WORMAuditLogger) (tenantId : String) (k : Nat) (other : String)
    : (s.cutBack tenantId k).getEntries other
      = if tenantId = other then (s.getEntries other).take k else s.getEntries other := by
  simp only [cutBack, altered, getEntries, Dict.getD, Dict.get?_set]
  split
  · rename_i same
    rw [same]
    rfl
  · rfl

theorem getEntries_withoutTenant (s : WORMAuditLogger) (tenantId other : String)
    : (s.withoutTenant tenantId).getEntries other
      = if tenantId = other then [] else s.getEntries other := by
  simp only [withoutTenant, altered, getEntries, Dict.getD, Dict.get?_erase]
  split <;> rfl

end WORMAuditLogger

/-- The logs that are left when entries of a tenant are cut off at the end of its log. -/
inductive CutOff (s : WORMAuditLogger) (tenantId : String) : WORMAuditLogger → Prop where
  | shortened {k : Nat} (shorter : k < (s.getEntries tenantId).length)
    : CutOff s tenantId (s.cutBack tenantId k)
  | removed (listed : 0 < (s.getEntries tenantId).length)
    : CutOff s tenantId (s.withoutTenant tenantId)

section Truncation

variable {hmac : Bytes → Bytes → Bytes} {secret : Bytes} {s cut : WORMAuditLogger}
  {tenantId : String}

/-- What is left of a log could have been appended, by cases on what was cut off. -/
theorem CutOff.appended (isCut : CutOff s tenantId cut) (appended : Appended hmac secret s)
    : Appended hmac secret cut := by
  cases isCut with
  | @shortened k _ =>
      refine ⟨appended.keyed, fun t => ?_, fun t e member => ?_⟩
      · rw [WORMAuditLogger.getEntries_cutBack]
        split
        · exact (appended.chained t).take k
        · exact appended.chained t
      · rw [WORMAuditLogger.getEntries_cutBack] at member
        split at member
        · exact appended.own t e (List.mem_of_mem_take member)
        · exact appended.own t e member
  | removed _ =>
      refine ⟨appended.keyed, fun t => ?_, fun t e member => ?_⟩
      · rw [WORMAuditLogger.getEntries_withoutTenant]
        split
        · trivial
        · exact appended.chained t
      · rw [WORMAuditLogger.getEntries_withoutTenant] at member
        split at member
        · cases member
        · exact appended.own t e member

/-- Every run of appends keeps a log that could have been appended, so it is verified. -/
theorem Appended.verified (appended : Appended hmac secret s) (more : List AppendCall)
    (tenantId : String)
    : ((auditMachine hmac).exec s more).verifyIntegrity hmac tenantId = .ok true := by
  have anyCall : (auditMachine hmac).Admits (fun _ _ => True) s more :=
    ((auditMachine hmac).admits_iff_history _ _).mpr (fun _ _ => trivial)
  have after : Appended hmac secret ((auditMachine hmac).exec s more) :=
    (auditMachine hmac).exec_invariant (motive := Appended hmac secret)
      (fun _ call appended _ => appended.step call) appended anyCall
  rw [verifyIntegrity_iff, after.keyed]
  exact after.chained tenantId

/-- No verification of a log that was cut back raises an error, whatever is appended to it. -/
theorem truncation_undetected (hmac : Bytes → Bytes → Bytes) (secret : Bytes)
    (calls : List AppendCall) {tenantId : String} {cut : WORMAuditLogger}
    (isCut : CutOff (appendedLogger hmac secret calls) tenantId cut) (more : List AppendCall)
    : ((auditMachine hmac).exec cut more).verifyIntegrity hmac tenantId = .ok true :=
  (isCut.appended (appendedLogger_appended hmac secret calls)).verified more tenantId

end Truncation

section Sample

theorem truncation_undetected_sample
    : ((auditMachine auditHmac).exec
          ((appendedLogger auditHmac auditSecret [firstEvent, firstEvent]).cutBack "tenant-1" 1)
          [firstEvent]).verifyIntegrity auditHmac "tenant-1"
      = .ok true := by
  apply truncation_undetected auditHmac auditSecret [firstEvent, firstEvent] _ [firstEvent]
  exact .shortened (by decide +kernel)

/-- The only entry of a log is cut off, and the log is verified before and after an append. -/
theorem emptied_log_verified
    : let s := appendedLogger auditHmac auditSecret [firstEvent]
      (s.getEntries "tenant-1").length = 1
      ∧ (s.cutBack "tenant-1" 0).verifyIntegrity auditHmac "tenant-1" = .ok true
      ∧ ((auditMachine auditHmac).exec (s.cutBack "tenant-1" 0) [firstEvent]).verifyIntegrity
            auditHmac "tenant-1"
        = .ok true := by
  intro s
  have single : (s.getEntries "tenant-1").length = 1 := by decide +kernel
  have isCut : CutOff s "tenant-1" (s.cutBack "tenant-1" 0) :=
    .shortened (single.symm ▸ Nat.one_pos)
  have appended : Appended auditHmac auditSecret (s.cutBack "tenant-1" 0) :=
    isCut.appended (appendedLogger_appended auditHmac auditSecret [firstEvent])
  exact ⟨single, appended.verified [] "tenant-1", appended.verified [firstEvent] "tenant-1"⟩

end Sample

end PettyFlow.Audit
