import PettyFlow.Fraud.VelocityDetector

/-! Velocity alerts by the records themselves: too many records of a custodian in the window that
ends with the last one.
-/

namespace PettyFlow.Fraud

open Foundation

/-- The tenant and the custodian that a window belongs to. -/
def DisbursementRecord.key (record : DisbursementRecord) : String × String :=
  (record.tenantId, record.custodianId)

/-- A velocity detector under calls of `recordAndCheck`. -/
def recordMachine
    : Machine DisbursementVelocityDetector DisbursementRecord
        (Except FraudError (Option VelocityAnomalyAlert)) where
  step := DisbursementVelocityDetector.recordAndCheck

/-- The records of the same custodian up to one of them that are in the window which ends with it,
but those whose own window begins before the calendar.
-/
def recentRecords (settings : VelocitySettings) (earlier : List DisbursementRecord)
    (record : DisbursementRecord)
    : List DisbursementRecord :=
  (earlier ++ [record]).filter (fun other =>
    other.key = record.key
    ∧ settings.Dated other.timestamp
    ∧ record.micros - settings.windowMicros ≤ other.micros
    ∧ other.micros ≤ record.micros)

/-- The records that have entered the window of a custodian. -/
def enteredRecords (settings : VelocitySettings) (key : String × String)
    (records : List DisbursementRecord)
    : List DisbursementRecord :=
  records.filter (fun record => record.key = key ∧ settings.Dated record.timestamp)

section Windows

variable {s : DisbursementVelocityDetector} {record : DisbursementRecord}

theorem recordAndCheck_settings : (s.recordAndCheck record).2.settings = s.settings := by
  unfold DisbursementVelocityDetector.recordAndCheck
  dsimp only
  cases s.settings.evictExpired (s.windows.getD (record.tenantId, record.custodianId) [])
    record.timestamp <;> rfl

theorem recordAndCheck_undated (undated : ¬ s.settings.Dated record.timestamp)
    : (s.recordAndCheck record).1 = .error .overflowError := by
  simp [DisbursementVelocityDetector.recordAndCheck, VelocitySettings.evictExpired, undated]

theorem recordAndCheck_dated (dated : s.settings.Dated record.timestamp)
    : (s.recordAndCheck record).1
      = .ok (s.settings.alert record
          (slide DisbursementRecord.micros s.settings.windowMicros
            (s.windows.getD record.key []) record)) := by
  simp only [DisbursementVelocityDetector.recordAndCheck, VelocitySettings.evictExpired, dated,
    if_true]
  rfl

/-- A record enters its own window, unless it raises. -/
theorem recordAndCheck_windows (key : String × String)
    : (s.recordAndCheck record).2.windows.getD key []
      = if record.key = key ∧ s.settings.Dated record.timestamp then
          slide DisbursementRecord.micros s.settings.windowMicros (s.windows.getD key []) record
        else
          s.windows.getD key [] := by
  by_cases dated : s.settings.Dated record.timestamp
  · have stepped
        : (s.recordAndCheck record).2.windows
          = s.windows.set record.key
              (slide DisbursementRecord.micros s.settings.windowMicros
                (s.windows.getD record.key []) record) := by
      simp only [DisbursementVelocityDetector.recordAndCheck, VelocitySettings.evictExpired, dated,
        if_true]
      rfl
    rw [stepped]
    by_cases same : record.key = key
    · subst same
      rw [Dict.getD_set_self, if_pos ⟨rfl, dated⟩]
    · rw [Dict.getD_set_ne _ _ _ same, if_neg (fun both => same both.1)]
  · have stepped
        : (s.recordAndCheck record).2.windows
          = s.windows.set record.key (s.windows.getD record.key []) := by
      simp only [DisbursementVelocityDetector.recordAndCheck, VelocitySettings.evictExpired, dated,
        if_false]
      rfl
    rw [stepped, Lags.getD_set_getD, if_neg (fun both => dated both.2)]

/-- The windows after a run, by induction over its records. -/
theorem exec_windows (records : List DisbursementRecord) (key : String × String)
    : (recordMachine.exec s records).settings = s.settings
      ∧ (recordMachine.exec s records).windows.getD key []
        = (enteredRecords s.settings key records).foldl
            (slide DisbursementRecord.micros s.settings.windowMicros) (s.windows.getD key []) := by
  induction records generalizing s with
  | nil => exact ⟨rfl, rfl⟩
  | cons record rest ih =>
      obtain ⟨settings, windows⟩ := @ih (s.recordAndCheck record).2
      rw [recordAndCheck_settings] at settings windows
      refine ⟨settings, windows.trans ?_⟩
      rw [recordAndCheck_windows, enteredRecords, enteredRecords]
      by_cases enters : record.key = key ∧ s.settings.Dated record.timestamp
      · rw [if_pos enters, List.filter_cons_of_pos (by simpa using enters), List.foldl_cons]
      · rw [if_neg enters, List.filter_cons_of_neg (by simpa using enters)]

end Windows

/-- The records of one custodian come in the order of their times. -/
def OrderedByCustodian (records : List DisbursementRecord) : Prop :=
  records.Pairwise (fun first later => first.key = later.key → first.micros ≤ later.micros)

/-- What is left of a window before a record is what is recent. -/
theorem expire_entered {settings : VelocitySettings} {earlier : List DisbursementRecord}
    {record : DisbursementRecord} (nonneg : 0 ≤ settings.windowSeconds)
    (dated : settings.Dated record.timestamp)
    (ordered : OrderedByCustodian (earlier ++ [record]))
    : expire DisbursementRecord.micros settings.windowMicros record.micros
          ((enteredRecords settings record.key earlier).foldl
            (slide DisbursementRecord.micros settings.windowMicros) [])
        ++ [record]
      = recentRecords settings earlier record := by
  obtain ⟨among, _, before⟩ := List.pairwise_append.mp ordered
  have upTo
      : ∀ other ∈ enteredRecords settings record.key earlier, other.micros ≤ record.micros := by
    intro other member
    obtain ⟨listed, own⟩ := List.mem_filter.mp member
    exact before other listed record (List.mem_singleton.mpr rfl) (of_decide_eq_true own).1
  have sorted
      : (enteredRecords settings record.key earlier).Pairwise
          (fun a b => a.micros ≤ b.micros) := by
    have all
        : ∀ other ∈ enteredRecords settings record.key earlier, other.key = record.key :=
      fun other member => (of_decide_eq_true (List.mem_filter.mp member).2).1
    refine (List.Pairwise.and_mem.mp (among.filter _)).imp ?_
    rintro a b ⟨first, second, inOrder⟩
    exact inOrder ((all a first).trans (all b second).symm)
  have width : 0 ≤ settings.windowMicros := mul_nonneg nonneg (by decide)
  rw [expire_foldl_slide upTo, List.nil_append, expire_of_sorted sorted, recentRecords,
    List.filter_append]
  congr 1
  · -- The times of the earlier records are never after the last one
    rw [enteredRecords, List.filter_filter]
    apply List.filter_congr
    intro other member
    have own : other.key = record.key → other.micros ≤ record.micros :=
      before other member record (List.mem_singleton.mpr rfl)
    rw [Bool.eq_iff_iff]
    simp only [Bool.and_eq_true, decide_eq_true_eq]
    tauto
  · refine (List.filter_eq_self.mpr ?_).symm
    intro other member
    obtain rfl := List.mem_singleton.mp member
    have recent : other.micros - settings.windowMicros ≤ other.micros := by omega
    simp [dated, recent]

/-- After any run of records, each custodian's in the order of their times, a record raises an
alert exactly when more records of its custodian than allowed are in the window that ends with it;
the alert counts, sums and lists these. A record whose window begins before the calendar raises.
-/
theorem alert_iff_too_many (settings : VelocitySettings) (s₀ : DisbursementVelocityDetector)
    (made : DisbursementVelocityDetector.new settings = .ok s₀)
    (nonneg : 0 ≤ settings.windowSeconds) (earlier : List DisbursementRecord)
    (record : DisbursementRecord) (ordered : OrderedByCustodian (earlier ++ [record]))
    : let recent := recentRecords settings earlier record
      let outcome := (recordMachine.step (recordMachine.exec s₀ earlier) record).1
      (¬ settings.Dated record.timestamp → outcome = .error .overflowError)
      ∧ (settings.Dated record.timestamp
        → ((recent.length : Int) ≤ settings.maxDisbursementsPerHour → outcome = .ok none)
          ∧ (settings.maxDisbursementsPerHour < recent.length
            → ∃ alert,
                outcome = .ok (some alert)
                ∧ alert.hourlyCount = recent.length
                ∧ alert.windowTotalScaled = (recent.map (·.amountScaled)).sum
                ∧ alert.transactionIds = recent.map (·.transactionId))) := by
  intro recent outcome
  have fresh : s₀ = ⟨settings, .empty⟩ := by
    unfold DisbursementVelocityDetector.new at made
    split at made
    · cases made
    · exact (Except.ok.inj made).symm
  subst fresh
  obtain ⟨kept, windows⟩ := @exec_windows ⟨settings, .empty⟩ earlier record.key
  constructor
  · intro undated
    apply recordAndCheck_undated
    rw [kept]
    exact undated
  · intro dated
    -- The window after earlier records, less what has expired, is that of the recent records
    have answered : outcome = .ok (settings.alert record recent) := by
      rw [← show _ = recent from expire_entered nonneg dated ordered]
      have atHand
          : (recordMachine.exec ⟨settings, .empty⟩ earlier).settings.Dated record.timestamp := by
        rw [kept]
        exact dated
      refine (recordAndCheck_dated atHand).trans ?_
      rw [kept, windows]
      rfl
    rw [answered]
    constructor
    · intro few
      rw [VelocitySettings.alert, if_neg (not_lt.mpr few)]
    · intro many
      rw [VelocitySettings.alert, if_pos many]
      exact ⟨_, rfl, rfl, rfl, rfl⟩

section Sample

/-- A disbursement of one dollar by a custodian, some minutes after the beginning of 2026. -/
def disbursedAt (transactionId custodianId : String) (minute : Int) : DisbursementRecord :=
  ⟨transactionId, "TENANT-ORG", custodianId, 10000, ⟨1767225600000000 + minute * 60000000⟩⟩

/-- Two disbursements of one custodian within an hour, the first at its edge, and one of another. -/
theorem alert_iff_too_many_sample
    : ∃ alert,
        (recordMachine.step
            (recordMachine.exec ⟨⟨1, 3600⟩, .empty⟩
              [disbursedAt "tx-1" "CUST-1" 0, disbursedAt "tx-2" "CUST-2" 30])
            (disbursedAt "tx-3" "CUST-1" 60)).1
          = .ok (some alert)
        ∧ alert.hourlyCount = 2
        ∧ alert.windowTotalScaled = 20000
        ∧ alert.transactionIds = ["tx-1", "tx-3"] := by
  have general := alert_iff_too_many ⟨1, 3600⟩ ⟨⟨1, 3600⟩, .empty⟩ rfl (by decide)
    [disbursedAt "tx-1" "CUST-1" 0, disbursedAt "tx-2" "CUST-2" 30]
    (disbursedAt "tx-3" "CUST-1" 60) (by unfold OrderedByCustodian; decide +kernel)
  exact (general.2 (by decide +kernel)).2 (by decide +kernel)

/-- With a window of 10^12 seconds the second of two disbursements should raise an alert, but
there is no date so long ago.
-/
theorem endless_hour_raises
    : 1 < ([disbursedAt "tx-1" "CUST-1" 0, disbursedAt "tx-2" "CUST-1" 1].filter (fun other =>
          other.key = ("TENANT-ORG", "CUST-1")
          ∧ (disbursedAt "tx-2" "CUST-1" 1).micros - 1000000000000 * 1000000 ≤ other.micros
          ∧ other.micros ≤ (disbursedAt "tx-2" "CUST-1" 1).micros)).length
      ∧ (recordMachine.step
            (recordMachine.exec ⟨⟨1, 1000000000000⟩, .empty⟩ [disbursedAt "tx-1" "CUST-1" 0])
            (disbursedAt "tx-2" "CUST-1" 1)).1
        = .error .overflowError := by
  decide +kernel

end Sample

end PettyFlow.Fraud
