import PettyFlow.Foundation.TwoRuns
import PettyFlow.Fraud.VelocityDetector

/-! Queries evict events for whatever time they are asked about. A run of a detector with
queries is compared with the same run without them: the answers to the records agree as long
as no query has dropped an event that a later record would still count.
-/

namespace PettyFlow.Fraud

open Foundation

namespace DisbursementVelocityDetector

/-- What a query drops from a custodian's window. -/
def lost (s : DisbursementVelocityDetector) (tenantId custodianId : String)
    (reference : Option Instant)
    : List ((String × String) × DisbursementRecord) :=
  match reference with
  | some time =>
      if s.settings.Dated time then
        (expired DisbursementRecord.micros s.settings.windowMicros time.micros
          (s.windows.getD (tenantId, custodianId) [])).map ((tenantId, custodianId), ·)
      else
        []
  | none => []

variable {s : DisbursementVelocityDetector} {noted : List ((String × String) × DisbursementRecord)}
  {others : Dict (String × String) (List DisbursementRecord)}

/-- A query changes nothing but the windows. -/
theorem query_settings (s : DisbursementVelocityDetector)
    (result : List DisbursementRecord → Int) (tenantId custodianId : String)
    (reference : Option Instant)
    : (s.query result tenantId custodianId reference).2.settings = s.settings := by
  unfold query
  dsimp only
  split
  · rfl
  · split <;> rfl

/-- After a query the windows lack what it has dropped, and nothing else. -/
theorem query_lags (lags : Lags noted s.windows others)
    (result : List DisbursementRecord → Int) (tenantId custodianId : String)
    (reference : Option Instant)
    : Lags (noted ++ s.lost tenantId custodianId reference)
        (s.query result tenantId custodianId reference).2.windows others := by
  have more : Lags (noted ++ s.lost tenantId custodianId reference) s.windows others :=
    lags.note_more _
  by_cases empty : s.windows.getD (tenantId, custodianId) [] = []
  · simpa [query, empty] using more
  · cases reference with
    | none => simpa [query, empty] using more.reset (tenantId, custodianId)
    | some time =>
        by_cases dated : s.settings.Dated time
        · have read :=
            lags.expire DisbursementRecord.micros s.settings.windowMicros time.micros
              (tenantId, custodianId)
          simpa [query, empty, lost, dated, VelocitySettings.evictExpired] using read
        · simpa [query, empty, dated, VelocitySettings.evictExpired] using more

end DisbursementVelocityDetector

/-- The calls of the velocity detector: records and queries. -/
inductive VelocityCall where
  | recordAndCheck (record : DisbursementRecord)
  | getHourlyCount (tenantId custodianId : String) (reference : Option Instant)
  | getHourlyTotalScaled (tenantId custodianId : String) (reference : Option Instant)
deriving DecidableEq

inductive VelocityAnswer where
  | verdict (outcome : Except FraudError (Option VelocityAnomalyAlert))
  | number (outcome : Except FraudError Int)

/-- The answer is an alert. -/
def VelocityAnswer.alerts : VelocityAnswer → Bool
  | .verdict (.ok (some _)) => true
  | .verdict _ | .number _ => false

def velocityMachine : Machine DisbursementVelocityDetector VelocityCall VelocityAnswer where
  step s call :=
    match call with
    | .recordAndCheck record =>
        let (outcome, next) := s.recordAndCheck record
        (.verdict outcome, next)
    | .getHourlyCount tenantId custodianId reference =>
        let (outcome, next) := s.getHourlyCount tenantId custodianId reference
        (.number outcome, next)
    | .getHourlyTotalScaled tenantId custodianId reference =>
        let (outcome, next) := s.getHourlyTotalScaled tenantId custodianId reference
        (.number outcome, next)

namespace VelocityCall

/-- The call records a disbursement. -/
def Records (call : VelocityCall) : Prop := ∃ record, call = .recordAndCheck record

instance (call : VelocityCall) : Decidable call.Records :=
  match call with
  | .recordAndCheck record => isTrue ⟨record, rfl⟩
  | .getHourlyCount _ _ _ => isFalse (fun ⟨_, same⟩ => by cases same)
  | .getHourlyTotalScaled _ _ _ => isFalse (fun ⟨_, same⟩ => by cases same)

/-- The events that queries have dropped, each under the key of its window. -/
abbrev Dropped := List ((String × String) × DisbursementRecord)

def note (dropped : Dropped) (s : DisbursementVelocityDetector) (call : VelocityCall) : Dropped :=
  match call with
  | .recordAndCheck _ => dropped
  | .getHourlyCount tenantId custodianId reference
  | .getHourlyTotalScaled tenantId custodianId reference =>
      dropped ++ s.lost tenantId custodianId reference

/-- What queries have dropped from the custodian's window is too old for a record. -/
def Harmless (s : TwoRuns DisbursementVelocityDetector Dropped) (call : VelocityCall) : Prop :=
  match call with
  | .recordAndCheck record =>
      ∀ entry ∈ s.noted,
        entry.1 = (record.tenantId, record.custodianId)
        → entry.2.micros < record.micros - s.mixed.settings.windowMicros
  | .getHourlyCount _ _ _ | .getHourlyTotalScaled _ _ _ => True

instance (s : TwoRuns DisbursementVelocityDetector Dropped) (call : VelocityCall)
    : Decidable (Harmless s call) := by
  cases call <;> unfold Harmless <;> infer_instance

end VelocityCall

/-- The run of a velocity detector beside its run without queries. -/
abbrev velocityRuns := velocityMachine.twoRuns VelocityCall.Records VelocityCall.note

/-- The detectors of the two runs differ in dropped events only. -/
structure VelocityAlike
    (s : TwoRuns DisbursementVelocityDetector VelocityCall.Dropped) : Prop where
  settings : s.alone.settings = s.mixed.settings
  lags : Lags s.noted s.mixed.windows s.alone.windows

namespace VelocityAlike

variable {s : TwoRuns DisbursementVelocityDetector VelocityCall.Dropped}

theorem start (detector : DisbursementVelocityDetector)
    : VelocityAlike ⟨detector, detector, []⟩ :=
  ⟨rfl, .refl _⟩

theorem query (alike : VelocityAlike s) (call : VelocityCall) (asks : ¬ call.Records)
    : VelocityAlike (velocityRuns.step s call).2 := by
  rw [Machine.twoRuns_foreign asks]
  cases call with
  | recordAndCheck record => exact absurd ⟨record, rfl⟩ asks
  | getHourlyCount tenantId custodianId reference
  | getHourlyTotalScaled tenantId custodianId reference =>
      refine ⟨?_, DisbursementVelocityDetector.query_lags alike.lags _ _ _ _⟩
      exact alike.settings.trans (DisbursementVelocityDetector.query_settings _ _ _ _ _).symm

/-- A record whose window lacks old events only is answered alike. -/
theorem record (alike : VelocityAlike s) (call : VelocityCall) (records : call.Records)
    (harmless : call.Harmless s)
    : (velocityMachine.step s.mixed call).1 = (velocityMachine.step s.alone call).1
      ∧ VelocityAlike (velocityRuns.step s call).2 := by
  obtain ⟨record, rfl⟩ := records
  rw [Machine.twoRuns_own ⟨record, rfl⟩]
  obtain ⟨⟨common, windows⟩, ⟨settings, others⟩, noted⟩ := s
  obtain ⟨sameSettings, lags⟩ := alike
  obtain rfl : settings = common := sameSettings
  dsimp only [velocityMachine, DisbursementVelocityDetector.recordAndCheck,
    VelocitySettings.evictExpired]
  by_cases dated : settings.Dated record.timestamp
  · -- Both windows keep the same records, since only what is too old differs
    have same
        : expire DisbursementRecord.micros settings.windowMicros record.timestamp.micros
            (windows.getD (record.tenantId, record.custodianId) [])
          = expire DisbursementRecord.micros settings.windowMicros record.timestamp.micros
              (others.getD (record.tenantId, record.custodianId) []) :=
      lags.expire_eq (fun item member => harmless (_, item) member rfl)
    simp only [if_pos dated, same, true_and]
    exact ⟨rfl, lags.set _ _⟩
  · simp only [if_neg dated, true_and]
    exact ⟨rfl, lags.reset_both _⟩

end VelocityAlike

namespace SplitTransactionDetector

/-- What a query drops from a window that it reads. -/
def lostFrom {κ : Type} (settings : DetectorSettings) (key : κ) (window : List TransactionEvent)
    (reference : Option Instant)
    : List (κ × TransactionEvent) :=
  match reference with
  | some time =>
      if settings.Dated time then
        (expired TransactionEvent.micros settings.windowMicros time.micros window).map (key, ·)
      else
        []
  | none => []

variable {s : SplitTransactionDetector}

theorem getClusters_settings (s : SplitTransactionDetector) (lower : String → String)
    (tenantId : String) (reference : Option Instant)
    : (s.getClusters lower tenantId reference).2.settings = s.settings
      ∧ (s.getClusters lower tenantId reference).2.windows = s.windows := by
  unfold getClusters
  dsimp only
  split
  · exact ⟨rfl, rfl⟩
  · split <;> exact ⟨rfl, rfl⟩

theorem windowSum_settings (s : SplitTransactionDetector) (tenantId custodianId : String)
    (reference : Option Instant)
    : (s.windowSum tenantId custodianId reference).2.settings = s.settings
      ∧ (s.windowSum tenantId custodianId reference).2.tenantWindows = s.tenantWindows := by
  unfold windowSum
  dsimp only
  split
  · exact ⟨rfl, rfl⟩
  · split <;> exact ⟨rfl, rfl⟩

theorem getClusters_lags {noted : List (String × TransactionEvent)}
    {others : Dict String (List TransactionEvent)} (lags : Lags noted s.tenantWindows others)
    (lower : String → String) (tenantId : String) (reference : Option Instant)
    : Lags (noted ++ lostFrom s.settings tenantId (s.tenantWindows.getD tenantId []) reference)
        (s.getClusters lower tenantId reference).2.tenantWindows others := by
  by_cases empty : s.tenantWindows.getD tenantId [] = []
  · simpa [getClusters, empty] using lags.note_more _
  · cases reference with
    | none => simpa [getClusters, empty] using (lags.note_more _).reset tenantId
    | some time =>
        by_cases dated : s.settings.Dated time
        · have read :=
            lags.expire TransactionEvent.micros s.settings.windowMicros time.micros tenantId
          simpa [getClusters, empty, lostFrom, dated, DetectorSettings.evictExpired] using read
        · simpa [getClusters, empty, dated, DetectorSettings.evictExpired]
            using lags.note_more _

theorem windowSum_lags {noted : List ((String × String) × TransactionEvent)}
    {others : Dict (String × String) (List TransactionEvent)}
    (lags : Lags noted s.windows others) (tenantId custodianId : String)
    (reference : Option Instant)
    : Lags
        (noted
          ++ lostFrom s.settings (tenantId, custodianId)
              (s.windows.getD (tenantId, custodianId) []) reference)
        (s.windowSum tenantId custodianId reference).2.windows others := by
  by_cases empty : s.windows.getD (tenantId, custodianId) [] = []
  · simpa [windowSum, empty] using lags.note_more _
  · cases reference with
    | none =>
        simpa [windowSum, empty] using (lags.note_more _).reset (tenantId, custodianId)
    | some time =>
        by_cases dated : s.settings.Dated time
        · have read :=
            lags.expire TransactionEvent.micros s.settings.windowMicros time.micros
              (tenantId, custodianId)
          simpa [windowSum, empty, lostFrom, dated, DetectorSettings.evictExpired] using read
        · simpa [windowSum, empty, dated, DetectorSettings.evictExpired]
            using lags.note_more _

end SplitTransactionDetector

/-- The calls of the split-transaction detector: records and queries. -/
inductive SplitCall where
  | recordAndCheck (event : TransactionEvent)
  | getClusters (tenantId : String) (reference : Option Instant)
  | windowSum (tenantId custodianId : String) (reference : Option Instant)

inductive SplitAnswer where
  | verdict (outcome : Verdict)
  | clusters (outcome : Except FraudError (List TransactionCluster))
  | number (outcome : Except FraudError Int)

def SplitAnswer.alerts : SplitAnswer → Bool
  | .verdict (.ok (some _)) => true
  | .verdict _ | .clusters _ | .number _ => false

def splitMachine (lower : String → String)
    : Machine SplitTransactionDetector SplitCall SplitAnswer where
  step s call :=
    match call with
    | .recordAndCheck event =>
        let (outcome, next) := s.recordAndCheck lower event
        (.verdict outcome, next)
    | .getClusters tenantId reference =>
        let (outcome, next) := s.getClusters lower tenantId reference
        (.clusters outcome, next)
    | .windowSum tenantId custodianId reference =>
        let (outcome, next) := s.windowSum tenantId custodianId reference
        (.number outcome, next)

/-- The events that queries have dropped from the windows of custodians and of tenants. -/
structure DroppedEvents where
  custodian : List ((String × String) × TransactionEvent)
  tenant : List (String × TransactionEvent)

namespace SplitCall

/-- The call records an event. -/
def Records (call : SplitCall) : Prop := ∃ event, call = .recordAndCheck event

instance (call : SplitCall) : Decidable call.Records :=
  match call with
  | .recordAndCheck event => isTrue ⟨event, rfl⟩
  | .getClusters _ _ => isFalse (fun ⟨_, same⟩ => by cases same)
  | .windowSum _ _ _ => isFalse (fun ⟨_, same⟩ => by cases same)

def note (dropped : DroppedEvents) (s : SplitTransactionDetector) (call : SplitCall)
    : DroppedEvents :=
  match call with
  | .recordAndCheck _ => dropped
  | .getClusters tenantId reference =>
      {
        dropped with
        tenant :=
          dropped.tenant
            ++ SplitTransactionDetector.lostFrom s.settings tenantId
                (s.tenantWindows.getD tenantId []) reference
      }
  | .windowSum tenantId custodianId reference =>
      {
        dropped with
        custodian :=
          dropped.custodian
            ++ SplitTransactionDetector.lostFrom s.settings (tenantId, custodianId)
                (s.windows.getD (tenantId, custodianId) []) reference
      }

/-- What queries have dropped from the windows that an event is checked in is too old for it.
The tenant's window is looked at only for clusters.
-/
def Harmless (s : TwoRuns SplitTransactionDetector DroppedEvents) (call : SplitCall) : Prop :=
  match call with
  | .recordAndCheck event =>
      (∀ entry ∈ s.noted.custodian,
        entry.1 = (event.tenantId, event.custodianId)
        → entry.2.micros < event.micros - s.mixed.settings.windowMicros)
      ∧ (s.mixed.settings.enableGraphClustering = true
        → ∀ entry ∈ s.noted.tenant,
            entry.1 = event.tenantId
            → entry.2.micros < event.micros - s.mixed.settings.windowMicros)
  | .getClusters _ _ | .windowSum _ _ _ => True

instance (s : TwoRuns SplitTransactionDetector DroppedEvents) (call : SplitCall)
    : Decidable (Harmless s call) := by
  cases call <;> unfold Harmless <;> infer_instance

end SplitCall

/-- The run of a split-transaction detector beside its run without queries. -/
abbrev splitRuns (lower : String → String) :=
  (splitMachine lower).twoRuns SplitCall.Records SplitCall.note

/-- The detectors of the two runs differ in dropped events only, in the windows that matter. -/
structure SplitAlike (s : TwoRuns SplitTransactionDetector DroppedEvents) : Prop where
  settings : s.alone.settings = s.mixed.settings
  custodian : Lags s.noted.custodian s.mixed.windows s.alone.windows
  tenant
    : s.mixed.settings.enableGraphClustering = true
      → Lags s.noted.tenant s.mixed.tenantWindows s.alone.tenantWindows

namespace SplitAlike

variable {lower : String → String} {s : TwoRuns SplitTransactionDetector DroppedEvents}

theorem start (detector : SplitTransactionDetector)
    : SplitAlike ⟨detector, detector, [], []⟩ :=
  ⟨rfl, .refl _, fun _ => .refl _⟩

theorem query (alike : SplitAlike s) (call : SplitCall) (asks : ¬ call.Records)
    : SplitAlike ((splitRuns lower).step s call).2 := by
  rw [Machine.twoRuns_foreign asks]
  cases call with
  | recordAndCheck event => exact absurd ⟨event, rfl⟩ asks
  | getClusters tenantId reference =>
      obtain ⟨settings, windows⟩ :=
        SplitTransactionDetector.getClusters_settings s.mixed lower tenantId reference
      refine ⟨alike.settings.trans settings.symm, ?_, fun enabled => ?_⟩
      · exact windows.symm ▸ alike.custodian
      · have before := alike.tenant (settings ▸ enabled)
        exact SplitTransactionDetector.getClusters_lags before lower tenantId reference
  | windowSum tenantId custodianId reference =>
      obtain ⟨settings, tenantWindows⟩ :=
        SplitTransactionDetector.windowSum_settings s.mixed tenantId custodianId reference
      refine ⟨alike.settings.trans settings.symm, ?_, fun enabled => ?_⟩
      · exact SplitTransactionDetector.windowSum_lags alike.custodian _ _ _
      · exact tenantWindows.symm ▸ alike.tenant (settings ▸ enabled)

/-- An event whose windows lack old events only is answered alike. -/
theorem record (alike : SplitAlike s) (call : SplitCall) (records : call.Records)
    (harmless : call.Harmless s)
    : ((splitMachine lower).step s.mixed call).1 = ((splitMachine lower).step s.alone call).1
      ∧ SplitAlike ((splitRuns lower).step s call).2 := by
  obtain ⟨event, rfl⟩ := records
  rw [Machine.twoRuns_own ⟨event, rfl⟩]
  obtain ⟨⟨common, windows, tenantWindows⟩, ⟨settings, others, otherTenants⟩, noted⟩ := s
  obtain ⟨sameSettings, custodian, tenant⟩ := alike
  obtain rfl : settings = common := sameSettings
  obtain ⟨custodianOld, tenantOld⟩ := harmless
  dsimp only [splitMachine, SplitTransactionDetector.recordAndCheck,
    SplitTransactionDetector.record, DetectorSettings.evictExpired]
  by_cases dated : settings.Dated event.timestamp
  · have same
        : expire TransactionEvent.micros settings.windowMicros event.timestamp.micros
            (windows.getD (event.tenantId, event.custodianId) [])
          = expire TransactionEvent.micros settings.windowMicros event.timestamp.micros
              (others.getD (event.tenantId, event.custodianId) []) :=
      custodian.expire_eq (fun item member => custodianOld (_, item) member rfl)
    by_cases enabled : settings.enableGraphClustering = true
    · have sameTenant
          : expire TransactionEvent.micros settings.windowMicros event.timestamp.micros
              (tenantWindows.getD event.tenantId [])
            = expire TransactionEvent.micros settings.windowMicros event.timestamp.micros
                (otherTenants.getD event.tenantId []) :=
        (tenant enabled).expire_eq (fun item member => tenantOld enabled (_, item) member rfl)
      -- The windows end with the event, so that they are read once more for the clusters
      simp only [if_pos dated, same, sameTenant, if_pos enabled,
        SplitTransactionDetector.getClusters, Dict.getD_set_self, List.append_eq_nil_iff,
        List.cons_ne_nil, and_false, if_false, Option.elim_some, DetectorSettings.evictExpired,
        true_and]
      exact ⟨rfl, custodian.set _ _, fun _ => ((tenant enabled).set _ _).set _ _⟩
    · simp only [if_pos dated, same, if_neg enabled, true_and]
      exact ⟨rfl, custodian.set _ _, fun holds => absurd holds enabled⟩
  · simp only [if_neg dated, true_and]
    exact ⟨rfl, custodian.reset_both _, tenant⟩

end SplitAlike

/-- In every run of a detector in which queries drop only what is too old for the later records
of its window, each record gets the answer that it gets without the queries.
-/
theorem queries_harmless (velocity : DisbursementVelocityDetector)
    (split : SplitTransactionDetector) (lower : String → String)
    {velocityCalls : List VelocityCall} {splitCalls : List SplitCall}
    (velocityHarmless
      : velocityRuns.Admits VelocityCall.Harmless ⟨velocity, velocity, []⟩ velocityCalls)
    (splitHarmless
      : (splitRuns lower).Admits SplitCall.Harmless ⟨split, split, [], []⟩ splitCalls)
    : velocityMachine.ownOutputs VelocityCall.Records velocity velocityCalls
        = velocityMachine.ownOutputs VelocityCall.Records velocity
            (velocityCalls.filter VelocityCall.Records)
      ∧ (splitMachine lower).ownOutputs SplitCall.Records split splitCalls
        = (splitMachine lower).ownOutputs SplitCall.Records split
            (splitCalls.filter SplitCall.Records) :=
  ⟨Machine.ownOutputs_eq_of_admits
      (fun s call (alike : VelocityAlike s) asks => alike.query call asks)
      (fun s call (alike : VelocityAlike s) records harmless => alike.record call records harmless)
      (VelocityAlike.start velocity) velocityHarmless,
    Machine.ownOutputs_eq_of_admits
      (fun s call (alike : SplitAlike s) asks => alike.query call asks)
      (fun s call (alike : SplitAlike s) records harmless => alike.record call records harmless)
      (SplitAlike.start split) splitHarmless⟩

section Sample

def minutes (number : Nat) : Instant := ⟨number * 60000000⟩

/-- A disbursement of one custodian. -/
def disbursed (transactionId : String) (time : Nat) : DisbursementRecord :=
  ⟨transactionId, "acme", "kwame", 1000000, minutes time⟩

/-- A purchase of a custodian at one merchant. -/
def bought (transactionId custodianId : String) (time : Nat) : TransactionEvent :=
  ⟨transactionId, "acme", custodianId, 3000000, minutes time, some "M-1", none, none, by decide⟩

def hourlyDetector : DisbursementVelocityDetector := ⟨⟨3, 3600⟩, .empty⟩

def splitDetector : SplitTransactionDetector := .empty ⟨5000000, 172800, 2, true⟩

/-- Three disbursements, a count at a given time, and a fourth disbursement. -/
def countedAt (time : Nat) : List VelocityCall :=
  [.recordAndCheck (disbursed "T1" 0), .recordAndCheck (disbursed "T2" 10),
    .recordAndCheck (disbursed "T3" 20), .getHourlyCount "acme" "kwame" (some (minutes time)),
    .recordAndCheck (disbursed "T4" 30)]

/-- A purchase, the clusters at a given time, and a purchase of another custodian. -/
def clusteredAt (time : Nat) : List SplitCall :=
  [.recordAndCheck (bought "T1" "kwame" 0), .getClusters "acme" (some (minutes time)),
    .recordAndCheck (bought "T2" "ama" 10)]

/-- Queries at the time of the last record change nothing. -/
theorem queries_harmless_sample
    : velocityMachine.ownOutputs VelocityCall.Records hourlyDetector (countedAt 30)
        = velocityMachine.ownOutputs VelocityCall.Records hourlyDetector
            ((countedAt 30).filter VelocityCall.Records)
      ∧ (splitMachine id).ownOutputs SplitCall.Records splitDetector (clusteredAt 10)
        = (splitMachine id).ownOutputs SplitCall.Records splitDetector
            ((clusteredAt 10).filter SplitCall.Records) :=
  queries_harmless hourlyDetector splitDetector id (by decide) (by decide)

/-- Asked about a later time in between, both detectors miss what they alert to otherwise. -/
theorem query_hides_alert
    : (velocityMachine.ownOutputs VelocityCall.Records hourlyDetector (countedAt 120)).map
          VelocityAnswer.alerts
        = [false, false, false, false]
      ∧ (velocityMachine.ownOutputs VelocityCall.Records hourlyDetector
          ((countedAt 120).filter VelocityCall.Records)).map VelocityAnswer.alerts
        = [false, false, false, true]
      ∧ ((splitMachine id).ownOutputs SplitCall.Records splitDetector
          (clusteredAt 4000)).map SplitAnswer.alerts
        = [false, false]
      ∧ ((splitMachine id).ownOutputs SplitCall.Records splitDetector
          ((clusteredAt 4000).filter SplitCall.Records)).map SplitAnswer.alerts
        = [false, true] := by
  decide

end Sample

end PettyFlow.Fraud
