import PettyFlow.Fraud.SplitTxDetector

/-! The velocity detector: a window of recent disbursements for each custodian, and an alert
for a disbursement that makes them too many.
-/

namespace PettyFlow.Fraud

open Foundation

structure DisbursementRecord where
  transactionId : String
  tenantId : String
  custodianId : String
  amountScaled : Int
  timestamp : Instant
deriving DecidableEq

structure VelocityAnomalyAlert where
  tenantId : String
  custodianId : String
  transactionId : String
  hourlyCount : Int
  maxAllowed : Int
  windowSeconds : Int
  windowTotalScaled : Int
  transactionIds : List String
  timestamp : Instant
  alertCode : String
  reason : String
deriving DecidableEq

structure VelocitySettings where
  maxDisbursementsPerHour : Int
  windowSeconds : Int
deriving DecidableEq

structure DisbursementVelocityDetector where
  settings : VelocitySettings
  windows : Dict (String × String) (List DisbursementRecord)

/-- The time of a disbursement in microseconds. -/
def DisbursementRecord.micros (record : DisbursementRecord) : Int := record.timestamp.micros

def recordedTotal (records : List DisbursementRecord) : Int := (records.map (·.amountScaled)).sum

namespace VelocitySettings

def windowMicros (settings : VelocitySettings) : Int := settings.windowSeconds * 1000000

/-- The window before a time begins within the calendar. -/
def Dated (settings : VelocitySettings) (reference : Instant) : Prop :=
  firstMicros ≤ reference.micros - settings.windowMicros
  ∧ reference.micros - settings.windowMicros ≤ lastMicros

instance (settings : VelocitySettings) (reference : Instant)
    : Decidable (settings.Dated reference) := by
  unfold Dated
  infer_instance

/-- Drop the records at the front that are older than the window before a time. -/
def evictExpired (settings : VelocitySettings) (window : List DisbursementRecord)
    (reference : Instant)
    : Except FraudError (List DisbursementRecord) :=
  if settings.Dated reference then
    .ok (expire DisbursementRecord.micros settings.windowMicros reference.micros window)
  else
    .error .overflowError

/-- The alert for a record and the window that ends with it. -/
def alert (settings : VelocitySettings) (record : DisbursementRecord)
    (window : List DisbursementRecord)
    : Option VelocityAnomalyAlert :=
  if settings.maxDisbursementsPerHour < window.length then
    some {
      tenantId := record.tenantId
      custodianId := record.custodianId
      transactionId := record.transactionId
      hourlyCount := window.length
      maxAllowed := settings.maxDisbursementsPerHour
      windowSeconds := settings.windowSeconds
      windowTotalScaled := recordedTotal window
      transactionIds := window.map (·.transactionId)
      timestamp := record.timestamp
      alertCode := "VELOCITY_ANOMALY_DETECTED"
      reason :=
        s!"Custodian {record.custodianId} exceeded disbursement velocity threshold: "
          ++ s!"{window.length} transactions in 1 hour "
          ++ s!"(limit: {settings.maxDisbursementsPerHour})"
    }
  else
    none

end VelocitySettings

namespace DisbursementVelocityDetector

def new (settings : VelocitySettings) : Except FraudError DisbursementVelocityDetector :=
  if settings.maxDisbursementsPerHour ≤ 0 then
    .error (.valueError "max_disbursements_per_hour must be positive")
  else
    .ok ⟨settings, .empty⟩

/-- Record a disbursement. A window that is missing is made before the old records are
evicted.
-/
def recordAndCheck (s : DisbursementVelocityDetector) (record : DisbursementRecord)
    : Except FraudError (Option VelocityAnomalyAlert) × DisbursementVelocityDetector :=
  let key := (record.tenantId, record.custodianId)
  let window := s.windows.getD key []
  match s.settings.evictExpired window record.timestamp with
  | .error error => (.error error, { s with windows := s.windows.set key window })
  | .ok kept =>
      (.ok (s.settings.alert record (kept ++ [record])),
        { s with windows := s.windows.set key (kept ++ [record]) })

/-- What a query computes from a custodian's window, which is read at a time if one is given.
An empty window is not read.
-/
def query (s : DisbursementVelocityDetector) (result : List DisbursementRecord → Int)
    (tenantId custodianId : String) (reference : Option Instant)
    : Except FraudError Int × DisbursementVelocityDetector :=
  let key := (tenantId, custodianId)
  let window := s.windows.getD key []
  if window = [] then
    (.ok 0, s)
  else
    match reference.elim (.ok window) (s.settings.evictExpired window) with
    | .error error => (.error error, s)
    | .ok records => (.ok (result records), { s with windows := s.windows.set key records })

def getHourlyCount (s : DisbursementVelocityDetector) (tenantId custodianId : String)
    (reference : Option Instant)
    : Except FraudError Int × DisbursementVelocityDetector :=
  s.query (fun records => records.length) tenantId custodianId reference

def getHourlyTotalScaled (s : DisbursementVelocityDetector) (tenantId custodianId : String)
    (reference : Option Instant)
    : Except FraudError Int × DisbursementVelocityDetector :=
  s.query recordedTotal tenantId custodianId reference

end DisbursementVelocityDetector

end PettyFlow.Fraud
