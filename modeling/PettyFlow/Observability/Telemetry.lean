import PettyFlow.Foundation.Dict
import PettyFlow.Foundation.FloatValue
import PettyFlow.Foundation.Machine

/-! Metrics, alerts and their listeners, and the drills that report to them. -/

namespace PettyFlow.Observability

open Foundation

inductive AlertSeverity where
  | p1Critical
  | p2High
  | p3Warning
deriving DecidableEq

def AlertSeverity.value : AlertSeverity → String
  | .p1Critical => "P1_CRITICAL"
  | .p2High => "P2_HIGH"
  | .p3Warning => "P3_WARNING"

/-- What an alert is about. -/
structure AlertBody where
  tenantId : String
  metricName : String
  severity : AlertSeverity
  message : String
  currentValue : FloatValue
  thresholdValue : FloatValue
  runbookUrl : String

structure AlertEvent extends AlertBody where
  alertId : String
  timestampUtc : String

/-- The event of an alert, with the number that it gets. -/
def AlertBody.event (body : AlertBody) (number : Nat) (now : Instant) : AlertEvent :=
  ⟨body, "alt-" ++ zeroPadded 4 number, now.isoformat⟩

/-- One recorded value. The time of the recording is not read by anything. -/
structure MetricEntry where
  value : FloatValue
  tags : Dict String String

inductive TelemetryError where
  | overflowError (message : String)
  | valueError (message : String)
deriving DecidableEq

def toFloat (n : Int) : Except TelemetryError FloatValue :=
  orRaise (FloatValue.ofInt? n) (.overflowError "int too large to convert to float")

/-- The integer part of a number. -/
def truncate : FloatValue → Except TelemetryError Int
  | .finite value => .ok (if value < 0 then -⌊-value⌋ else ⌊value⌋)
  | .infinite _ => .error (.overflowError "cannot convert float infinity to integer")
  | .nan => .error (.valueError "cannot convert float NaN to integer")

/-- The registry, and beside it which listener was called with which alert. What a listener raises
is dropped.
-/
structure TelemetryRegistry (Λ : Type) where
  metrics : Dict String (List MetricEntry)
  alertsHistory : List AlertEvent
  alertListeners : List Λ
  told : List (Λ × AlertEvent)

structure SystemHealth where
  status : String
  p1AlertsCount : Nat
  p2AlertsCount : Nat
  p3AlertsCount : Nat
  metricsTracked : List String
deriving DecidableEq

inductive DrillReport where
  | failed (varianceScaled : Int)
  | success (matched : Int)
  | alerted (failureRate : FloatValue)
  | normal (failureRate : FloatValue)

namespace TelemetryRegistry

variable {Λ : Type}

def new : TelemetryRegistry Λ := ⟨.empty, [], [], []⟩

/-- Record a value, a counter's or a latency's. -/
def record (s : TelemetryRegistry Λ) (metricName : String) (entry : MetricEntry)
    : TelemetryRegistry Λ :=
  { s with metrics := s.metrics.set metricName (s.metrics.getD metricName [] ++ [entry]) }

/-- Record a whole number, which is made a float only after the metric has been looked up, so that
a number that is too large leaves a metric without values.
-/
def recordWhole (s : TelemetryRegistry Λ) (metricName : String) (value : Int)
    (tags : Dict String String)
    : Except TelemetryError Unit × TelemetryRegistry Λ :=
  match toFloat value with
  | .ok value => (.ok (), s.record metricName ⟨value, tags⟩)
  | .error error =>
      (.error error,
        { s with metrics := s.metrics.set metricName (s.metrics.getD metricName []) })

/-- An entry has all the tags that are asked for. -/
def matchesTags (tagFilter : Dict String String) (entry : MetricEntry) : Bool :=
  tagFilter.entries.all (fun (key, value) => entry.tags.get? key = some value)

def getMetricSum (s : TelemetryRegistry Λ) (metricName : String) (tagFilter : Dict String String)
    : FloatValue :=
  ((s.metrics.getD metricName []).filter (matchesTags tagFilter)).foldl
    (fun total entry => total.add entry.value) (.finite 0)

def getMetricCount (s : TelemetryRegistry Λ) (metricName : String) (tagFilter : Dict String String)
    : Nat :=
  ((s.metrics.getD metricName []).filter (matchesTags tagFilter)).length

def addAlertListener (s : TelemetryRegistry Λ) (listener : Λ) : TelemetryRegistry Λ :=
  { s with alertListeners := s.alertListeners ++ [listener] }

def triggerAlert (s : TelemetryRegistry Λ) (now : Instant) (body : AlertBody)
    : AlertEvent × TelemetryRegistry Λ :=
  let event := body.event (s.alertsHistory.length + 1) now
  (event,
    {
      s with
      alertsHistory := s.alertsHistory ++ [event]
      told := s.told ++ s.alertListeners.map (fun listener => (listener, event))
    })

/-- All alerts, or those of one severity only, higher ones excluded. -/
def getActiveAlerts (s : TelemetryRegistry Λ) (minSeverity : Option AlertSeverity)
    : List AlertEvent :=
  match minSeverity with
  | none => s.alertsHistory
  | some severity => s.alertsHistory.filter (fun a => a.severity = severity)

def evaluateSystemHealth (s : TelemetryRegistry Λ) : SystemHealth :=
  let p1 := (s.getActiveAlerts (some .p1Critical)).length
  let p2 := (s.getActiveAlerts (some .p2High)).length
  {
    status := if 0 < p1 then "CRITICAL" else if 0 < p2 then "DEGRADED" else "HEALTHY"
    p1AlertsCount := p1
    p2AlertsCount := p2
    p3AlertsCount := (s.getActiveAlerts (some .p3Warning)).length
    metricsTracked := s.metrics.entries.map Prod.fst
  }

/-! ### Drills -/

def tenantTag (tenantId : String) : Dict String String := Dict.empty.set "tenant_id" tenantId

def varianceAlert (tenantId : String) (varianceScaled : Int) (current : FloatValue) : AlertBody where
  tenantId
  metricName := "ledger.unreconciled_variance"
  severity := .p1Critical
  message := s!"Unreconciled bank ledger variance detected: {varianceScaled} scaled units."
  currentValue := current
  thresholdValue := .finite 0
  runbookUrl := "https://docs.pettyflow.internal/runbooks/ledger-variance"

/-- Counters of a tenant, one after the other, so that an error leaves those before it. -/
def recordCounters (tenantId : String)
    : TelemetryRegistry Λ → List (String × Int) → Except TelemetryError Unit × TelemetryRegistry Λ
  | s, [] => (.ok (), s)
  | s, (metricName, value) :: rest =>
      match s.recordWhole metricName value (tenantTag tenantId) with
      | (.error error, s) => (.error error, s)
      | (.ok _, s) => s.recordCounters tenantId rest

def executeBankReconciliationDrill (s : TelemetryRegistry Λ) (now : Instant) (tenantId : String)
    (matchedRecords unmatchedRecords varianceScaled : Int)
    : Except TelemetryError DrillReport × TelemetryRegistry Λ :=
  match
    s.recordCounters tenantId [
      ("bank.reconciliation.matched", matchedRecords),
      ("bank.reconciliation.unmatched", unmatchedRecords)
    ]
  with
  | (.error error, s) => (.error error, s)
  | (.ok _, s) =>
      if varianceScaled ≠ 0 then
        match toFloat varianceScaled with
        | .error error => (.error error, s)
        | .ok current =>
            (.ok (.failed varianceScaled),
              (s.triggerAlert now (varianceAlert tenantId varianceScaled current)).2)
      else
        (.ok (.success matchedRecords), s)

/-- The rate from which on a retry storm is an alert. -/
def stormThreshold : FloatValue := FloatValue.nearest (1 / 5)

def stormAlert (tenantId : String) (failureRate : FloatValue) : AlertBody where
  tenantId
  metricName := "provider.failure_rate"
  severity := .p2High
  message :=
    "High provider failure rate detected: "
      ++ (failureRate.mul (.finite 100)).fixed 1 false ++ "%."
  currentValue := failureRate
  thresholdValue := stormThreshold
  runbookUrl := "https://docs.pettyflow.internal/runbooks/provider-outage"

/-- The failures of a storm, in whole requests. -/
def stormFailures (attemptedRequests : Int) (failureRate : FloatValue)
    : Except TelemetryError Int := do
  let attempted ← toFloat attemptedRequests
  truncate (attempted.mul failureRate)

def executeRetryStormDrill (s : TelemetryRegistry Λ) (now : Instant) (tenantId : String)
    (attemptedRequests : Int) (failureRate : FloatValue)
    : Except TelemetryError DrillReport × TelemetryRegistry Λ :=
  match stormFailures attemptedRequests failureRate with
  | .error error => (.error error, s)
  | .ok failures =>
      match
        s.recordCounters tenantId [
          ("disbursement.requests.total", attemptedRequests),
          ("disbursement.requests.failed", failures)
        ]
      with
      | (.error error, s) => (.error error, s)
      | (.ok _, s) =>
          if stormThreshold.le failureRate then
            (.ok (.alerted failureRate),
              (s.triggerAlert now (stormAlert tenantId failureRate)).2)
          else
            (.ok (.normal failureRate), s)

end TelemetryRegistry

inductive TelemetryCall (Λ : Type) where
  | recordCounter (metricName : String) (entry : MetricEntry)
  | recordLatency (metricName : String) (entry : MetricEntry)
  | addAlertListener (listener : Λ)
  | triggerAlert (now : Instant) (body : AlertBody)
  | executeBankReconciliationDrill (now : Instant) (tenantId : String)
    (matchedRecords unmatchedRecords varianceScaled : Int)
  | executeRetryStormDrill (now : Instant) (tenantId : String) (attemptedRequests : Int)
    (failureRate : FloatValue)

inductive TelemetryAnswer where
  | done
  | alert (event : AlertEvent)
  | drilled (report : Except TelemetryError DrillReport)

/-- The operations that change the registry; questions do not. -/
def telemetryMachine (Λ : Type)
    : Machine (TelemetryRegistry Λ) (TelemetryCall Λ) TelemetryAnswer where
  step s call :=
    match call with
    | .recordCounter metricName entry => (.done, s.record metricName entry)
    | .recordLatency metricName entry => (.done, s.record metricName entry)
    | .addAlertListener listener => (.done, s.addAlertListener listener)
    | .triggerAlert now body =>
        let (event, next) := s.triggerAlert now body
        (.alert event, next)
    | .executeBankReconciliationDrill now tenantId matched unmatched variance =>
        let (report, next) :=
          s.executeBankReconciliationDrill now tenantId matched unmatched variance
        (.drilled report, next)
    | .executeRetryStormDrill now tenantId attempted rate =>
        let (report, next) := s.executeRetryStormDrill now tenantId attempted rate
        (.drilled report, next)

end PettyFlow.Observability
