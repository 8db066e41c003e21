import PettyFlow.Foundation.Clock
import PettyFlow.Foundation.Components
import PettyFlow.Foundation.Dict
import PettyFlow.Foundation.ExpiringWindow
import PettyFlow.Foundation.Machine
import PettyFlow.Foundation.Values

/-! The split-transaction detector: a window of recent events for each custodian and one for
each tenant, clusters of linked events in the tenant's window, and the alerts for an event.
-/

namespace PettyFlow.Fraud

open Foundation

/-- The exceptions of the detector, by class, with its own texts. -/
inductive FraudError where
  | valueError (message : String)
  | overflowError
deriving DecidableEq

/-- An event; the constructor refuses an amount that is not positive. -/
structure TransactionEvent where
  transactionId : String
  tenantId : String
  custodianId : String
  amountScaled : Int
  timestamp : Instant
  merchantId : Option String
  merchantName : Option String
  receiptHash : Option String
  positive : 0 < amountScaled

structure DetectorSettings where
  thresholdScaled : Int
  windowSeconds : Int
  minTxCount : Int
  enableGraphClustering : Bool
deriving DecidableEq

structure TransactionCluster where
  clusterId : String
  tenantId : String
  transactions : List TransactionEvent
  totalAmountScaled : Int
  custodiansInvolved : List String
  merchantsInvolved : List String
  windowStart : Instant
  windowEnd : Instant
  isSmurfing : Bool
  linkReasons : List String

structure SplitTransactionAlert where
  tenantId : String
  custodianId : String
  windowTransactionIds : List String
  windowTotalScaled : Int
  thresholdScaled : Int
  windowStart : Instant
  windowEnd : Instant
  alertCode : String
  alertType : String
  clusterId : Option String
  isSmurfing : Bool
  custodiansInvolved : List String
  merchantsInvolved : List String
deriving DecidableEq

structure SplitTransactionDetector where
  settings : DetectorSettings
  windows : Dict (String × String) (List TransactionEvent)
  tenantWindows : Dict String (List TransactionEvent)

/-- No window holds an event. -/
def SplitTransactionDetector.empty (settings : DetectorSettings) : SplitTransactionDetector :=
  ⟨settings, .empty, .empty⟩

def SplitTransactionDetector.new (settings : DetectorSettings)
    : Except FraudError SplitTransactionDetector :=
  if settings.thresholdScaled ≤ 0 then
    .error (.valueError "threshold_scaled must be positive")
  else
    .ok (.empty settings)

/-- The time of an event in microseconds. -/
def TransactionEvent.micros (event : TransactionEvent) : Int := event.timestamp.micros

def totalScaled (events : List TransactionEvent) : Int := (events.map (·.amountScaled)).sum

def transactionIds (events : List TransactionEvent) : List String := events.map (·.transactionId)

/-- The least time of a list of events that is not empty. -/
def earliest (events : List TransactionEvent) : Instant :=
  ⟨((events.map TransactionEvent.micros).min?).getD 0⟩

def latest (events : List TransactionEvent) : Instant :=
  ⟨((events.map TransactionEvent.micros).max?).getD 0⟩

/-- The texts of a set in order. -/
def sortedSet (texts : List String) : List String := texts.dedup.insertionSort (· ≤ ·)

namespace DetectorSettings

def windowMicros (settings : DetectorSettings) : Int := settings.windowSeconds * 1000000

/-- The window before a time begins within the calendar. -/
def Dated (settings : DetectorSettings) (reference : Instant) : Prop :=
  firstMicros ≤ reference.micros - settings.windowMicros
  ∧ reference.micros - settings.windowMicros ≤ lastMicros

instance (settings : DetectorSettings) (reference : Instant)
    : Decidable (settings.Dated reference) := by
  unfold Dated
  infer_instance

/-- Drop the events at the front that are older than the window before a time. -/
def evictExpired (settings : DetectorSettings) (window : List TransactionEvent)
    (reference : Instant)
    : Except FraudError (List TransactionEvent) :=
  if settings.Dated reference then
    .ok (expire TransactionEvent.micros settings.windowMicros reference.micros window)
  else
    .error .overflowError

/-- The text that two optional texts share, unless it is empty. -/
def sharedText (first second : Option String) : Option String :=
  match first, second with
  | some a, some b => if a ≠ "" ∧ b ≠ "" ∧ a = b then some a else none
  | _, _ => none

/-- The first of two names that agree without blanks at their ends and without regard to case. -/
def sharedName (lower : String → String) (first second : Option String) : Option String :=
  match first, second with
  | some a, some b =>
      let m1 := lower (strip a)
      let m2 := lower (strip b)
      if a ≠ "" ∧ b ≠ "" ∧ m1 = m2 ∧ m1 ≠ "" then some a else none
  | _, _ => none

/-- The reason for which two events are linked. Times are compared as exact numbers. -/
def areEventsLinked (settings : DetectorSettings) (lower : String → String)
    (e1 e2 : TransactionEvent)
    : Option String :=
  if settings.windowMicros < |e1.micros - e2.micros| then
    none
  else if e1.custodianId = e2.custodianId then
    some s!"SAME_CUSTODIAN({e1.custodianId})"
  else
    ((sharedText e1.merchantId e2.merchantId).map (fun id => s!"SAME_MERCHANT_ID({id})")).or
      (((sharedName lower e1.merchantName e2.merchantName).map
          (fun name => s!"SAME_MERCHANT_NAME({name})")).or
        ((sharedText e1.receiptHash e2.receiptHash).map
          (fun hash => s!"IDENTICAL_RECEIPT_HASH({hash})")))

/-- The linked pairs of positions, the smaller position first. A reason is never empty. -/
def linkedPairs (settings : DetectorSettings) (lower : String → String)
    (events : List TransactionEvent)
    : List (Nat × Nat × String) :=
  (List.range events.length).flatMap (fun i =>
    (List.range' (i + 1) (events.length - (i + 1))).filterMap (fun j => do
      let e1 ← events[i]?
      let e2 ← events[j]?
      let reason ← settings.areEventsLinked lower e1 e2
      return (i, j, reason)))

/-- The links of a position, in the order in which the pairs are found. -/
def adjacency (pairs : List (Nat × Nat × String)) (position : Nat) : List (Nat × String) :=
  pairs.flatMap (fun (i, j, reason) =>
    (if i = position then [(j, reason)] else []) ++ (if j = position then [(i, reason)] else []))

/-- The number of a cluster is part of its identifier. -/
def cluster (tenantId : String) (events : List TransactionEvent) (indices : List Nat)
    (linkReasons : List String) (number : Nat)
    : TransactionCluster :=
  let transactions := indices.filterMap (events[·]?)
  let custodians := sortedSet (transactions.map (·.custodianId))
  {
    clusterId := s!"CLUST-{tenantId}-{(earliest transactions).minuteDigits}-{number}"
    tenantId
    transactions
    totalAmountScaled := totalScaled transactions
    custodiansInvolved := custodians
    merchantsInvolved := sortedSet ((transactions.filterMap (·.merchantId)).filter (· ≠ ""))
    windowStart := earliest transactions
    windowEnd := latest transactions
    isSmurfing := decide (1 < custodians.length)
    linkReasons := sortedSet linkReasons
  }

/-- The clusters of the events in a tenant's window. -/
def clusters (settings : DetectorSettings) (lower : String → String) (tenantId : String)
    (events : List TransactionEvent)
    : List TransactionCluster :=
  if events.length < 2 then
    []
  else
    let adj := adjacency (settings.linkedPairs lower events)
    let found :=
      (Search.components adj (List.range events.length)).filter (fun (indices, _) =>
        settings.minTxCount ≤ indices.length)
    found.zipIdx.map (fun ((indices, reasons), position) =>
      cluster tenantId events indices reasons (position + 1))

/-- The alert for the first cluster that the event belongs to and that exceeds the threshold. -/
def clusterAlert (settings : DetectorSettings) (event : TransactionEvent)
    (clusters : List TransactionCluster)
    : Option SplitTransactionAlert := do
  let cluster ←
    clusters.find? (fun cluster =>
      event.transactionId ∈ transactionIds cluster.transactions
      ∧ settings.minTxCount ≤ cluster.transactions.length
      ∧ settings.thresholdScaled < cluster.totalAmountScaled)
  return {
    tenantId := event.tenantId
    custodianId := event.custodianId
    windowTransactionIds := transactionIds cluster.transactions
    windowTotalScaled := cluster.totalAmountScaled
    thresholdScaled := settings.thresholdScaled
    windowStart := cluster.windowStart
    windowEnd := cluster.windowEnd
    alertCode := "SPLIT_TRANSACTION_DETECTED"
    alertType := "SPLIT_TRANSACTION"
    clusterId := some cluster.clusterId
    isSmurfing := cluster.isSmurfing
    custodiansInvolved :=
      if cluster.custodiansInvolved = [] then [event.custodianId] else cluster.custodiansInvolved
    merchantsInvolved := cluster.merchantsInvolved
  }

/-- The alert for the window of the event's custodian, which ends with the event. -/
def custodianAlert (settings : DetectorSettings) (event : TransactionEvent)
    (window : List TransactionEvent)
    : Option SplitTransactionAlert :=
  if settings.minTxCount ≤ window.length ∧ settings.thresholdScaled < totalScaled window then
    some {
      tenantId := event.tenantId
      custodianId := event.custodianId
      windowTransactionIds := transactionIds window
      windowTotalScaled := totalScaled window
      thresholdScaled := settings.thresholdScaled
      windowStart := (window.headD event).timestamp
      windowEnd := (window.getLastD event).timestamp
      alertCode := "SPLIT_TRANSACTION_DETECTED"
      alertType := "SPLIT_TRANSACTION"
      clusterId := none
      isSmurfing := false
      custodiansInvolved := [event.custodianId]
      merchantsInvolved := []
    }
  else
    none

end DetectorSettings

namespace SplitTransactionDetector

/-- The clusters in the window of a tenant, which is read at a time if one is given. -/
def getClusters (s : SplitTransactionDetector) (lower : String → String) (tenantId : String)
    (reference : Option Instant)
    : Except FraudError (List TransactionCluster) × SplitTransactionDetector :=
  let window := s.tenantWindows.getD tenantId []
  if window = [] then
    (.ok [], s)
  else
    match reference.elim (.ok window) (s.settings.evictExpired window) with
    | .error error => (.error error, s)
    | .ok events =>
        (.ok (s.settings.clusters lower tenantId events),
          { s with tenantWindows := s.tenantWindows.set tenantId events })

/-- The sum of a custodian's window, which is read at a time if one is given. -/
def windowSum (s : SplitTransactionDetector) (tenantId custodianId : String)
    (reference : Option Instant)
    : Except FraudError Int × SplitTransactionDetector :=
  let key := (tenantId, custodianId)
  let window := s.windows.getD key []
  if window = [] then
    (.ok 0, s)
  else
    match reference.elim (.ok window) (s.settings.evictExpired window) with
    | .error error => (.error error, s)
    | .ok events => (.ok (totalScaled events), { s with windows := s.windows.set key events })

/-- Record an event in both windows, and answer with the custodian's window. A window that is
missing is made before the old events are evicted.
-/
def record (s : SplitTransactionDetector) (event : TransactionEvent)
    : Except FraudError (List TransactionEvent) × SplitTransactionDetector :=
  let key := (event.tenantId, event.custodianId)
  let window := s.windows.getD key []
  match s.settings.evictExpired window event.timestamp with
  | .error error => (.error error, { s with windows := s.windows.set key window })
  | .ok kept =>
      let s := { s with windows := s.windows.set key (kept ++ [event]) }
      let tenantWindow := s.tenantWindows.getD event.tenantId []
      match s.settings.evictExpired tenantWindow event.timestamp with
      | .error error =>
          (.error error,
            { s with tenantWindows := s.tenantWindows.set event.tenantId tenantWindow })
      | .ok keptTenant =>
          (.ok (kept ++ [event]),
            {
              s with
              tenantWindows := s.tenantWindows.set event.tenantId (keptTenant ++ [event])
            })

def recordAndCheck (s : SplitTransactionDetector) (lower : String → String)
    (event : TransactionEvent)
    : Except FraudError (Option SplitTransactionAlert) × SplitTransactionDetector :=
  match s.record event with
  | (.error error, s) => (.error error, s)
  | (.ok custodianWindow, s) =>
      let fallback := s.settings.custodianAlert event custodianWindow
      if s.settings.enableGraphClustering then
        match s.getClusters lower event.tenantId (some event.timestamp) with
        | (.error error, s) => (.error error, s)
        | (.ok clusters, s) => (.ok ((s.settings.clusterAlert event clusters).or fallback), s)
      else
        (.ok fallback, s)

/-- Drop the window of a custodian, and the custodian's events from the tenant's window. -/
def clearCustodian (s : SplitTransactionDetector) (tenantId custodianId : String)
    : SplitTransactionDetector :=
  let tenantWindow := s.tenantWindows.getD tenantId []
  {
    s with
    windows := s.windows.erase (tenantId, custodianId)
    tenantWindows :=
      if tenantWindow = [] then
        s.tenantWindows
      else
        s.tenantWindows.set tenantId (tenantWindow.filter (·.custodianId ≠ custodianId))
  }

end SplitTransactionDetector

abbrev Verdict := Except FraudError (Option SplitTransactionAlert)

/-- A detector is fed one event after the other. `lower` gives a text in small letters. -/
def detectorMachine (lower : String → String)
    : Machine SplitTransactionDetector TransactionEvent Verdict where
  step s event := s.recordAndCheck lower event

end PettyFlow.Fraud
