import PettyFlow.Fraud.DuplicateReceipts
import PettyFlow.Fraud.RiskScorer
import PettyFlow.Fraud.VelocityDetector
import PettyFlow.Fraud.WindowClusters

/-! A transaction that the detectors have looked at, scored by what they found. -/

namespace PettyFlow.Fraud

open Foundation

/-- The request to score an event, with the distance of its receipt's flag, the window of its
split alert, and the number of transactions in the last hour.
-/
def screeningRequest (event : TransactionEvent) (flag : Option DuplicateFlag)
    (alert : Option SplitTransactionAlert) (hourlyTxCount : Int)
    (historicalAmountsScaled : List Int) (categoryAnomaly : Bool)
    : ScoreRequest where
  transactionId := event.transactionId
  tenantId := event.tenantId
  custodianId := event.custodianId
  amountScaled := event.amountScaled
  duplicateHammingDistance := flag.map (fun flag => flag.hammingDistance)
  splitWindowTotalScaled := alert.map (·.windowTotalScaled)
  splitThresholdScaled := alert.map (·.thresholdScaled)
  historicalAmountsScaled
  hourlyTxCount
  categoryAnomaly
  isSmurfing := alert.any (·.isSmurfing)

/-! ### Detectors -/

/-- A flag is within the threshold of its detector. -/
theorem register_within {computeDhash : Bytes → Except String Nat}
    {duplicates : DuplicateReceiptDetector} {receipt : ReceiptImage} {flag : DuplicateFlag}
    (registered : (duplicates.register computeDhash receipt).1 = .ok (some flag))
    : flag.hammingDistance ≤ duplicates.duplicateThreshold := by
  unfold DuplicateReceiptDetector.register at registered
  split at registered
  · cases registered
  · dsimp only at registered
    split at registered
    · rename_i existing dist found
      obtain rfl := Option.some.inj (Except.ok.inj registered)
      obtain ⟨_, _, _, _, _, near⟩ := DuplicateReceiptDetector.firstWithin_eq_some_iff.mp found
      exact near
    · cases registered

/-- The window of an alert exceeds the threshold that the alert names. -/
theorem clusterAlert_exceeds {settings : DetectorSettings} {event : TransactionEvent}
    {clusters : List TransactionCluster} {alert : SplitTransactionAlert}
    (raised : settings.clusterAlert event clusters = some alert)
    : alert.thresholdScaled < alert.windowTotalScaled := by
  obtain ⟨cluster, found, made⟩ := Option.bind_eq_some_iff.mp raised
  obtain rfl := Option.some.inj made
  have passes := List.find?_some found
  exact (of_decide_eq_true passes).2.2

theorem custodianAlert_exceeds {settings : DetectorSettings} {event : TransactionEvent}
    {window : List TransactionEvent} {alert : SplitTransactionAlert}
    (raised : settings.custodianAlert event window = some alert)
    : alert.thresholdScaled < alert.windowTotalScaled := by
  unfold DetectorSettings.custodianAlert at raised
  split at raised
  · rename_i passes
    obtain rfl := Option.some.inj raised
    exact passes.2
  · cases raised

theorem recordAndCheck_exceeds {splits : SplitTransactionDetector} {lower : String → String}
    {event : TransactionEvent} {alert : SplitTransactionAlert}
    (recorded : (splits.recordAndCheck lower event).1 = .ok (some alert))
    : alert.thresholdScaled < alert.windowTotalScaled := by
  unfold SplitTransactionDetector.recordAndCheck at recorded
  split at recorded
  · cases recorded
  · dsimp only at recorded
    split at recorded
    · split at recorded
      · cases recorded
      · have either := Except.ok.inj recorded
        rcases Option.or_eq_some_iff.mp either with cluster | ⟨_, custodian⟩
        · exact clusterAlert_exceeds cluster
        · exact custodianAlert_exceeds custodian
    · exact custodianAlert_exceeds (Except.ok.inj recorded)

/-- After a disbursement the count of its custodian tells whether an alert was raised. -/
theorem velocity_count {velocity next : DisbursementVelocityDetector} {record : DisbursementRecord}
    {fast : Option VelocityAnomalyAlert}
    (checked : velocity.recordAndCheck record = (.ok fast, next))
    : ∃ count : Int,
        (next.getHourlyCount record.tenantId record.custodianId none).1 = .ok count
        ∧ (fast.isSome ↔ velocity.settings.maxDisbursementsPerHour < count) := by
  unfold DisbursementVelocityDetector.recordAndCheck at checked
  dsimp only at checked
  split at checked
  · cases checked
  · rename_i kept _
    obtain ⟨outcome, rfl⟩ := Prod.mk.inj checked
    obtain rfl := Except.ok.inj outcome
    refine ⟨(kept ++ [record]).length, ?_, ?_⟩
    · unfold DisbursementVelocityDetector.getHourlyCount DisbursementVelocityDetector.query
      dsimp only
      rw [Dict.getD_set_self, if_neg (by simp)]
      rfl
    · unfold VelocitySettings.alert
      split
      · rename_i many
        exact iff_of_true rfl many
      · rename_i few
        exact iff_of_false (by decide) few

/-! ### Scores -/

/-- What a score says of the findings: each flag is the finding of its detector, and a transaction
is blocked for a duplicate receipt, or for a split beside two of the weaker findings.
-/
structure Screened (flag : Option DuplicateFlag) (alert : Option SplitTransactionAlert)
    (fast : Option VelocityAnomalyAlert) (categoryAnomaly : Bool) (result : RiskScoreResult)
    : Prop where
  duplicate : result.duplicateReceiptFlag = flag.isSome
  split : result.splitTransactionFlag = alert.isSome
  velocity : result.velocityFlag = fast.isSome
  category : result.categoryAnomalyFlag = categoryAnomaly
  blocked
    : result.isBlocked
      ↔ flag.isSome
        ∨ alert.isSome ∧ Bool.atLeastTwo categoryAnomaly result.amountAnomalyFlag fast.isSome
  critical
    : result.riskLevel = .critical
      ↔ flag.isSome
        ∧ (alert.isSome ∨ categoryAnomaly ∧ result.amountAnomalyFlag ∧ fast.isSome)

namespace FraudRiskScorer

variable {scorer : FraudRiskScorer}

theorem duplicateSignal_isSome {flag : Option DuplicateFlag}
    (within : ∀ flag' ∈ flag, (flag'.hammingDistance : Int) ≤ scorer.duplicateBitThreshold)
    : (scorer.duplicateSignal (flag.map (fun flag => flag.hammingDistance))).isSome
      = flag.isSome := by
  cases flag with
  | none => rfl
  | some flag =>
      have near := within flag rfl
      simp [duplicateSignal, near]

/-- An alert fires the split signal, unless its total has no text. -/
theorem splitSignal_alert {alert : Option SplitTransactionAlert}
    (exceeds : ∀ alert' ∈ alert, alert'.thresholdScaled < alert'.windowTotalScaled)
    : (∀ signal,
        splitSignal (alert.map (·.windowTotalScaled)) (alert.map (·.thresholdScaled))
            (alert.any (·.isSmurfing))
          = .ok signal
        → signal.isSome = alert.isSome)
      ∧ ((∃ error,
          splitSignal (alert.map (·.windowTotalScaled)) (alert.map (·.thresholdScaled))
              (alert.any (·.isSmurfing))
            = .error error)
        ↔ ∃ alert' ∈ alert, centsText alert'.windowTotalScaled = none) := by
  cases alert with
  | none => simp [splitSignal]
  | some alert =>
      have above := exceeds alert rfl
      cases written : centsText alert.windowTotalScaled with
      | none => simp [splitSignal, above, written, orRaise, bind, Except.bind]
      | some text =>
          simp [splitSignal, above, written, orRaise, bind, Except.bind, pure, Except.pure]

theorem zscoreOf_error_iff {math : FloatMath} {request : ScoreRequest}
    : (∃ error, zscoreOf math request = .error error)
      ↔ ZscoreOverflows math request.amountScaled request.historicalAmountsScaled := by
  rw [zscoreOf]
  split
  · exact computeZscore_error_iff
  · rename_i few
    exact iff_of_false (by simp) (fun overflows => few overflows.1)

theorem velocitySignal_isSome (hourlyTxCount : Int)
    : (scorer.velocitySignal hourlyTxCount).isSome ↔ scorer.velocityThreshold < hourlyTxCount := by
  unfold velocitySignal
  split
  · rename_i many
    exact iff_of_true rfl many
  · rename_i few
    exact iff_of_false (by decide) few

end FraudRiskScorer

/-- Whatever the detectors have recorded, where their thresholds are those of the scorer: a score
has exactly the flags that the detectors raised, and blocks for a duplicate or for a split beside
two weaker findings. Only with a window total beyond the doubles, or with amounts whose z-score
overflows, there is no score, and amounts of up to 256 bits are none of these.
-/
theorem screening_score {scorer : FraudRiskScorer} {computeDhash : Bytes → Except String Nat}
    {lower : String → String} {duplicates : DuplicateReceiptDetector}
    {splits : SplitTransactionDetector} {velocity next : DisbursementVelocityDetector}
    {receipt : ReceiptImage} {event : TransactionEvent} {record : DisbursementRecord}
    {flag : Option DuplicateFlag} {alert : Option SplitTransactionAlert}
    {fast : Option VelocityAnomalyAlert} {hourlyTxCount : Int}
    (math : FloatMath) (now : Instant) (historicalAmountsScaled : List Int)
    (categoryAnomaly : Bool)
    (registered : (duplicates.register computeDhash receipt).1 = .ok flag)
    (recorded : (splits.recordAndCheck lower event).1 = .ok alert)
    (checked : velocity.recordAndCheck record = (.ok fast, next))
    (counted
      : (next.getHourlyCount record.tenantId record.custodianId none).1 = .ok hourlyTxCount)
    (close : duplicates.duplicateThreshold ≤ scorer.duplicateBitThreshold)
    (limit : velocity.settings.maxDisbursementsPerHour = scorer.velocityThreshold)
    : let scored :=
        scorer.score math now
          (screeningRequest event flag alert hourlyTxCount historicalAmountsScaled categoryAnomaly)
      (∀ result, scored = .ok result → Screened flag alert fast categoryAnomaly result)
      ∧ ((∃ error, scored = .error error)
        ↔ (∃ alert' ∈ alert, centsText alert'.windowTotalScaled = none)
          ∨ ZscoreOverflows math event.amountScaled historicalAmountsScaled)
      ∧ ((∀ x : ℚ, |x| < 2 ^ 300 → (math.square x).isSome)
        → (∀ amount ∈ event.amountScaled :: historicalAmountsScaled, |amount| < 2 ^ 256)
        → ¬ ZscoreOverflows math event.amountScaled historicalAmountsScaled) := by
  have within : ∀ flag' ∈ flag, (flag'.hammingDistance : Int) ≤ scorer.duplicateBitThreshold := by
    rintro flag' rfl
    exact (register_within registered).trans close
  have exceeds : ∀ alert' ∈ alert, alert'.thresholdScaled < alert'.windowTotalScaled := by
    rintro alert' rfl
    exact recordAndCheck_exceeds recorded
  obtain ⟨count, read, tells⟩ := velocity_count checked
  obtain rfl := Except.ok.inj (read.symm.trans counted)
  obtain ⟨fired, raised⟩ := FraudRiskScorer.splitSignal_alert exceeds
  refine ⟨fun scoredResult scored => ?_, ?_, not_zscoreOverflows⟩
  · have weighed := scorer.score_weighed scored
    obtain ⟨split, evaluated, scored⟩ := bind_ok scored
    obtain ⟨zscore, _, made⟩ := bind_ok scored
    have duplicate := FraudRiskScorer.duplicateSignal_isSome within
    have velocityFlag : (scorer.velocitySignal count).isSome = fast.isSome := by
      rw [Bool.eq_iff_iff, FraudRiskScorer.velocitySignal_isSome, tells, limit]
    have same := Except.ok.inj made
    have duplicateFlag : scoredResult.duplicateReceiptFlag = flag.isSome := by
      rw [← same]
      exact duplicate
    have splitFlag : scoredResult.splitTransactionFlag = alert.isSome := by
      rw [← same]
      exact fired split evaluated
    have fastFlag : scoredResult.velocityFlag = fast.isSome := by
      rw [← same]
      exact velocityFlag
    have categoryFlag : scoredResult.categoryAnomalyFlag = categoryAnomaly := by rw [← same]; rfl
    exact ⟨duplicateFlag, splitFlag, fastFlag, categoryFlag,
      by rw [weighed.blocked, duplicateFlag, splitFlag, fastFlag, categoryFlag],
      by rw [weighed.critical, duplicateFlag, splitFlag, fastFlag, categoryFlag]⟩
  · let request :=
      screeningRequest event flag alert count historicalAmountsScaled categoryAnomaly
    have overflows : (∃ error, FraudRiskScorer.zscoreOf math request = .error error)
        ↔ ZscoreOverflows math event.amountScaled historicalAmountsScaled :=
      FraudRiskScorer.zscoreOf_error_iff
    rw [← raised, ← overflows]
    unfold FraudRiskScorer.score
    dsimp only [request, screeningRequest]
    generalize FraudRiskScorer.splitSignal (alert.map (·.windowTotalScaled)) _ _ = evaluated
    generalize FraudRiskScorer.zscoreOf math _ = computed
    cases evaluated with
    | error error => simp [bind, Except.bind]
    | ok split =>
        cases computed with
        | error error => simp [bind, Except.bind]
        | ok zscore => simp [bind, Except.bind, pure, Except.pure]

/-- The squares and sums of correctly rounded floats. -/
def roundedMath : FloatMath where
  square x :=
    match FloatValue.nearest (x * x) with
    | .finite square => some square
    | _ => none
  sum values := values.foldl .add (.finite 0)

/-- A second payment of a custodian, which makes the window exceed the threshold. -/
def secondPayment : TransactionEvent := payment "T2" "A" "c1" 30

def paidOnce : SplitTransactionDetector :=
  ((SplitTransactionDetector.empty defaultSettings).recordAndCheck id (payment "T1" "A" "c1" 0)).2

def secondDisbursement : DisbursementRecord := ⟨"T2", "A", "c1", 3000000, ⟨0⟩⟩

def idleVelocity : DisbursementVelocityDetector := ⟨⟨3, 3600⟩, .empty⟩

def secondReceipt : ReceiptImage := ⟨"A", "R2", "c1", [], "2026-01-01"⟩

def splitFound : Option SplitTransactionAlert :=
  (paidOnce.recordAndCheck id secondPayment).1.toOption.getD none

theorem screening_score_sample
    : let scored :=
        FraudRiskScorer.new.score roundedMath ⟨0⟩
          (screeningRequest secondPayment none splitFound 1 [3000000, 3100000] true)
      (∀ result, scored = .ok result → Screened none splitFound none true result)
      ∧ ((∃ error, scored = .error error)
        ↔ (∃ alert' ∈ splitFound, centsText alert'.windowTotalScaled = none)
          ∨ ZscoreOverflows roundedMath secondPayment.amountScaled [3000000, 3100000])
      ∧ ((∀ x : ℚ, |x| < 2 ^ 300 → (roundedMath.square x).isSome)
        → (∀ amount ∈ [secondPayment.amountScaled, 3000000, 3100000], |amount| < 2 ^ 256)
        → ¬ ZscoreOverflows roundedMath secondPayment.amountScaled [3000000, 3100000]) :=
  screening_score roundedMath ⟨0⟩ [3000000, 3100000] true
    (rfl : ((DuplicateReceiptDetector.new 5).register (fun _ => .ok 0) secondReceipt).1 = .ok none)
    (by decide +kernel : (paidOnce.recordAndCheck id secondPayment).1 = .ok splitFound)
    (rfl : idleVelocity.recordAndCheck secondDisbursement
      = (.ok none, (idleVelocity.recordAndCheck secondDisbursement).2))
    (by decide +kernel) (by decide) rfl

end PettyFlow.Fraud
