import PettyFlow.Reconciliation.Matcher

/-! Analysis of a reconciliation: what happens with a cash variance, and the balanced journal
that adjusts it. The settlement that the matcher and the analysis come to is compared.
-/

namespace PettyFlow.Reconciliation

open Foundation Ledger

inductive VarianceDisposition where
  | autoAdjusted
  | pendingApproval
  | escalatedAudit
  | rejected
deriving DecidableEq

structure VarianceAnalysisResult where
  analysisId : String
  reconciliationId : String
  tenantId : String
  fundId : String
  varianceScaled : Int
  varianceFormatted : String
  disposition : VarianceDisposition
  isAutoAdjusted : Bool
  requiresEscalation : Bool
  requiredRole : Option String
  adjustmentBatch : Option TransactionBatch
  policySummary : String
  analyzedAt : String

structure VarianceAnalyzer where
  autoAdjustThresholdScaled : Int
  managerThresholdScaled : Int
  cashOverShortAccountId : String

def balancedSummary : String := "No variance detected. Fund is perfectly balanced."

/-- A journal of two legs over one amount. -/
structure Journal (batch : TransactionBatch) (debited credited : String) (amount : Int) : Prop where
  legs
    : ∃ debit credit,
        batch.legs = [debit, credit]
        ∧ (debit.accountId = debited ∧ debit.entryType = .member .debit
          ∧ debit.amountScaled = amount)
        ∧ credit.accountId = credited ∧ credit.entryType = .member .credit
          ∧ credit.amountScaled = amount

theorem Journal.totals {batch : TransactionBatch} {debited credited : String} {amount : Int}
    (journal : Journal batch debited credited amount)
    : batch.totalDebits = amount ∧ batch.totalCredits = amount := by
  obtain ⟨debit, credit, legs, ⟨_, debitType, debitAmount⟩, _, creditType, creditAmount⟩ :=
    journal.legs
  simp [TransactionBatch.totalDebits, TransactionBatch.totalCredits, legs, debitType,
    creditType, debitAmount, creditAmount]

namespace VarianceAnalyzer

/-- The thresholds and the account that hold without other settings. -/
def default : VarianceAnalyzer := ⟨50000, 500000, "ACC_CASH_OVER_SHORT"⟩

/-- A journal between the fund and the over-and-short account: a shortage is charged to the
latter, an overage to the fund.
-/
def generateAdjustmentBatch (a : VarianceAnalyzer) (draw : Draw) (tenantId fundAccountId : String)
    (varianceScaled : Int) (reason : String) : Except LedgerError TransactionBatch := do
  raiseIf (varianceScaled = 0)
    (.valueError "Cannot create adjustment batch for zero variance")
  let (debited, credited, kind) :=
    if varianceScaled < 0 then
      (a.cashOverShortAccountId, fundAccountId, "Shortage")
    else
      (fundAccountId, a.cashOverShortAccountId, "Overage")
  let debit ← PostingLeg.new debited (.member .debit) |varianceScaled|
  let credit ← PostingLeg.new credited (.member .credit) |varianceScaled|
  let amount ← dollars |varianceScaled|
  return {
    transactionId := shortId "ADJ-" draw.uuid
    tenantId
    description := reason ++ ": Cash " ++ kind ++ " of " ++ amount
    legs := [debit, credit]
    timestamp := .datetime draw.now
  }

/-- Disposition, escalation, role, journal and summary of a variance, by its size. Only the
cash variance is looked at.
-/
def analyze (a : VarianceAnalyzer) (draw batchDraw : Draw) (r : ReconciliationResult)
    (fundAccountId : String) : Except LedgerError VarianceAnalysisResult := do
  let variance := r.cashVarianceScaled
  let found (formatted : String) (disposition : VarianceDisposition) (isAutoAdjusted : Bool)
      (requiresEscalation : Bool) (requiredRole : Option String)
      (adjustmentBatch : Option TransactionBatch) (policySummary : String)
      : VarianceAnalysisResult :=
    {
      analysisId := shortId "VANAL-" draw.uuid
      reconciliationId := r.reconciliationId
      tenantId := r.tenantId
      fundId := r.fundId
      varianceScaled := variance
      varianceFormatted := formatted
      disposition
      isAutoAdjusted
      requiresEscalation
      requiredRole
      adjustmentBatch
      policySummary
      analyzedAt := draw.now.isoformat
    }
  if variance = 0 then
    return found "$0.00" .autoAdjusted true false none none balancedSummary
  else
    let formatted ← dollars variance
    if |variance| ≤ a.autoAdjustThresholdScaled then
      let batch ←
        a.generateAdjustmentBatch batchDraw r.tenantId fundAccountId variance
          "Auto-Adjustment (Under Minor Variance Threshold)"
      let limit ← dollars a.autoAdjustThresholdScaled
      return found formatted .autoAdjusted true false none (some batch)
        ("Variance " ++ formatted ++ " is within auto-adjustment limit (" ++ limit
          ++ "). Balanced journal generated.")
    else if |variance| ≤ a.managerThresholdScaled then
      let batch ←
        a.generateAdjustmentBatch batchDraw r.tenantId fundAccountId variance
          "Reconciliation Adjustment (Pending Manager Sign-Off)"
      let limit ← dollars a.managerThresholdScaled
      return found formatted .pendingApproval false false (some "FINANCE_MANAGER") (some batch)
        ("Variance " ++ formatted
          ++ " exceeds auto-adjustment limit but is within manager threshold (" ++ limit
          ++ "). Requires Manager sign-off.")
    else
      let limit ← dollars a.managerThresholdScaled
      return found formatted .escalatedAudit false true (some "FINANCE_DIRECTOR") none
        ("CRITICAL: Variance " ++ formatted ++ " exceeds manager threshold (" ++ limit
          ++ "). Escalated to Finance Director & Audit.")

/-- A generated journal belongs to the tenant. A shortage is credited to the fund, an overage
debited.
-/
theorem generateAdjustmentBatch_journal {a : VarianceAnalyzer} {draw : Draw}
    {tenantId fundAccountId reason : String} {varianceScaled : Int} {batch : TransactionBatch}
    (returned
      : a.generateAdjustmentBatch draw tenantId fundAccountId varianceScaled reason = .ok batch)
    : batch.tenantId = tenantId
      ∧ (varianceScaled < 0
          ∧ Journal batch a.cashOverShortAccountId fundAccountId (-varianceScaled)
        ∨ 0 < varianceScaled
          ∧ Journal batch fundAccountId a.cashOverShortAccountId varianceScaled) := by
  have leg {accountId : String} {entryType : EntryTypeArg} {amount : Int} {leg : PostingLeg}
      (made : PostingLeg.new accountId entryType amount = .ok leg)
      : leg.accountId = accountId ∧ leg.entryType = entryType ∧ leg.amountScaled = amount := by
    unfold PostingLeg.new at made
    split at made
    · cases made
      exact ⟨rfl, rfl, rfl⟩
    · cases made
  obtain ⟨_, some_, returned⟩ := bind_ok returned
  -- The sign of the variance chooses which account is debited
  generalize sides
    : (if varianceScaled < 0 then (a.cashOverShortAccountId, fundAccountId, "Shortage")
        else (fundAccountId, a.cashOverShortAccountId, "Overage")) = chosen at returned
  obtain ⟨debited, credited, kind⟩ := chosen
  obtain ⟨debit, debitMade, returned⟩ := bind_ok returned
  obtain ⟨credit, creditMade, returned⟩ := bind_ok returned
  obtain ⟨_, _, returned⟩ := bind_ok returned
  cases returned
  have debitLeg := leg debitMade
  have creditLeg := leg creditMade
  refine ⟨rfl, ?_⟩
  rcases lt_or_gt_of_ne (raiseIf_ok some_) with shortage | overage
  · rw [if_pos shortage] at sides
    rw [abs_of_neg shortage] at debitLeg creditLeg
    cases sides
    exact Or.inl ⟨shortage, ⟨debit, credit, rfl, debitLeg, creditLeg⟩⟩
  · rw [if_neg (not_lt_of_gt overage)] at sides
    rw [abs_of_pos overage] at debitLeg creditLeg
    cases sides
    exact Or.inr ⟨overage, ⟨debit, credit, rfl, debitLeg, creditLeg⟩⟩

/-- Every generated journal is balanced. -/
theorem generateAdjustmentBatch_balanced {a : VarianceAnalyzer} {draw : Draw}
    {tenantId fundAccountId reason : String} {varianceScaled : Int} {batch : TransactionBatch}
    (returned
      : a.generateAdjustmentBatch draw tenantId fundAccountId varianceScaled reason = .ok batch)
    : batch.validateBalance = .ok () := by
  rw [batch.validateBalance_ok_iff]
  rcases (generateAdjustmentBatch_journal returned).2 with ⟨_, journal⟩ | ⟨_, journal⟩
  · exact journal.totals.1.trans journal.totals.2.symm
  · exact journal.totals.1.trans journal.totals.2.symm

end VarianceAnalyzer

/-- An analysis that calls for no action. -/
structure NoAction (analysis : VarianceAnalysisResult) : Prop where
  adjusted : analysis.disposition = .autoAdjusted
  unposted : analysis.adjustmentBatch = none
  unassigned : analysis.requiredRole = none
  quiet : analysis.requiresEscalation = false

/-- What a returned analysis says of the cash variance. -/
structure Analyzed (a : VarianceAnalyzer) (variance : Int) (analysis : VarianceAnalysisResult)
    : Prop where
  noAction : NoAction analysis ↔ variance = 0
  disposition : analysis.disposition = .autoAdjusted ↔ |variance| ≤ a.autoAdjustThresholdScaled
  flag : analysis.isAutoAdjusted = true ↔ |variance| ≤ a.autoAdjustThresholdScaled
  summary : analysis.policySummary = balancedSummary ↔ variance = 0

/-- The summaries of a variance begin with other words than the summary of none. -/
private theorem summary_ne (rest : String)
    : "Variance " ++ rest ≠ balancedSummary ∧ "CRITICAL: " ++ rest ≠ balancedSummary := by
  constructor <;>
    · intro same
      have first := congrArg (fun text => text.toList.head?) same
      simp [balancedSummary] at first

/-- The three outcomes of an analysis: there is nothing to do, a journal comes back, or the
variance is escalated.
-/
inductive Outcome (a : VarianceAnalyzer) (batchDraw : Draw) (r : ReconciliationResult)
    (fundAccountId : String) (analysis : VarianceAnalysisResult) : Prop
  | settled (none_ : r.cashVarianceScaled = 0) (noAction : NoAction analysis)
      (flag : analysis.isAutoAdjusted = true)
      (summary : analysis.policySummary = balancedSummary)
  | posted (some_ : r.cashVarianceScaled ≠ 0)
      (disposition
        : analysis.disposition = .autoAdjusted
          ↔ |r.cashVarianceScaled| ≤ a.autoAdjustThresholdScaled)
      (flag
        : analysis.isAutoAdjusted = true
          ↔ |r.cashVarianceScaled| ≤ a.autoAdjustThresholdScaled)
      (batch : TransactionBatch) (reason : String)
      (generated
        : a.generateAdjustmentBatch batchDraw r.tenantId fundAccountId r.cashVarianceScaled
            reason
          = .ok batch)
      (carried : analysis.adjustmentBatch = some batch)
      (summary : analysis.policySummary ≠ balancedSummary)
  | escalated (beyond : ¬ |r.cashVarianceScaled| ≤ a.autoAdjustThresholdScaled)
      (disposition : analysis.disposition = .escalatedAudit)
      (flag : analysis.isAutoAdjusted = false) (unposted : analysis.adjustmentBatch = none)
      (escalation : analysis.requiresEscalation = true)
      (summary : analysis.policySummary ≠ balancedSummary)

theorem analyze_outcome {a : VarianceAnalyzer} {draw batchDraw : Draw}
    {r : ReconciliationResult} {fundAccountId : String} {analysis : VarianceAnalysisResult}
    (returned : a.analyze draw batchDraw r fundAccountId = .ok analysis)
    : Outcome a batchDraw r fundAccountId analysis
      ∧ analysis.varianceScaled = r.cashVarianceScaled := by
  simp only [VarianceAnalyzer.analyze] at returned
  split at returned
  · rename_i none_
    cases returned
    exact ⟨.settled none_ ⟨rfl, rfl, rfl, rfl⟩ rfl rfl, rfl⟩
  · rename_i some_
    obtain ⟨formatted, _, returned⟩ := bind_ok returned
    split at returned
    · -- A batch is posted within the first threshold and, for sign-off, within the second
      rename_i minor
      obtain ⟨batch, generated, returned⟩ := bind_ok returned
      obtain ⟨limit, _, returned⟩ := bind_ok returned
      cases returned
      refine ⟨.posted some_ (iff_of_true rfl minor) (iff_of_true rfl minor) batch _ generated rfl
        (fun same => ?_), rfl⟩
      simp only [String.append_assoc] at same
      exact (summary_ne _).1 same
    · rename_i notMinor
      split at returned
      · obtain ⟨batch, generated, returned⟩ := bind_ok returned
        obtain ⟨limit, _, returned⟩ := bind_ok returned
        cases returned
        refine ⟨.posted some_ (iff_of_false nofun notMinor) (iff_of_false nofun notMinor) batch _
          generated rfl (fun same => ?_), rfl⟩
        simp only [String.append_assoc] at same
        exact (summary_ne _).1 same
      · -- Beyond both thresholds nothing is posted
        obtain ⟨limit, _, returned⟩ := bind_ok returned
        cases returned
        refine ⟨.escalated notMinor rfl rfl rfl rfl (fun same => ?_), rfl⟩
        simp only [String.append_assoc] at same
        rw [show "CRITICAL: Variance " = "CRITICAL: " ++ "Variance " by decide,
          String.append_assoc] at same
        exact (summary_ne _).2 same

theorem analyze_analyzed {a : VarianceAnalyzer} {draw batchDraw : Draw}
    {r : ReconciliationResult} {fundAccountId : String} {analysis : VarianceAnalysisResult}
    (nonneg : 0 ≤ a.autoAdjustThresholdScaled)
    (returned : a.analyze draw batchDraw r fundAccountId = .ok analysis)
    : Analyzed a r.cashVarianceScaled analysis := by
  cases (analyze_outcome returned).1 with
  | settled none_ noAction flag summary =>
      have minor : |r.cashVarianceScaled| ≤ a.autoAdjustThresholdScaled := by
        simpa [none_] using nonneg
      exact ⟨iff_of_true noAction none_, iff_of_true noAction.adjusted minor,
        iff_of_true flag minor, iff_of_true summary none_⟩
  | posted some_ disposition flag batch reason _ carried summary =>
      refine ⟨iff_of_false (fun quiet => ?_) some_, disposition, flag, iff_of_false summary some_⟩
      cases carried.symm.trans quiet.unposted
  | escalated beyond disposition flag _ escalation summary =>
      have some_ : r.cashVarianceScaled ≠ 0 := by
        intro none_
        exact beyond (by simpa [none_] using nonneg)
      refine ⟨iff_of_false (fun quiet => ?_) some_, iff_of_false (fun adjusted => ?_) beyond,
        iff_of_false (fun flagged => ?_) beyond, iff_of_false summary some_⟩
      · cases escalation.symm.trans quiet.quiet
      · cases disposition.symm.trans adjusted
      · cases flag.symm.trans flagged

/-- Matcher and analysis agree on whether the fund is settled, and a discrepancy that waits
for an audit is reported neither as adjusted nor as balanced.
-/
structure StagesAgree (r : ReconciliationResult) (analysis : VarianceAnalysisResult) : Prop where
  settled : r.isBalanced = true ↔ NoAction analysis
  audited
    : r.status = .discrepancyPendingAudit
      → analysis.disposition ≠ .autoAdjusted ∧ analysis.isAutoAdjusted = false
        ∧ analysis.policySummary ≠ balancedSummary

/-- The stages agree exactly when a bank variance comes with a cash variance beyond the limit
of the automatic adjustment, and when, without a bank variance, the tolerance covers no cash
variance but zero.
-/
theorem stages_agree_iff (m : ReconciliationMatcher) (a : VarianceAnalyzer)
    (draw analysisDraw batchDraw : Draw) (cash : CashCountRecord) (system : SystemFloatRecord)
    (feed : Option BankFeedRecord) (fundAccountId : String) (r : ReconciliationResult)
    (analysis : VarianceAnalysisResult) (tolerance : 0 ≤ m.toleranceScaled)
    (thresholds
      : 0 ≤ a.autoAdjustThresholdScaled
        ∧ a.autoAdjustThresholdScaled ≤ a.managerThresholdScaled)
    (reconciled : m.reconcile draw cash system feed = .ok r)
    (analyzed : a.analyze analysisDraw batchDraw r fundAccountId = .ok analysis)
    : StagesAgree r analysis
      ↔ (m.toleranceScaled < |bankVariance system feed|
          → a.autoAdjustThresholdScaled < |cashVariance cash system|)
        ∧ (|bankVariance system feed| ≤ m.toleranceScaled
          → cashVariance cash system = 0
            ∨ m.toleranceScaled < |cashVariance cash system|) := by
  have matched := ReconciliationMatcher.reconcile_classified reconciled
  have result := analyze_analyzed thresholds.1 analyzed
  rw [matched.variance] at result
  constructor
  · intro agree
    constructor
    · intro bankLoud
      by_contra minor
      have pending := agree.audited (matched.pending.mpr bankLoud)
      exact pending.1 (result.disposition.mpr (not_lt.mp minor))
    · intro bankQuiet
      -- A quiet cash variance is balanced for the first stage, so none is left for the second
      by_cases loud : m.toleranceScaled < |cashVariance cash system|
      · exact Or.inr loud
      · have settled := agree.settled.mp (matched.balanced.mpr ⟨not_lt.mp loud, bankQuiet⟩)
        exact Or.inl (result.noAction.mp settled)
  · rintro ⟨whenLoud, whenQuiet⟩
    constructor
    · rw [matched.balanced, result.noAction]
      constructor
      · rintro ⟨cashQuiet, bankQuiet⟩
        rcases whenQuiet bankQuiet with none_ | loud
        · exact none_
        · exact absurd loud (not_lt.mpr cashQuiet)
      · intro none_
        refine ⟨by simpa [none_] using tolerance, not_lt.mp (fun bankLoud => ?_)⟩
        have := whenLoud bankLoud
        simp only [none_, abs_zero] at this
        exact absurd thresholds.1 (not_le.mpr this)
    · intro pending
      have major := whenLoud (matched.pending.mp pending)
      have notMinor := not_le.mpr major
      refine ⟨fun adjusted => notMinor (result.disposition.mp adjusted), ?_, ?_⟩
      · exact Bool.eq_false_iff.mpr (fun flagged => notMinor (result.flag.mp flagged))
      · intro same
        have none_ := result.summary.mp same
        simp only [none_, abs_zero] at major
        exact absurd thresholds.1 (not_le.mpr major)

section Sample

/-- Five hundred dollars are counted and expected, but the bank cleared only 80 of 100. -/
def sampleCash : CashCountRecord := ⟨"TENANT-1", "FUND-01", ⟨5, 0, 0, 0, 0, 0, 0, 0, 0, 0, 0⟩⟩

def sampleFloat : SystemFloatRecord := ⟨"TENANT-1", 4000000, 0, 1000000⟩

def sampleFeed : BankFeedRecord := ⟨"TENANT-1", 800000⟩

def sampleDraw : Draw := ⟨⟨0⟩, ⟨0⟩⟩

def pendingResult : ReconciliationResult where
  reconciliationId := "REC-000000000000"
  tenantId := "TENANT-1"
  fundId := "FUND-01"
  status := .discrepancyPendingAudit
  physicalCashScaled := 5000000
  systemExpectedScaled := 5000000
  bankClearedScaled := 800000
  cashVarianceScaled := 0
  bankVarianceScaled := -200000
  isBalanced := false
  reconciledAt := "1970-01-01T00:00:00+00:00"
  message := "Bank statement replenishment variance detected: $-20.00"

def pendingAnalysis : VarianceAnalysisResult where
  analysisId := shortId "VANAL-" sampleDraw.uuid
  reconciliationId := "REC-000000000000"
  tenantId := "TENANT-1"
  fundId := "FUND-01"
  varianceScaled := 0
  varianceFormatted := "$0.00"
  disposition := .autoAdjusted
  isAutoAdjusted := true
  requiresEscalation := false
  requiredRole := none
  adjustmentBatch := none
  policySummary := "No variance detected. Fund is perfectly balanced."
  analyzedAt := sampleDraw.now.isoformat

theorem pendingResult_reconciled
    : (ReconciliationMatcher.mk 0).reconcile sampleDraw sampleCash sampleFloat (some sampleFeed)
      = .ok pendingResult := by
  decide +kernel

theorem pendingAnalysis_analyzed
    : VarianceAnalyzer.default.analyze sampleDraw sampleDraw pendingResult "ACC_PETTY_CASH"
      = .ok pendingAnalysis :=
  rfl

theorem stages_agree_iff_sample
    : StagesAgree pendingResult pendingAnalysis
      ↔ ((0 : Int) < |bankVariance sampleFloat (some sampleFeed)|
          → 50000 < |cashVariance sampleCash sampleFloat|)
        ∧ (|bankVariance sampleFloat (some sampleFeed)| ≤ 0
          → cashVariance sampleCash sampleFloat = 0
            ∨ 0 < |cashVariance sampleCash sampleFloat|) :=
  stages_agree_iff ⟨0⟩ .default sampleDraw sampleDraw sampleDraw sampleCash sampleFloat
    (some sampleFeed) "ACC_PETTY_CASH" pendingResult pendingAnalysis (by decide) (by decide)
    pendingResult_reconciled pendingAnalysis_analyzed

/-- The result waits for an audit of the bank feed, and is analysed as perfectly balanced. -/
theorem pending_audit_reported_balanced
    : ∃ r analysis,
        (ReconciliationMatcher.mk 0).reconcile sampleDraw sampleCash sampleFloat
          (some sampleFeed)
          = .ok r
        ∧ VarianceAnalyzer.default.analyze sampleDraw sampleDraw r "ACC_PETTY_CASH"
          = .ok analysis
        ∧ ¬ StagesAgree r analysis := by
  refine ⟨pendingResult, pendingAnalysis, pendingResult_reconciled, pendingAnalysis_analyzed, ?_⟩
  intro agree
  exact (agree.audited rfl).1 rfl

end Sample

end PettyFlow.Reconciliation
