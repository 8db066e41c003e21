import PettyFlow.Ledger.ChainIntegrity
import PettyFlow.Reconciliation.VarianceAnalyzer

/-! What the journal of an analysis does: the tenant's ledger accepts it, and once it is posted
the same count of cash agrees with the fund.
-/

namespace PettyFlow

open Foundation

namespace Ledger.TransactionBatch

/-- The legs of a batch on one account. -/
def onAccount (tx : TransactionBatch) (accountId : String) : TransactionBatch :=
  { tx with legs := tx.legs.filter (fun leg => leg.accountId = accountId) }

/-- What a batch adds to an account of assets: its debits less its credits there. -/
def netDebit (tx : TransactionBatch) (accountId : String) : Int :=
  (tx.onAccount accountId).totalDebits - (tx.onAccount accountId).totalCredits

end Ledger.TransactionBatch

namespace Reconciliation

open Ledger

section Posting

variable {batch : TransactionBatch} {debited credited accountId : String} {amount : Int}

/-- A journal moves its amount from the credited account to the debited one. -/
theorem Journal.netDebit (journal : Journal batch debited credited amount) (accountId : String)
    : batch.netDebit accountId
      = (if debited = accountId then amount else 0)
        - (if credited = accountId then amount else 0) := by
  obtain ⟨debit, credit, legs, ⟨debitAccount, debitType, debitAmount⟩, creditAccount, creditType,
    creditAmount⟩ := journal.legs
  unfold TransactionBatch.netDebit TransactionBatch.onAccount TransactionBatch.totalDebits
    TransactionBatch.totalCredits
  rw [legs]
  subst debitAccount creditAccount
  by_cases first : debit.accountId = accountId <;>
    by_cases second : credit.accountId = accountId <;>
      simp [first, second, debitType, creditType, debitAmount, creditAmount]

/-- The journal of a variance brings the fund from the expected to the counted balance. Between
one account and itself it would bring nothing.
-/
theorem generateAdjustmentBatch_netDebit {a : VarianceAnalyzer} {draw : Draw}
    {tenantId fundAccountId reason : String} {varianceScaled : Int}
    (distinct : fundAccountId ≠ a.cashOverShortAccountId)
    (generated
      : a.generateAdjustmentBatch draw tenantId fundAccountId varianceScaled reason = .ok batch)
    : batch.netDebit fundAccountId = varianceScaled
      ∧ batch.netDebit a.cashOverShortAccountId = -varianceScaled := by
  have reversed := distinct.symm
  rcases (VarianceAnalyzer.generateAdjustmentBatch_journal generated).2 with
    ⟨_, shortage⟩ | ⟨_, overage⟩
  · simp [shortage.netDebit, distinct, reversed]
  · simp [overage.netDebit, distinct, reversed]

/-- The ledger of the tenant accepts every generated journal. -/
theorem generateAdjustmentBatch_appended (hmac : Bytes → Bytes → Bytes) {s : CachedChain}
    {a : VarianceAnalyzer} {draw : Draw} {fundAccountId reason : String} {varianceScaled : Int}
    (generated
      : a.generateAdjustmentBatch draw s.chain.tenantId fundAccountId varianceScaled reason
        = .ok batch)
    : ∃ block, (s.appendTransaction hmac batch).1 = .ok block := by
  refine appendTransaction_isOk hmac ?_ ?_
  · exact (VarianceAnalyzer.generateAdjustmentBatch_journal generated).1
  · exact batch.validateBalance_ok_iff.mp
      (VarianceAnalyzer.generateAdjustmentBatch_balanced generated)

end Posting

section Returning

variable {amount : Int}

/-- Amounts far below the largest double can be shown. -/
theorem dollars_isOk (small : |amount| < 2 ^ 256) : ∃ text, dollars amount = .ok text := by
  have bounded : amount.natAbs < 2 ^ 256 := by
    rw [Int.abs_eq_natAbs] at small
    exact_mod_cast small
  obtain ⟨text, shown⟩ := Option.isSome_iff_exists.mp (texts_isSome bounded).2
  exact ⟨"$" ++ text, by rw [dollars, shown]; rfl⟩

theorem generateAdjustmentBatch_isOk (a : VarianceAnalyzer) (draw : Draw)
    (tenantId fundAccountId reason : String) (some_ : amount ≠ 0) (small : |amount| < 2 ^ 256)
    : ∃ batch, a.generateAdjustmentBatch draw tenantId fundAccountId amount reason = .ok batch := by
  have leg (accountId : String) (entryType : EntryTypeArg)
      : ∃ leg, PostingLeg.new accountId entryType |amount| = .ok leg :=
    ⟨_, dif_pos (abs_pos.mpr some_)⟩
  obtain ⟨text, shown⟩ := @dollars_isOk |amount| (by rwa [abs_abs])
  unfold VarianceAnalyzer.generateAdjustmentBatch
  rw [raiseIf_neg some_]
  split
  rename_i debited credited kind _
  obtain ⟨debit, debitMade⟩ := leg debited (.member .debit)
  obtain ⟨credit, creditMade⟩ := leg credited (.member .credit)
  rw [debitMade, creditMade, shown]
  exact ⟨_, rfl⟩

/-- An analysis of such amounts is always returned. -/
theorem analyze_isOk {a : VarianceAnalyzer} (draw batchDraw : Draw) {r : ReconciliationResult}
    (fundAccountId : String) (small : |r.cashVarianceScaled| < 2 ^ 256)
    (minorSmall : |a.autoAdjustThresholdScaled| < 2 ^ 256)
    (moderateSmall : |a.managerThresholdScaled| < 2 ^ 256)
    : ∃ analysis, a.analyze draw batchDraw r fundAccountId = .ok analysis := by
  obtain ⟨formatted, shown⟩ := dollars_isOk small
  obtain ⟨minor, minorShown⟩ := dollars_isOk minorSmall
  obtain ⟨moderate, moderateShown⟩ := dollars_isOk moderateSmall
  simp only [VarianceAnalyzer.analyze]
  split
  · exact ⟨_, rfl⟩
  · rename_i some_
    have generated (reason : String) :=
      generateAdjustmentBatch_isOk a batchDraw r.tenantId fundAccountId reason some_ small
    rw [shown]
    split
    · obtain ⟨batch, returned⟩ := generated "Auto-Adjustment (Under Minor Variance Threshold)"
      rw [returned, minorShown]
      exact ⟨_, rfl⟩
    · split
      · obtain ⟨batch, returned⟩ :=
          generated "Reconciliation Adjustment (Pending Manager Sign-Off)"
        rw [returned, moderateShown]
        exact ⟨_, rfl⟩
      · rw [moderateShown]
        exact ⟨_, rfl⟩

end Returning

section Recounting

/-- Where a classification is returned, that of the same bank variance without a cash variance
is returned too.
-/
theorem classify_settled_isOk {m : ReconciliationMatcher} {cash bank : Int}
    {found : ReconciliationStatus × Bool × String} (returned : m.classify cash bank = .ok found)
    : ∃ found, m.classify 0 bank = .ok found := by
  have message : ∃ text, cashMessage 0 = .ok text := by
    obtain ⟨text, shown⟩ := @dollars_isOk |0| (by decide)
    exact ⟨_, by rw [cashMessage, if_neg (lt_irrefl 0), shown]; rfl⟩
  obtain ⟨text, shown⟩ := message
  simp only [ReconciliationMatcher.classify] at returned ⊢
  split
  · exact ⟨_, rfl⟩
  · split
    · rename_i bankLoud
      rw [if_neg (fun quiet => quiet.2 bankLoud), if_pos bankLoud] at returned
      obtain ⟨amount, bankShown, _⟩ := bind_ok returned
      rw [bankShown, shown]
      split <;> exact ⟨_, rfl⟩
    · rw [shown]
      exact ⟨_, rfl⟩

theorem reconcile_ok_iff {m : ReconciliationMatcher} {draw : Draw} {cash : CashCountRecord}
    {system : SystemFloatRecord} {feed : Option BankFeedRecord}
    : (∃ r, m.reconcile draw cash system feed = .ok r)
      ↔ cash.tenantId = system.tenantId
        ∧ (∀ record ∈ feed, record.tenantId = cash.tenantId)
        ∧ ∃ found,
            m.classify (cashVariance cash system) (bankVariance system feed) = .ok found := by
  constructor
  · rintro ⟨r, returned⟩
    obtain ⟨_, first, returned⟩ := bind_ok returned
    obtain ⟨_, second, returned⟩ := bind_ok returned
    obtain ⟨found, classified, _⟩ := bind_ok returned
    have others := raiseIf_ok second
    push Not at others
    exact ⟨not_not.mp (raiseIf_ok first), others, found, classified⟩
  · rintro ⟨own, others, found, classified⟩
    unfold ReconciliationMatcher.reconcile
    rw [raiseIf_neg (not_not.mpr own), raiseIf_neg (by push Not; exact others), classified]
    exact ⟨_, rfl⟩

/-- Once the expected balance is raised by the variance, the same count has none. -/
theorem reconcile_again {m : ReconciliationMatcher} {draw again : Draw} {cash : CashCountRecord}
    {system adjusted : SystemFloatRecord} {feed : Option BankFeedRecord}
    {r : ReconciliationResult} (returned : m.reconcile draw cash system feed = .ok r)
    (own : adjusted.tenantId = system.tenantId)
    (raised
      : adjusted.expectedBalanceScaled = system.expectedBalanceScaled + cashVariance cash system)
    : (∀ result,
        m.reconcile again cash adjusted feed = .ok result → result.cashVarianceScaled = 0)
      ∧ (adjusted.totalReplenishedScaled = system.totalReplenishedScaled
        → ∃ result, m.reconcile again cash adjusted feed = .ok result) := by
  have settled : cashVariance cash adjusted = 0 := by
    unfold cashVariance at raised ⊢
    omega
  constructor
  · intro result recounted
    exact (ReconciliationMatcher.reconcile_classified recounted).variance.trans settled
  · intro replenished
    obtain ⟨sameTenant, others, found, classified⟩ := reconcile_ok_iff.mp ⟨r, returned⟩
    have bank : bankVariance adjusted feed = bankVariance system feed := by
      unfold bankVariance bankCleared
      rw [replenished]
    refine reconcile_ok_iff.mpr ⟨sameTenant.trans own.symm, others, ?_⟩
    rw [settled, bank]
    exact classify_settled_isOk classified

end Recounting

/-- What the journal of an analysis does. The ledger accepts it. Where its net debit on the fund
is added to the expected balance, the same count has no variance, and the count is refused for
no other reason than the feed.
-/
structure Settles (hmac : Bytes → Bytes → Bytes) (s : CachedChain) (m : ReconciliationMatcher)
    (cash : CashCountRecord) (system : SystemFloatRecord) (feed : Option BankFeedRecord)
    (fundAccountId : String) (batch : TransactionBatch)
    : Prop where
  appended : ∃ block, (s.appendTransaction hmac batch).1 = .ok block
  recounted
    : ∀ again adjusted,
        adjusted.tenantId = system.tenantId
        → adjusted.expectedBalanceScaled
          = system.expectedBalanceScaled + batch.netDebit fundAccountId
        → (∀ result,
            m.reconcile again cash adjusted feed = .ok result → result.cashVarianceScaled = 0)
          ∧ (adjusted.totalReplenishedScaled = system.totalReplenishedScaled
            → ∃ result, m.reconcile again cash adjusted feed = .ok result)

/-- A variance is either escalated or settled by the journal that comes back: the tenant's
ledger accepts it, and the same count agrees with the fund afterwards. The analysis is returned
unless some amount is too large for a double.
-/
theorem adjustment_settles (hmac : Bytes → Bytes → Bytes) (s : CachedChain)
    (m : ReconciliationMatcher) (a : VarianceAnalyzer) (draw analysisDraw batchDraw : Draw)
    (cash : CashCountRecord) (system : SystemFloatRecord) (feed : Option BankFeedRecord)
    (fundAccountId : String) (r : ReconciliationResult)
    (distinct : fundAccountId ≠ a.cashOverShortAccountId)
    (tenant : s.chain.tenantId = cash.tenantId)
    (reconciled : m.reconcile draw cash system feed = .ok r)
    : let outcome := a.analyze analysisDraw batchDraw r fundAccountId
      (∀ analysis,
        outcome = .ok analysis
        → analysis.varianceScaled = cashVariance cash system
          ∧ (∀ batch ∈ analysis.adjustmentBatch,
              Settles hmac s m cash system feed fundAccountId batch)
          ∧ (analysis.varianceScaled ≠ 0
            → analysis.adjustmentBatch = none
            → analysis.requiresEscalation = true))
      ∧ (|cashVariance cash system| < 2 ^ 256
        → |a.autoAdjustThresholdScaled| < 2 ^ 256
        → |a.managerThresholdScaled| < 2 ^ 256
        → ∃ analysis, outcome = .ok analysis) := by
  intro outcome
  have variance := (ReconciliationMatcher.reconcile_classified reconciled).variance
  rw [← variance]
  refine ⟨fun analysis analyzed => ?_, analyze_isOk analysisDraw batchDraw fundAccountId⟩
  obtain ⟨found, same⟩ := analyze_outcome analyzed
  refine ⟨same, ?_⟩
  cases found with
  | settled none_ noAction flag summary =>
      refine ⟨fun batch carried => ?_, fun some_ => absurd (same.trans none_) some_⟩
      rw [noAction.unposted] at carried
      cases carried
  | escalated beyond disposition flag unposted escalation summary =>
      refine ⟨fun batch carried => ?_, fun _ _ => escalation⟩
      rw [unposted] at carried
      cases carried
  | posted some_ disposition flag journal reason generated carried summary =>
      refine ⟨fun batch member => ?_, fun _ unposted => ?_⟩
      · -- The batch of the result is the generated one, and its tenant is that of the chain
        obtain rfl := Option.some.inj (carried.symm.trans member)
        have owner : r.tenantId = s.chain.tenantId := by
          rw [tenant]
          exact ReconciliationMatcher.reconcile_tenant reconciled
        refine ⟨?_, fun again adjusted own raised => ?_⟩
        · rw [owner] at generated
          exact generateAdjustmentBatch_appended hmac generated
        · rw [(generateAdjustmentBatch_netDebit distinct generated).1, variance] at raised
          exact reconcile_again reconciled own raised
      · cases carried.symm.trans unposted

section Sample

/-- Four dollars more than the counted cash are expected. -/
def shortFloat : SystemFloatRecord := ⟨"TENANT-1", 4040000, 0, 1000000⟩

def shortResult : ReconciliationResult where
  reconciliationId := "REC-000000000000"
  tenantId := "TENANT-1"
  fundId := "FUND-01"
  status := .varianceShort
  physicalCashScaled := 5000000
  systemExpectedScaled := 5040000
  bankClearedScaled := 1000000
  cashVarianceScaled := -40000
  bankVarianceScaled := 0
  isBalanced := false
  reconciledAt := "1970-01-01T00:00:00+00:00"
  message := "Physical cash is short of system float by $4.00 (Cash Short)."

def shortJournal : TransactionBatch where
  transactionId := shortId "ADJ-" sampleDraw.uuid
  tenantId := "TENANT-1"
  description := "Auto-Adjustment (Under Minor Variance Threshold): Cash Shortage of $4.00"
  legs := [
    ⟨"ACC_CASH_OVER_SHORT", .member .debit, 40000, by decide⟩,
    ⟨"ACC_PETTY_CASH", .member .credit, 40000, by decide⟩
  ]
  timestamp := .datetime sampleDraw.now

def sampleChain : CachedChain := .new .empty "TENANT-1" (utf8 "ledger key")

/-- The shortage is charged to the over-and-short account, and the fund is settled. -/
theorem adjustment_settles_sample
    : ∃ analysis,
        VarianceAnalyzer.default.analyze sampleDraw sampleDraw shortResult "ACC_PETTY_CASH"
          = .ok analysis
        ∧ analysis.adjustmentBatch = some shortJournal
        ∧ shortJournal.netDebit "ACC_PETTY_CASH" = -40000
        ∧ Settles sampleHmac sampleChain ⟨0⟩ sampleCash shortFloat none "ACC_PETTY_CASH"
            shortJournal := by
  have settles :=
    adjustment_settles sampleHmac sampleChain ⟨0⟩ .default sampleDraw sampleDraw sampleDraw
      sampleCash shortFloat none "ACC_PETTY_CASH" shortResult (by decide) rfl (by decide +kernel)
  have analyzed
      : ∃ analysis,
          VarianceAnalyzer.default.analyze sampleDraw sampleDraw shortResult "ACC_PETTY_CASH"
            = .ok analysis
          ∧ analysis.adjustmentBatch = some shortJournal :=
    ⟨_, rfl, rfl⟩
  obtain ⟨analysis, returned, carried⟩ := analyzed
  exact ⟨analysis, returned, carried, by decide, (settles.1 analysis returned).2.1 _ carried⟩

end Sample

end Reconciliation

end PettyFlow
