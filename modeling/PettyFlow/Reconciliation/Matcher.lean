import PettyFlow.Foundation.Casing
import PettyFlow.Ledger.Entry

/-! Three-way reconciliation of a cash box: the counted cash, the system's float and the bank
feed are compared, and the result is classified.
-/

namespace PettyFlow.Reconciliation

open Foundation Ledger

inductive ReconciliationStatus where
  | balanced
  | varianceOver
  | varianceShort
  | discrepancyPendingAudit
deriving DecidableEq

/-- Counts of bills and coins. -/
structure DenominationBreakdown where
  hundreds : Int
  fifties : Int
  twenties : Int
  tens : Int
  fives : Int
  ones : Int
  quarters : Int
  dimes : Int
  nickels : Int
  pennies : Int
  customCoinsScaled : Int

def DenominationBreakdown.totalScaled (d : DenominationBreakdown) : Int :=
  d.hundreds * 100 * 10000 + d.fifties * 50 * 10000 + d.twenties * 20 * 10000
    + d.tens * 10 * 10000 + d.fives * 5 * 10000 + d.ones * 1 * 10000 + d.quarters * 2500
    + d.dimes * 1000 + d.nickels * 500 + d.pennies * 100 + d.customCoinsScaled

structure CashCountRecord where
  tenantId : String
  fundId : String
  denominations : DenominationBreakdown

def CashCountRecord.totalPhysicalScaled (cash : CashCountRecord) : Int :=
  cash.denominations.totalScaled

structure SystemFloatRecord where
  tenantId : String
  openingFloatScaled : Int
  totalDisbursedScaled : Int
  totalReplenishedScaled : Int

def SystemFloatRecord.expectedBalanceScaled (system : SystemFloatRecord) : Int :=
  system.openingFloatScaled + system.totalReplenishedScaled - system.totalDisbursedScaled

structure BankFeedRecord where
  tenantId : String
  clearedReplenishmentsScaled : Int

structure ReconciliationResult where
  reconciliationId : String
  tenantId : String
  fundId : String
  status : ReconciliationStatus
  physicalCashScaled : Int
  systemExpectedScaled : Int
  bankClearedScaled : Int
  cashVarianceScaled : Int
  bankVarianceScaled : Int
  isBalanced : Bool
  reconciledAt : String
  message : String
deriving DecidableEq

structure ReconciliationMatcher where
  toleranceScaled : Int

/-- An amount in dollars with two decimals. -/
def dollars (amountScaled : Int) : Except LedgerError String :=
  (orRaise (centsText amountScaled)
    (.overflowError "integer division result too large for a float")).map ("$" ++ ·)

/-- The first twelve digits of a random identifier in capitals, behind a prefix. -/
def shortId (lead : String) (uuid : Uuid) : String :=
  lead ++ upper (String.ofList (uuid.digits.take 12))

/-- Counted cash less expected cash. -/
def cashVariance (cash : CashCountRecord) (system : SystemFloatRecord) : Int :=
  cash.totalPhysicalScaled - system.expectedBalanceScaled

/-- What the bank cleared; without a feed it is what the system replenished. -/
def bankCleared (system : SystemFloatRecord) (feed : Option BankFeedRecord) : Int :=
  (feed.map BankFeedRecord.clearedReplenishmentsScaled).getD system.totalReplenishedScaled

/-- Replenishments cleared by the bank less those of the system. -/
def bankVariance (system : SystemFloatRecord) (feed : Option BankFeedRecord) : Int :=
  bankCleared system feed - system.totalReplenishedScaled

/-- The message about a cash variance. -/
def cashMessage (variance : Int) : Except LedgerError String :=
  if variance > 0 then do
    let amount ← dollars variance
    return "Physical cash exceeds system float by " ++ amount ++ " (Cash Over)."
  else do
    let amount ← dollars |variance|
    return "Physical cash is short of system float by " ++ amount ++ " (Cash Short)."

namespace ReconciliationMatcher

/-- Status, balance and message. A bank variance comes before any cash variance. -/
def classify (m : ReconciliationMatcher) (cash bank : Int)
    : Except LedgerError (ReconciliationStatus × Bool × String) :=
  let hasCashVariance := |cash| > m.toleranceScaled
  let hasBankVariance := |bank| > m.toleranceScaled
  if ¬ hasCashVariance ∧ ¬ hasBankVariance then
    .ok (.balanced, true, "Physical cash and bank feeds match system float perfectly.")
  else if hasBankVariance then do
    let amount ← dollars bank
    let first := "Bank statement replenishment variance detected: " ++ amount
    if hasCashVariance then do
      let second ← cashMessage cash
      return (.discrepancyPendingAudit, false, first ++ " | " ++ second)
    else
      return (.discrepancyPendingAudit, false, first)
  else do
    let message ← cashMessage cash
    return (if cash > 0 then .varianceOver else .varianceShort, false, message)

def reconcile (m : ReconciliationMatcher) (draw : Draw) (cash : CashCountRecord)
    (system : SystemFloatRecord) (feed : Option BankFeedRecord)
    : Except LedgerError ReconciliationResult := do
  raiseIf (cash.tenantId ≠ system.tenantId)
    (.valueError
      "Tenant isolation violation: cash count and system float tenant IDs mismatch")
  raiseIf (∃ record ∈ feed, record.tenantId ≠ cash.tenantId)
    (.valueError "Tenant isolation violation: bank feed tenant ID mismatch")
  let (status, isBalanced, message) ←
    m.classify (cashVariance cash system) (bankVariance system feed)
  return {
    reconciliationId := shortId "REC-" draw.uuid
    tenantId := cash.tenantId
    fundId := cash.fundId
    status
    physicalCashScaled := cash.totalPhysicalScaled
    systemExpectedScaled := system.expectedBalanceScaled
    bankClearedScaled := bankCleared system feed
    cashVarianceScaled := cashVariance cash system
    bankVarianceScaled := bankVariance system feed
    isBalanced
    reconciledAt := draw.now.isoformat
    message
  }

/-- What a returned classification says of the two variances. -/
theorem classify_ok {m : ReconciliationMatcher} {cash bank : Int}
    {status : ReconciliationStatus} {isBalanced : Bool} {message : String}
    (returned : m.classify cash bank = .ok (status, isBalanced, message))
    : (isBalanced = true ↔ |cash| ≤ m.toleranceScaled ∧ |bank| ≤ m.toleranceScaled)
      ∧ (status = .discrepancyPendingAudit ↔ m.toleranceScaled < |bank|) := by
  simp only [classify] at returned
  split at returned
  · rename_i quiet
    cases returned
    simpa using quiet
  · rename_i loud
    split at returned
    · rename_i bankLoud
      obtain ⟨amount, _, returned⟩ := bind_ok returned
      -- With or without a cash variance, a loud bank makes the same status
      have outcome : status = .discrepancyPendingAudit ∧ isBalanced = false := by
        split at returned
        · obtain ⟨second, _, returned⟩ := bind_ok returned
          cases returned
          exact ⟨rfl, rfl⟩
        · cases returned
          exact ⟨rfl, rfl⟩
      obtain ⟨rfl, rfl⟩ := outcome
      have := not_le.mpr bankLoud
      simp [this, not_le.mp this]
    · rename_i bankQuiet
      obtain ⟨second, _, returned⟩ := bind_ok returned
      cases returned
      -- The bank is quiet, so it is the cash that is beyond the tolerance
      have cashLoud : ¬ |cash| ≤ m.toleranceScaled := by
        intro cashQuiet
        exact loud ⟨not_lt.mpr cashQuiet, bankQuiet⟩
      refine ⟨by simp [cashLoud], ?_⟩
      constructor
      · intro pending
        split at pending <;> cases pending
      · exact fun above => absurd above bankQuiet

/-- What a returned result says, from the records that it compares. -/
structure Classified (m : ReconciliationMatcher) (cash : CashCountRecord)
    (system : SystemFloatRecord) (feed : Option BankFeedRecord) (r : ReconciliationResult)
    : Prop where
  variance : r.cashVarianceScaled = cashVariance cash system
  balanced
    : r.isBalanced = true
      ↔ |cashVariance cash system| ≤ m.toleranceScaled
        ∧ |bankVariance system feed| ≤ m.toleranceScaled
  pending
    : r.status = .discrepancyPendingAudit ↔ m.toleranceScaled < |bankVariance system feed|

theorem reconcile_classified {m : ReconciliationMatcher} {draw : Draw} {cash : CashCountRecord}
    {system : SystemFloatRecord} {feed : Option BankFeedRecord} {r : ReconciliationResult}
    (returned : m.reconcile draw cash system feed = .ok r)
    : Classified m cash system feed r := by
  obtain ⟨_, _, returned⟩ := bind_ok returned
  obtain ⟨_, _, returned⟩ := bind_ok returned
  obtain ⟨⟨status, isBalanced, message⟩, classified, returned⟩ := bind_ok returned
  cases returned
  obtain ⟨balanced, pending⟩ := classify_ok classified
  exact ⟨rfl, balanced, pending⟩

theorem reconcile_tenant {m : ReconciliationMatcher} {draw : Draw} {cash : CashCountRecord}
    {system : SystemFloatRecord} {feed : Option BankFeedRecord} {r : ReconciliationResult}
    (returned : m.reconcile draw cash system feed = .ok r)
    : r.tenantId = cash.tenantId := by
  obtain ⟨_, _, returned⟩ := bind_ok returned
  obtain ⟨_, _, returned⟩ := bind_ok returned
  obtain ⟨_, _, returned⟩ := bind_ok returned
  cases returned
  rfl

end ReconciliationMatcher

end PettyFlow.Reconciliation
