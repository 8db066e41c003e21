import PettyFlow.Foundation.FloatValue
import PettyFlow.Foundation.Machine
import PettyFlow.Foundation.Tallies
import PettyFlow.Foundation.Texts

/-! The detector of spending in unusual categories of merchants: what it keeps of each custodian's
transactions, and when a further one departs from that.
-/

namespace PettyFlow.Fraud

open Foundation

/-- What an evaluation may raise. -/
inductive CategoryError where
  | zeroDivisionError (message : String)
  | overflowError (message : String)
  | keyError (key : String)
deriving DecidableEq

/-- The true quotient of two integers, which is a finite double. -/
def trueDivide (a b : Int) : Except CategoryError ℚ :=
  if b = 0 then
    .error (.zeroDivisionError "division by zero")
  else
    match FloatValue.nearest (a / b) with
    | .finite value => .ok value
    | _ => .error (.overflowError "integer division result too large for a float")

def normCat (category : String) : String := upper (strip category)

/-! ### Profiles -/

structure CustodianCategoryBaseline where
  totalTxCount : Nat := 0
  totalSpendScaled : Int := 0
  categoryCounts : Dict String Nat := .empty
  categorySpendScaled : Dict String Int := .empty
deriving DecidableEq

namespace CustodianCategoryBaseline

def record (s : CustodianCategoryBaseline) (category : String) (amountScaled : Int)
    : CustodianCategoryBaseline where
  totalTxCount := s.totalTxCount + 1
  totalSpendScaled := s.totalSpendScaled + amountScaled
  categoryCounts := s.categoryCounts.addTo (normCat category) 1
  categorySpendScaled := s.categorySpendScaled.addTo (normCat category) amountScaled

def recordAll (s : CustodianCategoryBaseline) (history : List (String × Int))
    : CustodianCategoryBaseline :=
  history.foldl (fun s entry => s.record entry.1 entry.2) s

def getCategoryFrequency (s : CustodianCategoryBaseline) (category : String)
    : Except CategoryError ℚ :=
  if s.totalTxCount = 0 then
    .ok 0
  else
    trueDivide (s.categoryCounts.getD (normCat category) 0) s.totalTxCount

end CustodianCategoryBaseline

/-! ### Evaluation -/

structure MerchantCategoryAlert where
  tenantId : String
  custodianId : String
  transactionId : String
  category : String
  amountScaled : Int
  anomalyScore : FloatValue
  reason : String
  alertCode : String := "MERCHANT_CATEGORY_ANOMALY"
  baselineCategories : List String := []
  historicalTxCount : Nat := 0

/-- A transaction to be evaluated. -/
structure CategoryTransaction where
  tenantId : String
  custodianId : String
  transactionId : String
  category : String
  amountScaled : Int
deriving DecidableEq

def CategoryTransaction.key (transaction : CategoryTransaction) : String × String :=
  (transaction.tenantId, transaction.custodianId)

/-- An alert about a transaction, with what the profile shows of the custodian. -/
def MerchantCategoryAlert.ofTransaction (transaction : CategoryTransaction)
    (baseline : CustodianCategoryBaseline) (anomalyScore : FloatValue) (reason : String)
    : MerchantCategoryAlert where
  tenantId := transaction.tenantId
  custodianId := transaction.custodianId
  transactionId := transaction.transactionId
  category := normCat transaction.category
  amountScaled := transaction.amountScaled
  anomalyScore := anomalyScore
  reason := reason
  baselineCategories :=
    (baseline.categoryCounts.entries.map Prod.fst).insertionSort (· ≤ ·)
  historicalTxCount := baseline.totalTxCount

/-- The text of a share as a percentage with one decimal. -/
def percentText (share : ℚ) : String :=
  (FloatValue.nearest (share * 100)).fixed 1 (share < 0) ++ "%"

structure MerchantCategoryAnomalyDetector where
  minBaselineSamples : Int
  maxSpendDeviationMultiplier : FloatValue
  baselines : Dict (String × String) CustodianCategoryBaseline

namespace MerchantCategoryAnomalyDetector

def new (minBaselineSamples : Int := 5)
    (maxSpendDeviationMultiplier : FloatValue := .finite 3)
    : MerchantCategoryAnomalyDetector :=
  ⟨minBaselineSamples, maxSpendDeviationMultiplier, .empty⟩

def recordBaseline (s : MerchantCategoryAnomalyDetector)
    (tenantId custodianId category : String) (amountScaled : Int)
    : MerchantCategoryAnomalyDetector :=
  let key := (tenantId, custodianId)
  {
    s with
    baselines := s.baselines.set key ((s.baselines.getD key {}).record category amountScaled)
  }

def bulkLoadBaseline (s : MerchantCategoryAnomalyDetector) (tenantId custodianId : String)
    (history : List (String × Int))
    : MerchantCategoryAnomalyDetector :=
  let key := (tenantId, custodianId)
  { s with baselines := s.baselines.set key ((s.baselines.getD key {}).recordAll history) }

/-- The first condition: a category the profile does not have. -/
def unseenAlert (baseline : CustodianCategoryBaseline) (transaction : CategoryTransaction)
    : MerchantCategoryAlert :=
  .ofTransaction transaction baseline (.nearest (90 / 100))
    s!"Unseen category '{normCat transaction.category}' outside established profile"

/-- The second condition: an amount far beyond the average of a category that is rare. -/
def rareAlert? (s : MerchantCategoryAnomalyDetector) (baseline : CustodianCategoryBaseline)
    (transaction : CategoryTransaction)
    : Except CategoryError (Option MerchantCategoryAlert) := do
  let category := normCat transaction.category
  let catFreq ← baseline.getCategoryFrequency category
  let spend ← orRaise (baseline.categorySpendScaled.get? category) (.keyError category)
  let count ← orRaise (baseline.categoryCounts.get? category) (.keyError category)
  let avgSpendCat ← trueDivide spend count
  if FloatValue.le (.finite catFreq) (.nearest (10 / 100))
      ∧ (FloatValue.mul (.finite avgSpendCat) s.maxSpendDeviationMultiplier).ltInt
        transaction.amountScaled then
    let amount ← trueDivide transaction.amountScaled 10000
    let amountText := FloatValue.fixed 2 (transaction.amountScaled < 0) (.finite amount)
    let avgText := (FloatValue.nearest (avgSpendCat / 10000)).fixed 2 (spend < 0)
    return some (.ofTransaction transaction baseline (.nearest (75 / 100))
      (s!"Rare category '{category}' (frequency {percentText catFreq}) with excessive spend "
        ++ s!"({amountText} vs avg {avgText})"))
  else
    return none

/-- Evaluate a transaction, which enters the profile if that is to be updated. -/
def evaluateTransaction (s : MerchantCategoryAnomalyDetector) (transaction : CategoryTransaction)
    (autoUpdateBaseline : Bool := false)
    : Except CategoryError (Option MerchantCategoryAlert) × MerchantCategoryAnomalyDetector :=
  let category := normCat transaction.category
  let updated :=
    if autoUpdateBaseline then
      s.recordBaseline transaction.tenantId transaction.custodianId transaction.category
        transaction.amountScaled
    else
      s
  match s.baselines.get? transaction.key with
  | none => (.ok none, updated)
  | some baseline =>
      if baseline.totalTxCount < s.minBaselineSamples then
        (.ok none, updated)
      else if ¬ baseline.categoryCounts.contains category then
        (.ok (some (unseenAlert baseline transaction)), updated)
      else
        match s.rareAlert? baseline transaction with
        | .ok alert => (.ok alert, updated)
        | .error error => (.error error, s)

def clearCustodian (s : MerchantCategoryAnomalyDetector) (tenantId custodianId : String)
    : MerchantCategoryAnomalyDetector :=
  { s with baselines := s.baselines.erase (tenantId, custodianId) }

end MerchantCategoryAnomalyDetector

end PettyFlow.Fraud
