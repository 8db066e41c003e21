import PettyFlow.Foundation.Dict
import PettyFlow.Foundation.DoubleText
import PettyFlow.Foundation.Machine

/-! Spend aggregation by department, category and location: a columnar path over accumulators
that exist beforehand, and a plain path that starts each accumulator at its first record.
-/

namespace PettyFlow.Analytics

open Foundation

inductive AnalyticsError where
  | keyError (key : String)
  | overflowError (message : String)
deriving DecidableEq

structure SpendRecord where
  tenantId : String
  department : String
  location : String
  category : String
  amountScaled : Int
deriving DecidableEq

structure SpendColumnarBatch where
  tenantId : String
  departments : List String
  locations : List String
  categories : List String
  amountsScaled : List Int

/-- Total, count, minimum and maximum of the amounts of one key. -/
structure Accumulator where
  totalSpend : Int
  transactionCount : Int
  minSpend : Int
  maxSpend : Int
deriving DecidableEq

/-- The row of a key in a summary. -/
structure AggregatedMetric (π : Type) where
  dimensionKey : String
  totalSpendScaled : Int
  totalSpendFormatted : String
  transactionCount : Int
  averageTicketFormatted : String
  minSpendFormatted : String
  maxSpendFormatted : String
  percentageOfTotal : π
deriving DecidableEq

structure SpendSummary (π : Type) where
  tenantId : String
  totalSpendScaled : Int
  totalSpendFormatted : String
  totalTransactions : Int
  averageTicketFormatted : String
  byDepartment : List (String × AggregatedMetric π)
  byCategory : List (String × AggregatedMetric π)
  byLocation : List (String × AggregatedMetric π)
deriving DecidableEq

/-- The accumulators of all dimensions. -/
structure Accumulators where
  departments : Dict String Accumulator
  categories : Dict String Accumulator
  locations : Dict String Accumulator

def Accumulators.empty : Accumulators := ⟨.empty, .empty, .empty⟩

def minSentinel : Int := 999999999999

/-- The accumulator of a key before its first amount. -/
def Accumulator.initial : Accumulator := ⟨0, 0, minSentinel, 0⟩

def Accumulator.add (e : Accumulator) (amount : Int) : Accumulator where
  totalSpend := e.totalSpend + amount
  transactionCount := e.transactionCount + 1
  minSpend := if amount < e.minSpend then amount else e.minSpend
  maxSpend := if amount > e.maxSpend then amount else e.maxSpend

/-- The accumulator of a key at its first amount. -/
def Accumulator.first (amount : Int) : Accumulator := ⟨amount, 1, amount, amount⟩

/-- An amount in dollars; the integer is divided first. -/
def dollars (amountScaled : Int) : Except AnalyticsError String :=
  (orRaise (centsText amountScaled)
    (.overflowError "integer division result too large for a float")).map ("$" ++ ·)

/-- An amount in dollars; the integer is converted to a float first. -/
def floatDollars (amountScaled : Int) : Except AnalyticsError String :=
  (orRaise (amountText amountScaled)
    (.overflowError "int too large to convert to float")).map ("$" ++ ·)

/-- The average ticket, rounded down to a scaled integer. -/
def averageTicketScaled (totalSpend transactionCount : Int) : Int :=
  if transactionCount > 0 then totalSpend / transactionCount else 0

/-- The text of the average ticket over all records. -/
def overallAverage (totalSpend count : Int) : Except AnalyticsError String :=
  if count > 0 then dollars (totalSpend / count) else .ok "$0.00"

section Formatting

variable {π : Type} (percentage : Int → Int → π)

/-- The row of one key. `percentage` gives the rounded share of a total, or zero where the
total is not positive.
-/
def metricRow (totalSpend : Int) (key : String) (e : Accumulator)
    : Except AnalyticsError (AggregatedMetric π) := do
  let totalText ← floatDollars e.totalSpend
  let averageText ← floatDollars (averageTicketScaled e.totalSpend e.transactionCount)
  let minText ← dollars e.minSpend
  let maxText ← dollars e.maxSpend
  return {
    dimensionKey := key
    totalSpendScaled := e.totalSpend
    totalSpendFormatted := totalText
    transactionCount := e.transactionCount
    averageTicketFormatted := averageText
    minSpendFormatted := minText
    maxSpendFormatted := maxText
    percentageOfTotal := percentage e.totalSpend totalSpend
  }

/-- The rows of all keys of one dimension. -/
def metricRows (totalSpend : Int)
    : List (String × Accumulator) → Except AnalyticsError (List (String × AggregatedMetric π))
  | [] => .ok []
  | (key, e) :: rest => do
      let row ← metricRow percentage totalSpend key e
      let rows ← metricRows totalSpend rest
      return (key, row) :: rows

/-- A summary from its accumulators; `shown` is applied to each of them. -/
def summarize (shown : Accumulator → Accumulator) (tenantId : String) (totalSpend count : Int)
    (acc : Accumulators) : Except AnalyticsError (SpendSummary π) := do
  let rows (d : Dict String Accumulator) :=
    metricRows percentage totalSpend (d.entries.map (fun entry => (entry.1, shown entry.2)))
  let byDepartment ← rows acc.departments
  let byCategory ← rows acc.categories
  let byLocation ← rows acc.locations
  let totalText ← dollars totalSpend
  let averageText ← overallAverage totalSpend count
  return {
    tenantId
    totalSpendScaled := totalSpend
    totalSpendFormatted := totalText
    totalTransactions := count
    averageTicketFormatted := averageText
    byDepartment
    byCategory
    byLocation
  }

end Formatting

/-- A key with an initial accumulator for each distinct value of a column. In which order the
values are taken does not show in any lookup.
-/
def initialise (column : List String) : Dict String Accumulator :=
  column.dedup.foldl (fun accum key => accum.set key .initial) .empty

/-- Add an amount to an accumulator that has to exist. -/
def addExisting (accum : Dict String Accumulator) (key : String) (amount : Int)
    : Except AnalyticsError (Dict String Accumulator) := do
  let e ← orRaise (accum.get? key) (.keyError key)
  return accum.set key (e.add amount)

/-- Department, category, location and amount of one row. -/
abbrev ColumnarRow := String × String × String × Int

def addColumnarRow (acc : Accumulators) : ColumnarRow → Except AnalyticsError Accumulators
  | (department, category, location, amount) => do
      let departments ← addExisting acc.departments department amount
      let categories ← addExisting acc.categories category amount
      let locations ← addExisting acc.locations location amount
      return ⟨departments, categories, locations⟩

def addColumnarRows (acc : Accumulators) : List ColumnarRow → Except AnalyticsError Accumulators
  | [] => .ok acc
  | row :: rest => do
      let acc ← addColumnarRow acc row
      addColumnarRows acc rest

/-- A minimum is shown only for a key with amounts. -/
def Accumulator.columnarShown (e : Accumulator) : Accumulator :=
  { e with minSpend := if e.transactionCount > 0 then e.minSpend else 0 }

def aggregateColumnar {π : Type} (percentage : Int → Int → π) (batch : SpendColumnarBatch)
    : Except AnalyticsError (SpendSummary π) := do
  let start : Accumulators :=
    ⟨initialise batch.departments, initialise batch.categories, initialise batch.locations⟩
  let rows :=
    batch.departments.zip (batch.categories.zip (batch.locations.zip batch.amountsScaled))
  let acc ← addColumnarRows start rows
  summarize percentage Accumulator.columnarShown batch.tenantId batch.amountsScaled.sum
    batch.amountsScaled.length acc

/-- Add an amount to an accumulator, or start one with it. -/
def addOrStart (accum : Dict String Accumulator) (key : String) (amount : Int)
    : Dict String Accumulator :=
  match accum.get? key with
  | some e => accum.set key (e.add amount)
  | none => accum.set key (.first amount)

/-- The state of the plain path: total, count and accumulators. -/
structure PlainTotals where
  totalSpend : Int
  totalTx : Int
  acc : Accumulators

def PlainTotals.start : PlainTotals := ⟨0, 0, .empty⟩

/-- Records of other tenants are skipped. -/
def addRecord (tenantId : String) (t : PlainTotals) (r : SpendRecord) : PlainTotals :=
  if r.tenantId ≠ tenantId then
    t
  else
    {
      totalSpend := t.totalSpend + r.amountScaled
      totalTx := t.totalTx + 1
      acc := {
        departments := addOrStart t.acc.departments r.department r.amountScaled
        categories := addOrStart t.acc.categories r.category r.amountScaled
        locations := addOrStart t.acc.locations r.location r.amountScaled
      }
    }

def getExecutiveSummary {π : Type} (percentage : Int → Int → π) (records : List SpendRecord)
    (tenantId : String) : Except AnalyticsError (SpendSummary π) :=
  let t := records.foldl (addRecord tenantId) .start
  summarize percentage id tenantId t.totalSpend t.totalTx t.acc

end PettyFlow.Analytics
