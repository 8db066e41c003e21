import PettyFlow.Analytics.SummaryExactness
import PettyFlow.Foundation.Bytes
import PettyFlow.Foundation.Csv
import PettyFlow.Foundation.FloatRoots
import PettyFlow.Foundation.Json

/-! The financial reports: records come in one by one as objects of any fields, and statements of a
tenant's records are exported as tables and as documents.
-/

namespace PettyFlow.Api

open Foundation PettyFlow.Analytics

inductive ReportsError where
  | analytics (error : AnalyticsError)
  | typeError (message : String)
  /-- A header outside Latin-1. -/
  | unicodeEncodeError
  /-- What the PDF library raises. -/
  | pdf (message : String)
deriving DecidableEq

/-! ### Records -/

/-- A record with the fields as they came. -/
structure ReceivedRecord where
  transactionId : Json
  tenantId : Json
  department : Json
  location : Json
  category : Json
  amountScaled : Json
  currency : Json
  timestamp : String

/-- A record whose fields have the declared types. -/
structure StatementRecord where
  transactionId : String
  tenantId : String
  department : String
  location : String
  category : String
  amountScaled : Int
  currency : String
  timestamp : String
deriving DecidableEq

def StatementRecord.received (r : StatementRecord) : ReceivedRecord where
  transactionId := .str r.transactionId
  tenantId := .str r.tenantId
  department := .str r.department
  location := .str r.location
  category := .str r.category
  amountScaled := .int r.amountScaled
  currency := .str r.currency
  timestamp := r.timestamp

namespace ReceivedRecord

/-- A field of another type is not equal to any text. -/
def IsOf (tenantId : String) (r : ReceivedRecord) : Prop := r.tenantId.str? = some tenantId

instance (tenantId : String) (r : ReceivedRecord) : Decidable (r.IsOf tenantId) :=
  inferInstanceAs (Decidable (r.tenantId.str? = some tenantId))

/-- What the summary reads of a record, if that has the declared types. -/
def spend? (r : ReceivedRecord) : Option SpendRecord := do
  let tenantId ← r.tenantId.str?
  let department ← r.department.str?
  let location ← r.location.str?
  let category ← r.category.str?
  let amountScaled ← r.amountScaled.int?
  return ⟨tenantId, department, location, category, amountScaled⟩

/-- The record of a body, which is any object. -/
def ofBody (record : Dict String Json) (now : String) : Except ReportsError ReceivedRecord := do
  let field (name : String) := orRaise (record.get? name) (.analytics (.keyError name))
  let transactionId ← field "transaction_id"
  let tenantId ← field "tenant_id"
  let department ← field "department"
  let location ← field "location"
  let category ← field "category"
  let amountScaled ← field "amount_scaled"
  return {
    transactionId
    tenantId
    department
    location
    category
    amountScaled
    currency := record.getD "currency" (.str "USD")
    timestamp := now
  }

end ReceivedRecord

/-! ### Statements -/

/-- The rows of the PDF document: transaction, department, location and category, and the amount. -/
structure PdfRow where
  cells : List Json
  amount : String

/-- What the PDF library lays out. Without rows there is no table. -/
structure PdfStory where
  tenantLine : String
  totalLine : String
  rows : List PdfRow

/-- The summary of records some of which have fields of other types. -/
structure MixedSummary where
  totalSpendFormatted : String
  totalTransactions : Int
  content : Json

/-- What the reports rest on: the shares of totals, the texts that the interpreter has for floats,
lists and objects, what its arithmetic makes of fields of other types, and the PDF library.
-/
structure ReportsRuntime (π : Type) where
  percentage : Int → Int → π
  str : Json → String
  mixedSummary : List ReceivedRecord → Except ReportsError MixedSummary
  paragraph : String → Except String Unit
  build : PdfStory → Except String Bytes

inductive ReportedSummary (π : Type) where
  | declared (summary : SpendSummary π)
  | mixed (summary : MixedSummary)

namespace ReportedSummary

variable {π : Type}

def totalSpendFormatted : ReportedSummary π → String
  | declared summary => summary.totalSpendFormatted
  | mixed summary => summary.totalSpendFormatted

def totalTransactions : ReportedSummary π → Int
  | declared summary => summary.totalTransactions
  | mixed summary => summary.totalTransactions

end ReportedSummary

structure StatementResponse (χ : Type) where
  content : χ
  mediaType : String
  contentDisposition : String
deriving DecidableEq

def contentDisposition (tenantId today extension : String) : String :=
  "attachment; filename=pettyflow_statement_" ++ tenantId ++ "_" ++ today ++ "." ++ extension

def isLatinOne (text : String) : Bool := text.toList.all (fun c => c.toNat < 256)

/-- The response encodes its headers as it is made. -/
def statementResponse {χ : Type} (content : χ) (mediaType tenantId today extension : String)
    : Except ReportsError (StatementResponse χ) :=
  if isLatinOne (contentDisposition tenantId today extension) then
    .ok ⟨content, mediaType, contentDisposition tenantId today extension⟩
  else
    .error .unicodeEncodeError

/-- The amount in dollars, divided before it becomes a float. Only a number is divided. -/
def amountDollars : Json → Except ReportsError String
  | .int amount => cents amount
  | .bool amount => cents amount.toInt
  | .float text =>
      .ok (((FloatValue.ofText text).div (.finite 10000)).fixed 2 (text.startsWith "-"))
  | .null => .error (unsupported "NoneType")
  | .str _ => .error (unsupported "str")
  | .arr _ => .error (unsupported "list")
  | .obj _ => .error (unsupported "dict")
where
  cents (amount : Int) : Except ReportsError String :=
    orRaise (centsText amount)
      (.analytics (.overflowError "integer division result too large for a float"))
  unsupported (name : String) : ReportsError :=
    .typeError s!"unsupported operand type(s) for /: '{name}' and 'int'"

section Runtime

variable {π : Type} (runtime : ReportsRuntime π)

/-- The text of a field in a table. -/
def ReportsRuntime.cell : Json → String
  | .str text => text
  | .null => ""
  | .int n => n.repr
  | .bool value => if value then "True" else "False"
  | value => runtime.str value

def statementHeader : Csv.Row :=
  ["Transaction ID", "Tenant ID", "Timestamp", "Department", "Location", "Category",
    "Amount (Scaled)", "Amount (USD)", "Currency"].map String.toList

def statementRow (r : ReceivedRecord) : Except ReportsError Csv.Row := do
  let amount ← amountDollars r.amountScaled
  return [runtime.cell r.transactionId, runtime.cell r.tenantId, r.timestamp,
    runtime.cell r.department, runtime.cell r.location, runtime.cell r.category,
    runtime.cell r.amountScaled, amount, runtime.cell r.currency].map String.toList

def pdfRow (r : ReceivedRecord) : Except ReportsError PdfRow := do
  let amount ← amountDollars r.amountScaled
  return ⟨[r.transactionId, r.department, r.location, r.category], "$" ++ amount⟩

end Runtime

/-- The state of the router: the records in the order in which they came. -/
structure ReportsRouter where
  records : List ReceivedRecord

namespace ReportsRouter

variable {π : Type} (runtime : ReportsRuntime π)

def tenantRecs (s : ReportsRouter) (tenantId : String) : List ReceivedRecord :=
  s.records.filter (·.IsOf tenantId)

def addSpendRecord (s : ReportsRouter) (record : Dict String Json) (now : String)
    : Except ReportsError Json × ReportsRouter :=
  attempt s (ReceivedRecord.ofBody record now) (fun r => (r.transactionId, ⟨s.records ++ [r]⟩))

/-- Nothing but the tenant is read of the records of other tenants. -/
def getSpendSummary (s : ReportsRouter) (tenantId : String)
    : Except ReportsError (ReportedSummary π) :=
  match (s.tenantRecs tenantId).mapM ReceivedRecord.spend? with
  | some spends =>
      ((getExecutiveSummary runtime.percentage spends tenantId).map .declared).mapError .analytics
  | none => (runtime.mixedSummary (s.tenantRecs tenantId)).map .mixed

def exportCsvStatement (s : ReportsRouter) (tenantId today : String)
    : Except ReportsError (StatementResponse String) := do
  let rows ← (s.tenantRecs tenantId).mapM (statementRow runtime)
  statementResponse (String.ofList (Csv.write (statementHeader :: rows))) "text/csv" tenantId today
    "csv"

/-- Up to thirty records are laid out. The day is asked for twice. -/
def exportPdfStatement (s : ReportsRouter) (tenantId today named : String)
    : Except ReportsError (StatementResponse Bytes) := do
  let summary ← s.getSpendSummary runtime tenantId
  let tenantLine := s!"<b>Tenant ID:</b> {tenantId} | <b>Date:</b> {today}"
  let totalLine :=
    "<b>Total Spend:</b> " ++ summary.totalSpendFormatted ++ " | <b>Transactions:</b> "
      ++ summary.totalTransactions.repr
  (runtime.paragraph tenantLine).mapError .pdf
  (runtime.paragraph totalLine).mapError .pdf
  let rows ← ((s.tenantRecs tenantId).take 30).mapM pdfRow
  let content ← (runtime.build ⟨tenantLine, totalLine, rows⟩).mapError .pdf
  statementResponse content "application/pdf" tenantId named "pdf"

end ReportsRouter

inductive ReportsCall where
  | addSpendRecord (record : Dict String Json) (now : String)
  | getSpendSummary (tenantId : String)
  | exportCsvStatement (tenantId today : String)
  | exportPdfStatement (tenantId today named : String)

inductive ReportsAnswer (π : Type) where
  | added (transactionId : Json)
  | summary (summary : ReportedSummary π)
  | statement (response : StatementResponse String)
  | document (response : StatementResponse Bytes)

def reportsMachine {π : Type} (runtime : ReportsRuntime π)
    : Machine ReportsRouter ReportsCall (Except ReportsError (ReportsAnswer π)) where
  step s call :=
    match call with
    | .addSpendRecord record now =>
        let (outcome, next) := s.addSpendRecord record now
        (outcome.map .added, next)
    | .getSpendSummary tenantId => ((s.getSpendSummary runtime tenantId).map .summary, s)
    | .exportCsvStatement tenantId today =>
        ((s.exportCsvStatement runtime tenantId today).map .statement, s)
    | .exportPdfStatement tenantId today named =>
        ((s.exportPdfStatement runtime tenantId today named).map .document, s)

end PettyFlow.Api
