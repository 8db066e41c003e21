import PettyFlow.Api.ReceiptRouter
import PettyFlow.Frontend.DraftsBanner
import PettyFlow.Frontend.ShownTiers

/-! The expense form as it is filled from a scanned receipt: the total that was read is the amount
that the service decides about.
-/

namespace PettyFlow.Frontend

open Adapters Api Foundation Receipts Workflow

/-- The value of a field of one line. -/
def oneLine (text : String) : String :=
  String.ofList (text.toList.filter (fun c => c ≠ '\n' ∧ c ≠ '\r'))

/-- The value of a field of several lines, which all end with line feeds. -/
def lineFeeds : List Char → List Char
  | '\r' :: '\n' :: rest => '\n' :: lineFeeds rest
  | '\r' :: rest => '\n' :: lineFeeds rest
  | c :: rest => c :: lineFeeds rest
  | [] => []

/-- What the form describes a receipt with. -/
def scannedDesc (ocrData : ReceiptExtractionResponse) : String :=
  let itemsDesc :=
    orText (some (", ".intercalate (ocrData.lineItems.map (·.description)))) "General expense"
  let merchant := orText (some ocrData.merchantName) "Merchant"
  s!"{merchant} - {itemsDesc}"

/-- The fields of the form after a scan, which leaves an amount alone where there is no total. -/
def scanReceiptWithAI (fields : ExpenseFields) (ocrData : ReceiptExtractionResponse)
    : ExpenseFields :=
  {
    fields with
      expenseAmount :=
        if ocrData.totalScaled = 0 then fields.expenseAmount else draftAmount ocrData.totalScaled
      merchant :=
        if ocrData.merchantName = "" then fields.merchant else oneLine ocrData.merchantName
      expenseDesc := String.ofList (lineFeeds (scannedDesc ocrData).toList)
  }

/-! ### The amount field -/

/-- The two decimals of the field are the cents of the amount. -/
theorem draftAmount_cents {cents : Nat} (positive : 0 < cents) (small : cents < 2 ^ 38 * 100)
    : draftAmount (100 * cents : Int) = hundredthsText cents := by
  have cast : (cents : ℚ) < 2 ^ 38 * 100 := by exact_mod_cast small
  have some : (1 : ℚ) ≤ cents := by exact_mod_cast positive
  have value : ((100 * cents : Int) : ℚ) / 10000 = cents / 100 := by
    push_cast
    ring
  have bounded : |(cents : ℚ) / 100| < 2 ^ 38 := by
    rw [abs_of_nonneg (by positivity), div_lt_iff₀ (by norm_num)]
    linarith
  obtain ⟨amount, nearest, error⟩ := FloatValue.nearest_error bounded (by decide)
  norm_num at error
  obtain ⟨low, high⟩ := abs_le.mp error
  have nonneg : 0 ≤ amount := by linarith
  have units : ⌊|amount| * 100 + 1 / 2⌋ = (cents : Int) := by
    rw [abs_of_nonneg nonneg, Int.floor_eq_iff]
    push_cast
    constructor <;> linarith
  rw [draftAmount, value, nearest]
  change toFixed amount = _
  rw [toFixed, units, if_neg (not_lt.mpr nonneg), String.empty_append]
  rfl

theorem spells_hundredths (cents : Nat) : Spells (hundredthsText cents) (100 * cents) := by
  have digits := toList_hundredthsText cents
  obtain ⟨first, rest, whole⟩ : ∃ first rest, Nat.toDigits 10 (cents / 100) = first :: rest :=
    List.exists_cons_of_ne_nil Nat.toDigits_ne_nil
  rw [whole] at digits
  have digit : first.isDigit = true :=
    Nat.isDigit_of_mem_toDigits (by decide) (by decide) (whole ▸ List.mem_cons_self)
  refine ⟨?_, ?_, ?_⟩
  · rw [digits, List.cons_append, List.head?_cons, Option.all_some, digit, Bool.true_or]
  · intro empty
    rw [empty] at digits
    cases digits
  · rw [ofDecimal_hundredthsText]
    push_cast
    ring

/-! ### The description field -/

theorem mem_lineFeeds {c : Char} (other : c ≠ '\r') {text : List Char} (member : c ∈ text)
    : c ∈ lineFeeds text := by
  induction text using lineFeeds.induct with
  | case1 rest ih =>
      rw [lineFeeds]
      rcases List.mem_cons.mp member with first | member
      · exact absurd first other
      rcases List.mem_cons.mp member with second | later
      · exact second ▸ List.mem_cons_self
      · exact List.mem_cons_of_mem _ (ih later)
  | case2 rest next ih =>
      rw [lineFeeds]
      · rcases List.mem_cons.mp member with first | later
        · exact absurd first other
        · exact List.mem_cons_of_mem _ (ih later)
      · exact next
  | case3 c rest next ending ih =>
      rw [lineFeeds]
      · rcases List.mem_cons.mp member with first | later
        · exact first ▸ List.mem_cons_self
        · exact List.mem_cons_of_mem _ (ih later)
      · exact next
      · exact ending
  | case4 => exact absurd member List.not_mem_nil

theorem mem_dropWhile_isTrimmed {c : Char} (kept : isTrimmed c = false) {text : List Char}
    (member : c ∈ text)
    : c ∈ text.dropWhile isTrimmed := by
  rw [← List.takeWhile_append_dropWhile (p := isTrimmed) (l := text)] at member
  rcases List.mem_append.mp member with blank | rest
  · have trimmed := List.mem_takeWhile_imp blank
    rw [kept] at trimmed
    cases trimmed
  · exact rest

/-- A text with more than blanks is not trimmed to nothing. -/
theorem trim_ne_empty {c : Char} (kept : isTrimmed c = false) {text : String}
    (member : c ∈ text.toList)
    : trim text ≠ "" := by
  have inside : c ∈ (trim text).toList := by
    rw [trim, String.toList_ofList, List.mem_reverse]
    exact mem_dropWhile_isTrimmed kept
      (List.mem_reverse.mpr (mem_dropWhile_isTrimmed kept member))
  intro empty
  rw [empty] at inside
  cases inside

/-- The description of a receipt is never missing, whatever has been read. -/
theorem scanned_described (fields : ExpenseFields) (ocrData : ReceiptExtractionResponse)
    : trim (scanReceiptWithAI fields ocrData).expenseDesc ≠ "" := by
  have dash : '-' ∈ (scannedDesc ocrData).toList := by
    simp only [scannedDesc, String.toList_append, List.mem_append]
    exact Or.inl (Or.inr (by decide))
  refine trim_ne_empty (c := '-') (by decide) ?_
  rw [scanReceiptWithAI, String.toList_ofList]
  exact mem_lineFeeds (by decide) dash

/-! ### Scans -/

/-- A scan of a text of fewer than 2 ^ 18 lines that has been answered with a total, and the fields
before it.
-/
structure Scan where
  router : ReceiptRouter
  tables : CharTables
  today : CalendarDate
  file : Bytes
  text : String
  read : router.textOf (some file) none = .ok text
  short : (ReceiptOCRProcessor.linesOf text).length < 2 ^ 18
  ocrData : ReceiptExtractionResponse
  answered : router.extractReceipt tables today (some file) none = .ok ocrData
  some : ocrData.totalScaled ≠ 0
  before : ExpenseFields

namespace Scan

variable (scan : Scan)

/-- What the processor has read. -/
def result : ReceiptExtractionResult :=
  ReceiptOCRProcessor.processText scan.tables scan.today scan.text

/-- The fields after the scan. -/
def fields : ExpenseFields := scanReceiptWithAI scan.before scan.ocrData

theorem answer : AnswerFor scan.result scan.ocrData := by
  obtain ⟨response, answered, answer⟩ := ReceiptRouter.extractReceipt_answer scan.read scan.short
  obtain rfl := Except.ok.inj (answered.symm.trans scan.answered)
  exact answer

/-- The amount field spells the total of the receipt. -/
theorem typed : ∃ units : Nat, scan.result.totalScaled = units ∧ Typed scan.fields units := by
  obtain ⟨cents, small, total⟩ := (@processText_small scan.tables scan.today _ scan.short).total
  have read : scan.ocrData.totalScaled = 100 * cents := scan.answer.totalScaled.trans total
  have positive : 0 < cents := by
    rcases Nat.eq_zero_or_pos cents with rfl | positive
    · exact absurd read scan.some
    · exact positive
  have field : scan.fields.expenseAmount = hundredthsText cents := by
    rw [fields, scanReceiptWithAI]
    dsimp only
    rw [if_neg scan.some, read, draftAmount_cents positive small]
  refine ⟨100 * cents, ?_, ?_, by omega, by omega⟩
  · exact total.trans (by push_cast; rfl)
  · rw [field]
    exact spells_hundredths cents

/-- The form can always be sent after a scan. -/
theorem sent : ∃ form, scan.fields.payload = .ok form := by
  obtain ⟨units, _, typed⟩ := scan.typed
  obtain ⟨product, multiplied, _⟩ := typed.spells.product typed.small
  have positive := typed.spells.isPositive typed.small typed.positive
  have described : ¬ trim scan.fields.expenseDesc = "" := scanned_described _ _
  rw [ExpenseFields.payload, positive, raiseIf_neg (by decide), raiseIf_neg described, multiplied]
  exact ⟨_, rfl⟩

end Scan

/-- A request is as it was scanned: it has the total that the processor has read, which is the one
that the answer of the router shows, and it is treated as the form has shown.
-/
structure AsScanned (scan : Scan) (request : ApprovalRequest) : Prop where
  amount : request.amountScaled = scan.result.totalScaled
  formatted : shownValue scan.ocrData.totalFormatted = request.amountScaled / 10000
  shown : AsShown scan.fields request

/-- In every run of the app and the service: every request that the service holds is made of a
confirmed form, and is as it was scanned by whatever scan has filled that form.
-/
theorem requests_as_scanned (steps : List SystemStep) {key : RequestKey}
    {request : ApprovalRequest}
    (held
      : (systemMachine.exec (.initial defaultEvaluator) steps).service.requests.get? key
        = some request)
    : ∃ form ∈ confirmedForms steps,
        MadeOf form request
        ∧ ∀ scan : Scan, scan.fields.payload = .ok form → AsScanned scan request := by
  obtain ⟨form, confirmed, made⟩ := (exec_carries steps).made key request held
  refine ⟨form, confirmed, made, fun scan sent => ?_⟩
  obtain ⟨units, total, typed⟩ := scan.typed
  have amount : request.amountScaled = scan.result.totalScaled := by
    rw [made.amountScaled, payload_amount typed sent, total]
  refine ⟨amount, ?_, made.asShown typed sent⟩
  rw [scan.answer.exact.total.value, scan.answer.totalScaled, amount]

section Sample

/-- The answer for the sample of the router. -/
def coffeeData : Except (EndpointError ReceiptError) ReceiptExtractionResponse :=
  plainRouter.extractReceipt .ascii scanDay (some [0]) none

theorem coffeeData_isSome : coffeeData.toOption.isSome = true := by decide +kernel

def coffeeScan : Scan where
  router := plainRouter
  tables := .ascii
  today := scanDay
  file := [0]
  text := sampleText
  read := rfl
  short := sampleText_short sampleText rfl
  ocrData := coffeeData.toOption.get coffeeData_isSome
  answered := ok_of_toOption (Option.some_get coffeeData_isSome).symm
  some := by decide +kernel
  before := ⟨"acme", "dana", "", "USD", "", "", true⟩

def coffeeForm : ExpenseForm where
  tenantId := "acme"
  custodianId := "dana"
  amountScaled := 123800
  currency := "USD"
  description := "BLUE BOTTLE COFFEE - Espresso, Almond Croissant"
  merchantName := "BLUE BOTTLE COFFEE"
  receiptImageAttached := true

def scannedCoffee : List SystemStep := [.confirm coffeeForm, .deliver 0 (moment 1)]

def scannedCoffeeRequest : Option ApprovalRequest :=
  (systemMachine.exec (.initial defaultEvaluator) scannedCoffee).service.requests.get? taxiKey

theorem scannedCoffee_held : scannedCoffeeRequest.isSome = true := by decide +kernel

theorem requests_as_scanned_sample
    : AsScanned coffeeScan (scannedCoffeeRequest.get scannedCoffee_held) := by
  obtain ⟨form, confirmed, _, scanned⟩ :=
    requests_as_scanned scannedCoffee (Option.some_get scannedCoffee_held).symm
  obtain rfl := List.mem_singleton.mp confirmed
  exact scanned coffeeScan (by decide +kernel)

end Sample

end PettyFlow.Frontend
