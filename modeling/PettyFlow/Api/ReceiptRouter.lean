import PettyFlow.Adapters.TransferAmounts
import PettyFlow.Api.Endpoint
import PettyFlow.Foundation.Bytes
import PettyFlow.Foundation.FloatErrors
import PettyFlow.Receipts.CentAmounts

/-! The router that reads uploaded receipts, and the amounts that its answers show. -/

namespace PettyFlow.Api

open Adapters Foundation Receipts

/-- How the adapter of a vision service ends. -/
inductive VisionOutcome where
  | text (ocrText : String)
  | timedOut
  | failed (message : String)

inductive ReceiptError where
  | overflowError

/-- A router with its preprocessor of images, its vision adapter and the text of its timeout. -/
structure ReceiptRouter where
  preprocessImageBytes : Bytes → Except String Bytes
  visionExtractor : Option (Bytes → VisionOutcome)
  extractorTimeoutSeconds : String

structure ReceiptLineItemResponse where
  description : String
  amountScaled : Int
  amountFormatted : String

/-- The answer for a receipt, apart from the time that it took. -/
structure ReceiptExtractionResponse where
  merchantName : String
  taxId : Option String
  transactionDate : String
  lineItems : List ReceiptLineItemResponse
  subtotalScaled : Int
  subtotalFormatted : String
  taxScaled : Int
  taxFormatted : String
  tipScaled : Int
  tipFormatted : String
  totalScaled : Int
  totalFormatted : String
  mathValidated : Bool
  confidenceScore : ℚ

def formatted (amountScaled : Int) : Except ReceiptError String :=
  (orRaise (amountText amountScaled) .overflowError).map ("$" ++ ·)

def itemDict (item : ReceiptLineItem) : Except ReceiptError ReceiptLineItemResponse := do
  let amountFormatted ← formatted item.amountScaled
  return ⟨item.description, item.amountScaled, amountFormatted⟩

def toDict (result : ReceiptExtractionResult) : Except ReceiptError ReceiptExtractionResponse := do
  let lineItems ← result.lineItems.mapM itemDict
  let subtotalFormatted ← formatted result.subtotalScaled
  let taxFormatted ← formatted result.taxScaled
  let tipFormatted ← formatted result.tipScaled
  let totalFormatted ← formatted result.totalScaled
  return {
    merchantName := result.merchantName
    taxId := result.taxId
    transactionDate := result.transactionDate
    lineItems
    subtotalScaled := result.subtotalScaled
    subtotalFormatted
    taxScaled := result.taxScaled
    taxFormatted
    tipScaled := result.tipScaled
    tipFormatted
    totalScaled := result.totalScaled
    totalFormatted
    mathValidated := result.mathValidated
    confidenceScore := result.confidenceScore
  }

/-- What is read where no vision adapter is plugged in. -/
def sampleText : String :=
  "BLUE BOTTLE COFFEE\n"
  ++ "TAX ID: US-98765432\n"
  ++ "DATE: 2026-08-20\n"
  ++ "Espresso $4.50\n"
  ++ "Almond Croissant $5.50\n"
  ++ "Subtotal $10.00\n"
  ++ "Tax $0.88\n"
  ++ "Tip $1.50\n"
  ++ "Total $12.38\n"

namespace ReceiptRouter

variable (router : ReceiptRouter)

def visionText (normalizedBytes : Bytes) : Except (EndpointError ReceiptError) String :=
  match router.visionExtractor with
  | none => .ok sampleText
  | some visionExtractor =>
      match visionExtractor normalizedBytes with
      | .text ocrText => .ok ocrText
      | .timedOut =>
          .error
            (.httpException 504
              s!"Vision OCR extractor service timed out after {router.extractorTimeoutSeconds}s")
      | .failed message =>
          .error (.httpException 502 s!"Vision OCR extractor adapter failed: {message}")

/-- The text of a receipt: the given one, or else that of the file. -/
def textOf (file : Option Bytes) (rawTextOverride : Option String)
    : Except (EndpointError ReceiptError) String :=
  if rawTextOverride.getD "" ≠ "" then
    .ok (rawTextOverride.getD "")
  else do
    let contentBytes ←
      orRaise file
        (.httpException 400 "Either 'file' upload or 'raw_text_override' must be provided")
    raiseIf (contentBytes = []) (.httpException 400 "Uploaded file payload is empty")
    let normalizedBytes ←
      (router.preprocessImageBytes contentBytes).mapError (EndpointError.httpException 422)
    router.visionText normalizedBytes

def extractReceipt (tables : CharTables) (today : CalendarDate) (file : Option Bytes)
    (rawTextOverride : Option String)
    : Except (EndpointError ReceiptError) ReceiptExtractionResponse := do
  let text ← router.textOf file rawTextOverride
  (toDict (ReceiptOCRProcessor.processText tables today text)).mapError .escaped

end ReceiptRouter

/-! ### Texts of amounts -/

/-- Amounts of cents have the text of their cents, far beyond what a receipt can hold. -/
theorem amountText_cents {cents : Nat} (small : cents < 2 ^ 38 * 100)
    : amountText (100 * cents : Int) = some (hundredthsText cents) := by
  rcases Nat.eq_zero_or_pos cents with rfl | some
  · decide
  have amount : (100 * cents : Int).natAbs = 100 * cents := by omega
  have bounded : 100 * cents < 2 ^ 52 * 1 := by omega
  have converted := Double.nearest?_isSome one_pos (show 100 * cents < 2 ^ 256 by omega)
  unfold Double.nearest? at converted
  dsimp only at converted
  have first := Double.nearest_error_le one_pos bounded
  have cast : (cents : ℚ) < 2 ^ 38 * 100 := by exact_mod_cast small
  norm_num at first
  obtain ⟨low, high⟩ := abs_le.mp first
  have size : (Double.nearest (100 * cents) 1).value < 2 ^ 39 * (10000 : ℕ) := by
    norm_num
    linarith only [high, cast]
  have second := Double.divide_error (by decide) size
  norm_num at second
  obtain ⟨low', high'⟩ := abs_le.mp second
  have text : ((Double.nearest (100 * cents) 1).divide 10000).fixed 2 = hundredthsText cents := by
    apply Double.fixed_eq
    rw [abs_lt]
    norm_num
    constructor <;> linarith
  rw [amountText, if_neg (by omega), amount, Double.nearest?]
  split at converted
  · rename_i fits
    rw [if_pos fits, Option.map_some, text, if_neg (by omega), String.empty_append]
  · cases converted

/-! ### Answers -/

/-- The number behind the sign of a formatted amount. -/
def shownValue (formatted : String) : ℚ := FloatValue.ofDecimal (formatted.toList.drop 1)

/-- A formatted amount has the cents of the scaled amount beside it, and the scaled amount has
nothing but cents.
-/
def Shows (formatted : String) (amountScaled : Int) : Prop :=
  ∃ cents : Nat, formatted = "$" ++ hundredthsText cents ∧ amountScaled = 100 * cents

theorem Shows.value {formatted : String} {amountScaled : Int} (shows : Shows formatted amountScaled)
    : shownValue formatted = amountScaled / 10000 := by
  obtain ⟨cents, rfl, rfl⟩ := shows
  have behind : ("$" ++ hundredthsText cents).toList.drop 1 = (hundredthsText cents).toList := by
    rw [String.toList_append]
    rfl
  rw [shownValue, behind, ofDecimal_hundredthsText]
  push_cast
  ring

/-- An answer shows its amounts exactly, and it is validated exactly if the amounts that it shows
add up to a total.
-/
structure ReceiptExtractionResponse.Exact (response : ReceiptExtractionResponse) : Prop where
  subtotal : Shows response.subtotalFormatted response.subtotalScaled
  tax : Shows response.taxFormatted response.taxScaled
  tip : Shows response.tipFormatted response.tipScaled
  total : Shows response.totalFormatted response.totalScaled
  items : ∀ item ∈ response.lineItems, Shows item.amountFormatted item.amountScaled
  validated
    : response.mathValidated
      ↔ shownValue response.subtotalFormatted + shownValue response.taxFormatted
            + shownValue response.tipFormatted
          = shownValue response.totalFormatted
        ∧ 0 < shownValue response.totalFormatted

/-- The answer is one for the result of the processor. -/
structure AnswerFor (result : ReceiptExtractionResult) (response : ReceiptExtractionResponse)
    : Prop where
  merchantName : response.merchantName = result.merchantName
  taxId : response.taxId = result.taxId
  transactionDate : response.transactionDate = result.transactionDate
  items
    : response.lineItems.map (fun item => (item.description, item.amountScaled))
      = result.lineItems.map (fun item => (item.description, item.amountScaled))
  subtotalScaled : response.subtotalScaled = result.subtotalScaled
  taxScaled : response.taxScaled = result.taxScaled
  tipScaled : response.tipScaled = result.tipScaled
  totalScaled : response.totalScaled = result.totalScaled
  confidenceScore : response.confidenceScore = result.confidenceScore
  exact : response.Exact

theorem formatted_cents {amountScaled : Int} (cents : Cents (2 ^ 38 * 100) amountScaled)
    : ∃ text, formatted amountScaled = .ok text ∧ Shows text amountScaled := by
  obtain ⟨count, small, rfl⟩ := cents
  refine ⟨"$" ++ hundredthsText count, ?_, count, rfl, rfl⟩
  rw [formatted, amountText_cents small]
  rfl

/-- Items of cents are all answered, by induction over them. -/
theorem mapM_itemDict {items : List ReceiptLineItem}
    (cents : ∀ item ∈ items, Cents (2 ^ 38 * 100) item.amountScaled)
    : ∃ responses,
        items.mapM itemDict = .ok responses
        ∧ responses.map (fun item => (item.description, item.amountScaled))
          = items.map (fun item => (item.description, item.amountScaled))
        ∧ ∀ item ∈ responses, Shows item.amountFormatted item.amountScaled := by
  induction items with
  | nil => exact ⟨[], rfl, rfl, List.forall_mem_nil _⟩
  | cons item items ih =>
      rw [List.forall_mem_cons] at cents
      obtain ⟨text, written, shows⟩ := formatted_cents cents.1
      obtain ⟨responses, answered, same, exact⟩ := ih cents.2
      refine ⟨⟨item.description, item.amountScaled, text⟩ :: responses, ?_, ?_, ?_⟩
      · rw [List.mapM_cons, itemDict, written, answered]
        rfl
      · rw [List.map_cons, List.map_cons, same]
      · exact List.forall_mem_cons.mpr ⟨shows, exact⟩

/-- A result of cents is answered exactly. -/
theorem toDict_exact {result : ReceiptExtractionResult}
    (cents : result.amounts.InCents (2 ^ 38 * 100))
    (validated
      : result.mathValidated
        ↔ result.subtotalScaled + result.taxScaled + result.tipScaled = result.totalScaled
          ∧ 0 < result.totalScaled)
    : ∃ response, toDict result = .ok response ∧ AnswerFor result response := by
  obtain ⟨items, answered, sameItems, itemsShow⟩ := mapM_itemDict cents.items
  obtain ⟨subtotal, subtotalText, subtotalShows⟩ := formatted_cents cents.subtotal
  obtain ⟨tax, taxText, taxShows⟩ := formatted_cents cents.tax
  obtain ⟨tip, tipText, tipShows⟩ := formatted_cents cents.tip
  obtain ⟨total, totalText, totalShows⟩ := formatted_cents cents.total
  dsimp only [ReceiptExtractionResult.amounts] at *
  have positive (x : Int) : (0 : ℚ) < x / 10000 ↔ 0 < x := by
    rw [lt_div_iff₀ (by norm_num), zero_mul, Int.cast_pos]
  have sum
      : (result.subtotalScaled : ℚ) / 10000 + result.taxScaled / 10000 + result.tipScaled / 10000
          = result.totalScaled / 10000
        ↔ result.subtotalScaled + result.taxScaled + result.tipScaled = result.totalScaled := by
    rw [← add_div, ← add_div, div_left_inj' (by norm_num)]
    norm_cast
  rw [toDict, answered, subtotalText, taxText, tipText, totalText]
  refine ⟨_, rfl, ⟨rfl, rfl, rfl, sameItems, rfl, rfl, rfl, rfl, rfl,
    ⟨subtotalShows, taxShows, tipShows, totalShows, itemsShow, ?_⟩⟩⟩
  dsimp only
  rw [validated, subtotalShows.value, taxShows.value, tipShows.value, totalShows.value, sum,
    positive]

/-- The results of the processor for receipts of realistic length are numbers of cents that doubles
can tell apart.
-/
theorem processText_small {tables : CharTables} {today : CalendarDate} {text : String}
    (short : (ReceiptOCRProcessor.linesOf text).length < 2 ^ 18)
    : (ReceiptOCRProcessor.processText tables today text).amounts.InCents (2 ^ 38 * 100) := by
  have cents := ReceiptOCRProcessor.processText_inCents tables today text
  have wider : 10 ^ 8 * ((ReceiptOCRProcessor.linesOf text).length + 3) ≤ 2 ^ 38 * 100 := by omega
  exact ⟨cents.subtotal.mono wider, cents.tax.mono wider, cents.tip.mono wider,
    cents.total.mono wider, fun item member => (cents.items item member).mono wider⟩

theorem processText_validated (tables : CharTables) (today : CalendarDate) (text : String)
    : let result := ReceiptOCRProcessor.processText tables today text
      result.mathValidated
      ↔ result.subtotalScaled + result.taxScaled + result.tipScaled = result.totalScaled
        ∧ 0 < result.totalScaled := by
  unfold ReceiptOCRProcessor.processText
  dsimp only
  split
  · simp
  · exact decide_eq_true_iff

namespace ReceiptRouter

variable {router : ReceiptRouter} {tables : CharTables} {today : CalendarDate}
variable {file : Option Bytes} {rawTextOverride : Option String}

theorem textOf_error {error : EndpointError ReceiptError}
    (failed : router.textOf file rawTextOverride = .error error)
    : ∃ status ∈ [400, 422, 502, 504], ∃ detail, error = .httpException status detail := by
  unfold textOf at failed
  split at failed
  · cases failed
  rcases bind_error failed with missing | ⟨contentBytes, _, failed⟩
  · cases file with
    | none => exact ⟨400, by decide, _, (Except.error.inj missing).symm⟩
    | some contentBytes => cases missing
  rcases bind_error failed with empty | ⟨_, _, failed⟩
  · exact ⟨400, by decide, _, raiseIf_error empty⟩
  rcases bind_error failed with unreadable | ⟨normalizedBytes, _, failed⟩
  · cases preprocessed : router.preprocessImageBytes contentBytes with
    | error message =>
        rw [preprocessed] at unreadable
        exact ⟨422, by decide, message, (Except.error.inj unreadable).symm⟩
    | ok normalizedBytes =>
        rw [preprocessed] at unreadable
        cases unreadable
  · unfold visionText at failed
    split at failed
    · cases failed
    · split at failed
      · cases failed
      · exact ⟨504, by decide, _, (Except.error.inj failed).symm⟩
      · exact ⟨502, by decide, _, (Except.error.inj failed).symm⟩

/-- A text of realistic length has an exact answer. -/
theorem extractReceipt_answer {text : String}
    (read : router.textOf file rawTextOverride = .ok text)
    (short : (ReceiptOCRProcessor.linesOf text).length < 2 ^ 18)
    : ∃ response,
        router.extractReceipt tables today file rawTextOverride = .ok response
        ∧ AnswerFor (ReceiptOCRProcessor.processText tables today text) response := by
  obtain ⟨response, answered, exact⟩ :=
    toDict_exact (processText_small short) (processText_validated tables today text)
  refine ⟨response, ?_, exact⟩
  rw [extractReceipt, read]
  change (toDict _).mapError _ = _
  rw [answered]
  rfl

/-- Whatever is uploaded and however the vision service ends, as long as receipts have fewer than
2^18 lines: an answer shows exactly the amounts that the processor has read and is validated exactly
if they add up as they are shown, and everything else is one of the four documented errors.
-/
theorem extract_receipt_exact (tables : CharTables) (today : CalendarDate)
    (short
      : ∀ text,
          router.textOf file rawTextOverride = .ok text
          → (ReceiptOCRProcessor.linesOf text).length < 2 ^ 18)
    : (∀ response,
        router.extractReceipt tables today file rawTextOverride = .ok response
        → ∃ text,
            router.textOf file rawTextOverride = .ok text
            ∧ AnswerFor (ReceiptOCRProcessor.processText tables today text) response)
      ∧ ∀ error,
          router.extractReceipt tables today file rawTextOverride = .error error
          → ∃ status ∈ [400, 422, 502, 504], ∃ detail, error = .httpException status detail := by
  refine ⟨fun response ended => ?_, fun error ended => ?_⟩
  · obtain ⟨text, read, _⟩ := bind_ok ended
    obtain ⟨answer, answered, exact⟩ := extractReceipt_answer read (short text read)
    obtain rfl := Except.ok.inj (answered.symm.trans ended)
    exact ⟨text, read, exact⟩
  · rcases bind_error ended with failed | ⟨text, read, _⟩
    · exact textOf_error failed
    · obtain ⟨answer, answered, _⟩ := extractReceipt_answer read (short text read)
      rw [answered] at ended
      cases ended

end ReceiptRouter

section Sample

/-- A router without a vision adapter, which passes images on. -/
def plainRouter : ReceiptRouter := ⟨.ok, none, "10.0"⟩

def scanDay : CalendarDate := ⟨2026, 8, 21, by decide, by decide, by decide⟩

theorem sampleText_short
    (text : String) (read : plainRouter.textOf (some [0]) none = .ok text)
    : (ReceiptOCRProcessor.linesOf text).length < 2 ^ 18 := by
  obtain rfl : sampleText = text := Except.ok.inj read
  decide +kernel

theorem extract_receipt_exact_sample
    : (∀ response,
        plainRouter.extractReceipt .ascii scanDay (some [0]) none = .ok response
        → ∃ text,
            plainRouter.textOf (some [0]) none = .ok text
            ∧ AnswerFor (ReceiptOCRProcessor.processText .ascii scanDay text) response)
      ∧ ∀ error,
          plainRouter.extractReceipt .ascii scanDay (some [0]) none = .error error
          → ∃ status ∈ [400, 422, 502, 504], ∃ detail, error = .httpException status detail :=
  ReceiptRouter.extract_receipt_exact .ascii scanDay sampleText_short

end Sample

end PettyFlow.Api
