import PettyFlow.Foundation.FloatErrors
import PettyFlow.Frontend.Drafts

/-! The amount field of the expense form: the tier that is shown while it is typed, and the amount
that is sent.
-/

namespace PettyFlow.Frontend

open Foundation
open Workflow

/-- The number of an amount field. Its text is empty, or spells a number. -/
def parseFloat (value : String) : FloatValue :=
  if value = "" then .nan else .ofText value

/-- What the banner below the amount field shows. -/
inductive TierPreview where
  | noAmount
  | autoApprove
  | lineManager
  | financeDirector
deriving DecidableEq

namespace TierPreview

def className : TierPreview → String
  | noAmount | autoApprove => "tier-preview-banner tier-auto"
  | lineManager => "tier-preview-banner tier-manager"
  | financeDirector => "tier-preview-banner tier-cfo"

def label : TierPreview → String
  | noAmount => "Tier 1: Auto-Approve"
  | autoApprove => "🟢 Tier 1: Auto-Approve"
  | lineManager => "🟡 Tier 2: Line Manager Approval"
  | financeDirector => "🔴 Tier 3: CFO / Finance Director Approval"

def note : TierPreview → String
  | noAmount => "Enter an amount above $0.00"
  | autoApprove => "Instant auto-approval (< $50.00)"
  | lineManager => "Requires Line Manager sign-off ($50 – $499.99)"
  | financeDirector => "High-value policy requires Finance Director sign-off (>= $500)"

/-- The tier of the policy that the banner stands for. -/
def tier : TierPreview → Option ApprovalTier
  | noAmount => none
  | autoApprove => some .autoApprove
  | lineManager => some .manager
  | financeDirector => some .financeDirector

end TierPreview

/-- A number that the form takes for an amount. -/
def isPositive : FloatValue → Bool
  | .nan => false
  | num => !num.le (.finite 0)

def onExpenseAmountChanged (value : String) : TierPreview :=
  let num := parseFloat value
  if isPositive num = false then .noAmount
  else if num.ltInt 50 then .autoApprove
  else if num.ltInt 500 then .lineManager
  else .financeDirector

/-- The nearest integer, the greater one where two are equally near. -/
def mathRound (value : ℚ) : Int := ⌊value + 1 / 2⌋

/-- A blank of a browser's texts. -/
def isTrimmed (c : Char) : Bool :=
  (0x09 ≤ c.toNat && c.toNat ≤ 0x0D) || (0x2000 ≤ c.toNat && c.toNat ≤ 0x200A)
    || [0x20, 0xA0, 0x1680, 0x2028, 0x2029, 0x202F, 0x205F, 0x3000, 0xFEFF].contains c.toNat

def trim (text : String) : String :=
  String.ofList ((text.toList.dropWhile isTrimmed).reverse.dropWhile isTrimmed).reverse

/-- The fields of the form, and what the app knows of its user. -/
structure ExpenseFields where
  tenantId : String
  custodianId : String
  expenseAmount : String
  expenseCurrency : String
  expenseDesc : String
  merchant : String
  receiptImageAttached : Bool
deriving DecidableEq

inductive FormError where
  | toast (message : String)
  /-- The product is no finite number, for which the app sends a null. -/
  | noAmount
deriving DecidableEq

/-- What is sent, or saved as a draft, for the fields. -/
def ExpenseFields.payload (fields : ExpenseFields) : Except FormError ExpenseForm := do
  let amountFloat := parseFloat fields.expenseAmount
  raiseIf (isPositive amountFloat = false)
    (.toast "Please enter a valid positive expense amount")
  raiseIf (trim fields.expenseDesc = "") (.toast "Description is required")
  match amountFloat.mul (.finite 10000) with
  | .finite product =>
      return {
        tenantId := fields.tenantId
        custodianId := fields.custodianId
        amountScaled := mathRound product
        currency := fields.expenseCurrency
        description := trim fields.expenseDesc
        merchantName := trim fields.merchant
        receiptImageAttached := fields.receiptImageAttached
      }
  | _ => .error .noAmount

/-! ### Amounts with four decimals -/

/-- A text spells a number of ten-thousandths, which are the units of the service: it has four
decimals at most, or further ones that are zeros.
-/
structure Spells (value : String) (units : Nat) : Prop where
  unsigned : value.toList.head?.all (fun c => c.isDigit || c = '.') = true
  filled : value ≠ ""
  decimal : FloatValue.ofDecimal value.toList = (units : ℚ) / 10000

section Amounts

variable {value : String} {units : Nat}

theorem Spells.parseFloat (spells : Spells value units)
    : parseFloat value = FloatValue.nearest ((units : ℚ) / 10000) := by
  rw [Frontend.parseFloat, if_neg spells.filled, FloatValue.ofText, ← spells.decimal]
  have first := spells.unsigned
  split
  -- A sign or a word would begin with another character
  · rename_i word
    simp [word] at first
  · rename_i word
    simp [word] at first
  · rename_i word
    simp [word] at first
  · rename_i word
    simp [word] at first
  · rfl

/-- The number of a text is off by less than two ten-thousandths of a unit. -/
theorem Spells.near (spells : Spells value units) (small : units < 2 ^ 38 * 10000)
    : ∃ amount,
        Frontend.parseFloat value = .finite amount ∧ |amount - units / 10000| ≤ 1 / 2 ^ 16 := by
  have quotient : |(units : ℚ) / 10000| < 2 ^ 38 := by
    have bound : (units : ℚ) < 2 ^ 38 * 10000 := by exact_mod_cast small
    rw [abs_of_nonneg (by positivity), div_lt_iff₀ (by norm_num)]
    exact bound
  obtain ⟨amount, nearest, error⟩ := FloatValue.nearest_error quotient (by decide)
  refine ⟨amount, spells.parseFloat.trans nearest, error.trans_eq ?_⟩
  norm_num

/-- A whole number is read exactly, and no other number is read as less than it, or not, wrongly. -/
theorem Spells.ltInt_iff (spells : Spells value units) (small : units < 2 ^ 38 * 10000)
    (limit : Nat) (short : limit < 2 ^ 53)
    : (Frontend.parseFloat value).ltInt limit = true ↔ units < limit * 10000 := by
  obtain ⟨amount, read, error⟩ := spells.near small
  obtain ⟨low, high⟩ := abs_le.mp error
  rcases lt_trichotomy units (limit * 10000) with less | same | more
  · have below : (units : ℚ) + 1 ≤ limit * 10000 := by exact_mod_cast less
    rw [read, FloatValue.ltInt, decide_eq_true_iff]
    refine iff_of_true ?_ less
    push_cast
    linarith
  · have whole : (units : ℚ) / 10000 = ((limit : ℤ) : ℚ) := by
      rw [same]
      push_cast
      field_simp
    rw [spells.parseFloat, whole, FloatValue.nearest_int (by simpa using short), FloatValue.ltInt]
    exact iff_of_false (by simp) (by omega)
  · have above : (limit : ℚ) * 10000 + 1 ≤ units := by exact_mod_cast more
    rw [read, FloatValue.ltInt, decide_eq_true_iff]
    refine iff_of_false ?_ (by omega)
    push_cast
    linarith

theorem Spells.isPositive (spells : Spells value units) (small : units < 2 ^ 38 * 10000)
    (positive : 0 < units)
    : isPositive (Frontend.parseFloat value) = true := by
  obtain ⟨amount, read, error⟩ := spells.near small
  obtain ⟨low, high⟩ := abs_le.mp error
  have some : (1 : ℚ) ≤ units := by exact_mod_cast positive
  have above : ¬ amount ≤ 0 := by
    rw [not_le]
    linarith
  rw [read]
  change (!decide (amount ≤ 0)) = true
  rw [decide_eq_false above, Bool.not_false]

/-- The units that are typed are the units that are sent. -/
theorem Spells.product (spells : Spells value units) (small : units < 2 ^ 38 * 10000)
    : ∃ product,
        (Frontend.parseFloat value).mul (.finite 10000) = .finite product
        ∧ mathRound product = units := by
  obtain ⟨amount, read, error⟩ := spells.near small
  obtain ⟨low, high⟩ := abs_le.mp error
  have bound : (units : ℚ) < 2 ^ 38 * 10000 := by exact_mod_cast small
  have some : (0 : ℚ) ≤ units := by positivity
  have size : |amount * 10000| < 2 ^ 52 := by
    rw [abs_lt]
    constructor <;> linarith
  obtain ⟨product, multiplied, second⟩ := FloatValue.nearest_error size (by decide)
  obtain ⟨secondLow, secondHigh⟩ := abs_le.mp second
  norm_num at secondLow secondHigh
  refine ⟨product, by rw [read, FloatValue.mul, multiplied], ?_⟩
  rw [mathRound, Int.floor_eq_iff]
  push_cast
  constructor <;> linarith

/-- The banner shows the tier that the default policy has for the units. -/
theorem Spells.preview (spells : Spells value units) (small : units < 2 ^ 38 * 10000)
    (positive : 0 < units)
    : onExpenseAmountChanged value
      = if units < 500000 then .autoApprove
        else if units < 5000000 then .lineManager
        else .financeDirector := by
  have fifty := spells.ltInt_iff small 50 (by decide)
  have fiveHundred := spells.ltInt_iff small 500 (by decide)
  unfold onExpenseAmountChanged
  dsimp only
  rw [spells.isPositive small positive, if_neg (by decide)]
  refine if_congr fifty rfl (if_congr fiveHundred rfl rfl)

end Amounts

end PettyFlow.Frontend
