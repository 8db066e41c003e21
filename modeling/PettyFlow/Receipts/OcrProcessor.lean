import PettyFlow.Foundation.Calendar
import PettyFlow.Foundation.Casing
import PettyFlow.Foundation.CharTables
import PettyFlow.Foundation.Doubles
import PettyFlow.Foundation.Patterns

/-! The processor of receipts: what it reads out of the text of a scan, line by line. -/

namespace PettyFlow.Receipts

open Foundation

structure ReceiptLineItem where
  description : String
  amountScaled : Int
deriving DecidableEq

/-- What is read out of a receipt, apart from the time that it took. -/
structure ReceiptExtractionResult where
  merchantName : String
  taxId : Option String
  transactionDate : String
  lineItems : List ReceiptLineItem
  subtotalScaled : Int
  taxScaled : Int
  tipScaled : Int
  totalScaled : Int
  mathValidated : Bool
  confidenceScore : ℚ
deriving DecidableEq

/-- A keyword occurs in a text. -/
def occursIn (keyword text : String) : Bool := decide (keyword.toList <:+: text.toList)

namespace ReceiptOCRProcessor

/-! ### Patterns -/

/-- A letter or its small form, with the letters that Unicode folds to it. -/
def anyCase (capital : Char) (c : Char) : Bool :=
  c.toUpper = capital
    || (capital = 'S' && c.toNat = 0x17F)
    || (capital = 'I' && (c.toNat = 0x130 || c.toNat = 0x131))
    || (capital = 'K' && c.toNat = 0x212A)

/-- A word in either case. -/
def folded (word : String) : Pattern :=
  .sequence (word.toList.map (fun capital => .one (anyCase capital)))

def blanks : Pattern := .run isSpace 0 none

/-- The characters of a tax number, without regard to case. -/
def isTaxIdChar (c : Char) : Bool :=
  c = '-' || c.isDigit || (List.range 26).any (fun i => anyCase (Char.ofNat (0x41 + i)) c)

section Patterns

variable (tables : CharTables)

def taxIdPatterns : List Pattern :=
  [
    .sequence
      [
        .either (.sequence [folded "TAX", blanks, folded "ID"])
          (.either
            (.sequence [folded "VAT", blanks, .maybe (.either (folded "NO") (folded "ID"))])
            (.either (folded "GSTIN")
              (.either (folded "EIN") (.sequence [folded "REG", blanks, folded "NO"])))),
        blanks,
        .maybe (.one (fun c => c = ':' || c = '#')),
        blanks,
        .group (.run isTaxIdChar 5 (some 18))
      ],
    .sequence
      [
        .edge tables.isWord,
        .group
          (.sequence
            [.run Char.isDigit 2 (some 2), .one (· = '-'), .run Char.isDigit 7 (some 7)]),
        .edge tables.isWord
      ]
  ]

def isDateSeparator (c : Char) : Bool := c = '-' || c = '/'

/-- A number of digits. -/
def digits (count : Nat) : Pattern := .run tables.isDecimal count (some count)

/-- Three parts with separators between them. -/
def separatedParts (first second third : Pattern) : Pattern :=
  .sequence [first, .one isDateSeparator, second, .one isDateSeparator, third]

/-- Three parts of a date, and no word around them. -/
def datePattern (first second third : Pattern) : Pattern :=
  .sequence
    [
      .edge tables.isWord,
      .group (separatedParts first second third),
      .edge tables.isWord
    ]

def datePatterns : List Pattern :=
  [
    datePattern tables (digits tables 4) (digits tables 2) (digits tables 2),
    datePattern tables (digits tables 2) (digits tables 2) (digits tables 4),
    datePattern tables (digits tables 2) (.run isAsciiAlpha 3 (some 3)) (digits tables 4)
  ]

def amountDigits : Pattern :=
  .sequence [.run tables.isDecimal 1 (some 6), .one (· = '.'), digits tables 2]

def amountPattern : Pattern :=
  .sequence
    [
      .maybe (.one (· = '$')),
      blanks,
      .group (amountDigits tables),
      .edge tables.isWord
    ]

end Patterns

/-! ### Reading -/

section Reading

variable (tables : CharTables)

/-- The text of the only group of a match. -/
def groupOf (found : Place × Match) : List Char := found.2.2.headD []

/-- The value of digits with a point between them, the one spelling that the pattern lets
through.
-/
def pointed (text : List Char) : Double :=
  let whole := text.takeWhile (· ≠ '.')
  let fraction := text.drop (whole.length + 1)
  .nearest (tables.number (whole ++ fraction)) (10 ^ fraction.length)

def parseScaledAmount (amount : List Char) : Int :=
  let clean := amount.filter (fun c => c ≠ '$' ∧ c ≠ ',')
  ((pointed tables clean).times 10000).rounded

/-- The first amount in a line, and what stands before it. -/
def amountIn (line : String) : Option (String × Int) :=
  ((amountPattern tables).search line.toList).map (fun found =>
    (String.ofList found.1.before.reverse, parseScaledAmount tables (groupOf found)))

/-- The lines of a text that are not blank, without the blanks around them. -/
def linesOf (text : String) : List String :=
  ((text.toList.splitOn '\n').map (fun line => strip (String.ofList line))).filter (· ≠ "")

/-- One of the first three lines, if it does not look like a heading, or else the first. -/
def merchantName (lines : List String) : String :=
  ((lines.take 3).find? (fun line =>
    ["TAX", "WELCOME", "RECEIPT", "DATE", "TEL"].all (fun word =>
      !occursIn word (upper line)))).getD
      (lines.headD "")

def taxIdIn (line : String) : Option String :=
  (taxIdPatterns tables).findSome? (fun pattern =>
    (pattern.search line.toList).map (fun found => String.ofList (groupOf found)))

def taxId (lines : List String) : Option String :=
  lines.findSome? (fun line => (taxIdIn tables line).filter (· ≠ ""))

/-- The text that the first of the patterns to match finds in a line. -/
def dateIn (line : String) : Option (List Char) :=
  (datePatterns tables).findSome? (fun pattern => (pattern.search line.toList).map groupOf)

/-- What a date is taken down as, unless the one before is kept. Where a part is missing or is no
number, the text is taken as it is.
-/
def normaliseDate (raw : List Char) : Option String :=
  if '-' ∈ raw ∧ ((raw.splitOn '-').headD []).length = 4 then
    some (String.ofList raw)
  else if '/' ∈ raw then
    match raw.splitOn '/' with
    | first :: second :: third :: _ =>
        if third.length = 4 then
          if first.all tables.isDecimal ∧ second.all tables.isDecimal then
            some
              (String.ofList third ++ "-" ++ zeroPadded 2 (tables.number first) ++ "-"
                ++ zeroPadded 2 (tables.number second))
          else
            some (String.ofList raw)
        else
          none
    | _ => some (String.ofList raw)
  else
    some (String.ofList raw)

/-- The date of the first line that gives another one than today. -/
def transactionDate (today : String) : List String → String
  | [] => today
  | line :: rest =>
      match (dateIn tables line).bind (normaliseDate tables) with
      | some date => if date ≠ today then date else transactionDate today rest
      | none => transactionDate today rest

end Reading

/-! ### Amounts -/

/-- The amounts and items that lines have given so far. -/
structure Amounts where
  subtotalScaled : Int
  taxScaled : Int
  tipScaled : Int
  totalScaled : Int
  lineItems : List ReceiptLineItem
deriving DecidableEq

def Amounts.zero : Amounts := ⟨0, 0, 0, 0, []⟩

section Lines

variable (tables : CharTables)

/-- The item in a line without keywords. -/
def itemIn (line : String) : Option ReceiptLineItem :=
  (amountIn tables line).bind (fun (before, amount) =>
    let description := strip before
    if 1 < description.length
        ∧ ["CASH", "CHANGE", "CARD", "VISA"].all (fun word =>
            !occursIn word (upper description)) then
      some ⟨description, amount⟩
    else
      none)

def readLine (amounts : Amounts) (line : String) : Amounts :=
  let upperLine := upper line
  let amount := (amountIn tables line).map Prod.snd
  if occursIn "SUBTOTAL" upperLine ∨ occursIn "SUB TOTAL" upperLine then
    { amounts with subtotalScaled := amount.getD amounts.subtotalScaled }
  else if occursIn "TAX" upperLine ∨ occursIn "VAT" upperLine ∨ occursIn "GST" upperLine then
    if ¬ occursIn "TAX ID" upperLine ∧ ¬ occursIn "VAT NO" upperLine then
      { amounts with taxScaled := amount.getD amounts.taxScaled }
    else
      amounts
  else if occursIn "TIP" upperLine ∨ occursIn "GRATUITY" upperLine then
    { amounts with tipScaled := amount.getD amounts.tipScaled }
  else if occursIn "TOTAL" upperLine ∨ occursIn "AMOUNT DUE" upperLine
      ∨ occursIn "GRAND TOTAL" upperLine then
    if ¬ occursIn "SUBTOTAL" upperLine ∧ ¬ occursIn "SUB TOTAL" upperLine then
      { amounts with totalScaled := amount.getD amounts.totalScaled }
    else
      amounts
  else
    { amounts with lineItems := amounts.lineItems ++ (itemIn tables line).toList }

/-- The total and the subtotal follow from the items where they are missing. -/
def inferred (amounts : Amounts) : Amounts :=
  let itemsTotal := (amounts.lineItems.map ReceiptLineItem.amountScaled).sum
  {
    amounts with
      totalScaled :=
        if amounts.totalScaled = 0 ∧ amounts.lineItems ≠ [] then
          itemsTotal + amounts.taxScaled + amounts.tipScaled
        else
          amounts.totalScaled
      subtotalScaled :=
        if amounts.subtotalScaled = 0 ∧ amounts.lineItems ≠ [] then
          itemsTotal
        else
          amounts.subtotalScaled
  }

/-- Read a receipt on a day. -/
def processText (today : CalendarDate) (text : String) : ReceiptExtractionResult :=
  let lines := linesOf text
  let nowStr := today.isoText
  if lines = [] then
    {
      merchantName := "Unknown Merchant"
      taxId := none
      transactionDate := nowStr
      lineItems := []
      subtotalScaled := 0
      taxScaled := 0
      tipScaled := 0
      totalScaled := 0
      mathValidated := false
      confidenceScore := 0
    }
  else
    let amounts := inferred (lines.foldl (readLine tables) .zero)
    let calculatedTotal := amounts.subtotalScaled + amounts.taxScaled + amounts.tipScaled
    let mathValidated := calculatedTotal = amounts.totalScaled ∧ 0 < amounts.totalScaled
    {
      merchantName := merchantName lines
      taxId := taxId tables lines
      transactionDate := transactionDate tables nowStr lines
      lineItems := amounts.lineItems
      subtotalScaled := amounts.subtotalScaled
      taxScaled := amounts.taxScaled
      tipScaled := amounts.tipScaled
      totalScaled := amounts.totalScaled
      mathValidated
      confidenceScore := if mathValidated then 98 / 100 else 85 / 100
    }

end Lines

end ReceiptOCRProcessor

end PettyFlow.Receipts
