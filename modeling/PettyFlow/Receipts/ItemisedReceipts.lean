import PettyFlow.Receipts.Totals

/-! Receipts with items, a subtotal, a tax, a tip and a total: which of the items are recorded. -/

namespace PettyFlow.Receipts

open Foundation

namespace ReceiptOCRProcessor

variable {tables : CharTables}

/-! ### What a line adds -/

/-- The items that a line adds to those before it. -/
def addedItems (tables : CharTables) (line : String) : List ReceiptLineItem :=
  (readLine tables .zero line).lineItems

/-- The words that make a line one of the amounts of the receipt as a whole. -/
def headingKeywords : List String :=
  ["SUBTOTAL", "SUB TOTAL", "TAX", "VAT", "GST", "TIP", "GRATUITY", "TOTAL", "AMOUNT DUE",
    "GRAND TOTAL"]

/-- The words of payments, which are not items. -/
def paymentKeywords : List String := ["CASH", "CHANGE", "CARD", "VISA"]

theorem readLine_lineItems (amounts : Amounts) (line : String)
    : (readLine tables amounts line).lineItems = amounts.lineItems ++ addedItems tables line := by
  unfold addedItems readLine
  dsimp only
  split_ifs <;> simp [Amounts.zero]

theorem foldl_lineItems (lines : List String) (amounts : Amounts)
    : (lines.foldl (readLine tables) amounts).lineItems
      = amounts.lineItems ++ lines.flatMap (addedItems tables) := by
  induction lines generalizing amounts with
  | nil => exact (List.append_nil _).symm
  | cons line lines ih =>
      rw [List.foldl_cons, ih, readLine_lineItems, List.flatMap_cons, List.append_assoc]

/-- A line without a heading adds the item in it; one with a heading adds nothing. -/
theorem addedItems_eq (line : String)
    : addedItems tables line
      = if headingKeywords.any (fun keyword => occursIn keyword (upper line)) then
          []
        else
          (itemIn tables line).toList := by
  have groups
      : headingKeywords.any (fun keyword => occursIn keyword (upper line)) = true
        ↔ (occursIn "SUBTOTAL" (upper line) ∨ occursIn "SUB TOTAL" (upper line))
          ∨ (occursIn "TAX" (upper line) ∨ occursIn "VAT" (upper line)
            ∨ occursIn "GST" (upper line))
          ∨ (occursIn "TIP" (upper line) ∨ occursIn "GRATUITY" (upper line))
          ∨ occursIn "TOTAL" (upper line) ∨ occursIn "AMOUNT DUE" (upper line)
          ∨ occursIn "GRAND TOTAL" (upper line) := by
    simp [headingKeywords, or_assoc]
  rw [if_congr groups rfl rfl, addedItems, readLine]
  by_cases subtotal : occursIn "SUBTOTAL" (upper line) ∨ occursIn "SUB TOTAL" (upper line)
  · rw [if_pos subtotal, if_pos (Or.inl subtotal)]
    rfl
  · rw [if_neg subtotal]
    split
    · rename_i tax
      rw [if_pos (Or.inr (Or.inl tax))]
      split <;> rfl
    · rename_i noTax
      split
      · rename_i tip
        rw [if_pos (Or.inr (Or.inr (Or.inl tip)))]
        rfl
      · rename_i noTip
        split
        · rename_i total
          rw [if_pos (Or.inr (Or.inr (Or.inr total)))]
          split <;> rfl
        · rename_i noTotal
          rw [if_neg (not_or.mpr
            ⟨subtotal, not_or.mpr ⟨noTax, not_or.mpr ⟨noTip, noTotal⟩⟩⟩)]
          rfl

/-- A description that can be recorded: without blanks around it, longer than one character, and
without any of the keywords in it.
-/
structure Recordable (description : String) : Prop where
  trimmed : strip description = description
  long : 1 < description.length
  noKeyword
    : ∀ keyword ∈ headingKeywords ++ paymentKeywords,
        occursIn keyword (upper description) = false

theorem occursIn_upper_of_infix {keyword part whole : String}
    (inside : part.toList <:+: whole.toList) (occurs : occursIn keyword (upper part) = true)
    : occursIn keyword (upper whole) = true := by
  have deeper : (upper part).toList <:+: (upper whole).toList := by
    obtain ⟨front, back, split⟩ := inside
    rw [upper, upper, String.toList_ofList, String.toList_ofList, ← split, List.flatMap_append,
      List.flatMap_append]
    exact List.infix_append _ _ _
  exact decide_eq_true ((of_decide_eq_true occurs).trans deeper)

/-- What stands before an amount is the beginning of the line. -/
theorem amountIn_before {line before : String} {amount : Int}
    (found : amountIn tables line = some (before, amount))
    : ∃ rest, line.toList = before.toList ++ rest := by
  obtain ⟨⟨start, matched⟩, searched, same⟩ := Option.map_eq_some_iff.mp found
  obtain ⟨front, split, behind, _⟩ := Pattern.matchAt_of_searchFrom searched
  obtain ⟨rfl, _⟩ := Prod.mk.inj same
  refine ⟨start.rest, ?_⟩
  rw [String.toList_ofList, behind, List.append_nil, List.reverse_reverse]
  exact split

/-- Whatever line an item is from, its description can be recorded. -/
theorem recordable_of_added {line : String} {item : ReceiptLineItem}
    (added : item ∈ addedItems tables line)
    : Recordable item.description := by
  rw [addedItems_eq] at added
  split at added
  · cases added
  · rename_i noHeading
    obtain ⟨⟨before, amount⟩, found, made⟩ :=
      Option.bind_eq_some_iff.mp (Option.mem_toList.mp added)
    obtain ⟨rest, split⟩ := amountIn_before found
    dsimp only at made
    split at made
    · rename_i accepted
      cases made
      obtain ⟨front, back, whole, _⟩ := strip_split before
      have inside : (strip before).toList <:+: line.toList :=
        ⟨front, back ++ rest, by rw [split, whole]; simp⟩
      refine ⟨strip_strip before, accepted.1, fun keyword member => ?_⟩
      rcases List.mem_append.mp member with heading | payment
      · by_contra occurs
        exact noHeading (List.any_eq_true.mpr
          ⟨keyword, heading, occursIn_upper_of_infix inside (eq_true_of_ne_false occurs)⟩)
      · have unlike := List.all_eq_true.mp accepted.2 keyword payment
        simpa using unlike
    · cases made

/-- A line without headings that holds an amount behind an acceptable description. -/
def ReadsAsItem (tables : CharTables) (line : String) : Prop :=
  (∀ keyword ∈ headingKeywords, occursIn keyword (upper line) = false)
  ∧ ∃ before amount,
      amountIn tables line = some (before, amount)
      ∧ 1 < (strip before).length
      ∧ ∀ keyword ∈ paymentKeywords, occursIn keyword (upper (strip before)) = false

theorem addedItems_eq_nil {line : String}
    : addedItems tables line = [] ↔ ¬ ReadsAsItem tables line := by
  rw [addedItems_eq]
  split
  · rename_i heading
    obtain ⟨keyword, member, occurs⟩ := List.any_eq_true.mp heading
    refine iff_of_true rfl (fun reads => ?_)
    rw [reads.1 keyword member] at occurs
    cases occurs
  · rename_i noHeading
    have free (keyword : String) (member : keyword ∈ headingKeywords)
        : occursIn keyword (upper line) = false :=
      eq_false_of_ne_true (fun occurs => noHeading (List.any_eq_true.mpr ⟨keyword, member, occurs⟩))
    rw [Option.toList_eq_nil_iff, itemIn]
    cases found : amountIn tables line with
    | none =>
        exact iff_of_true rfl
          (fun ⟨_, before, amount, same, _⟩ => by rw [found] at same; cases same)
    | some entry =>
        obtain ⟨before, amount⟩ := entry
        rw [Option.bind_some]
        dsimp only
        split
        · rename_i accepted
          refine iff_of_false (by simp) (not_not.mpr ⟨free, before, amount, found, accepted.1, ?_⟩)
          intro keyword member
          simpa using List.all_eq_true.mp accepted.2 keyword member
        · rename_i rejected
          refine iff_of_true rfl (fun ⟨_, before', amount', same, long, noPayment⟩ => rejected ?_)
          rw [found] at same
          cases same
          refine ⟨long, List.all_eq_true.mpr (fun keyword member => ?_)⟩
          rw [noPayment keyword member]
          rfl

end ReceiptOCRProcessor

/-! ### Rendered receipts -/

/-- An item as it is rendered. Its description has no digit, no point and no line feed, as no text
of letters and blanks has; its amount has at most six digits before the point.
-/
structure RenderedItem (tables : CharTables) where
  description : String
  cents : Nat
  worded : ∀ c ∈ description.toList, c ≠ '\n' ∧ c ≠ '.' ∧ tables.isDecimal c = false
  bounds : 1 ≤ cents ∧ cents < 10 ^ 8

/-- An amount with a currency sign and without commas. -/
def inDollars : AmountStyle := ⟨true, false⟩

variable {tables : CharTables}

def RenderedItem.line (item : RenderedItem tables) : String :=
  renderedLine item.description inDollars item.cents

def RenderedItem.lineItem (item : RenderedItem tables) : ReceiptLineItem :=
  ⟨item.description, 100 * item.cents⟩

/-- A positive number of cents below a million in the whole currency. -/
structure RenderedCents where
  cents : Nat
  bounds : 1 ≤ cents ∧ cents < 10 ^ 8

/-- A receipt with all its parts. -/
structure RenderedReceipt (tables : CharTables) where
  merchant : String
  items : List (RenderedItem tables)
  subtotal : RenderedCents
  tax : RenderedCents
  tip : RenderedCents
  total : RenderedCents
  oneLine : '\n' ∉ merchant.toList

def RenderedReceipt.lines (receipt : RenderedReceipt tables) : List String :=
  receipt.merchant :: receipt.items.map RenderedItem.line
    ++ [
      renderedLine "Subtotal" inDollars receipt.subtotal.cents,
      renderedLine "Tax" inDollars receipt.tax.cents,
      renderedLine "Tip" inDollars receipt.tip.cents,
      renderedLine "Total" inDollars receipt.total.cents
    ]

namespace ReceiptOCRProcessor

theorem amountIn_inDollars {heading : String} {cents : Nat} (noPoint : '.' ∉ heading.toList)
    (bounded : cents < 10 ^ 8)
    : (amountIn tables (renderedLine heading inDollars cents)).map Prod.snd
      = some (100 * (cents : Int)) := by
  rw [amountIn_renderedLine tables inDollars cents noPoint,
    Nat.mod_eq_of_lt (show cents < readableCents inDollars from bounded)]

/-- A description and the blank behind it lead to no amount before the currency sign. -/
theorem no_amount_before_sign {text run fraction : List Char} (filled : text ≠ [])
    (noPoint : '.' ∉ text) (runDecimal : ∀ c ∈ run, tables.isDecimal c = true)
    (two : fraction.length = 2)
    : ¬ HasAmount tables (text ++ '$' :: (run ++ '.' :: fraction)) := by
  intro ⟨sign, blank, whole, fraction', after, split, lead, amount⟩
  rw [← List.singleton_append, ← List.append_assoc] at split
  have ends : ∀ c ∈ (text ++ ['$']).getLast?, tables.isDecimal c = false := by
    rw [List.getLast?_concat]
    intro c same
    cases same
    exact tables.isDecimal_ascii (by decide)
  obtain ⟨leads, _⟩ :=
    amount_eq_run (by simpa using noPoint) ends runDecimal two split lead amount
  have signInBlank : '$' ∈ blank := by
    rcases lead.1 with rfl | rfl
    · rw [List.nil_append] at leads
      rw [← leads]
      simp
    · cases text with
      | nil => exact absurd rfl filled
      | cons c text =>
          obtain ⟨_, tails⟩ := List.cons.inj (show c :: (text ++ ['$']) = '$' :: blank from leads)
          rw [← tails]
          simp
  exact absurd (lead.2 '$' signInBlank) (by decide)

/-- The line of an item is the description, a blank and the amount. -/
theorem toList_line (item : RenderedItem tables)
    : item.line.toList
      = (item.description.toList ++ [' ']) ++ renderedAmount inDollars item.cents := by
  rw [RenderedItem.line, renderedLine, String.toList_ofList, List.append_assoc]
  rfl

theorem noPoint_description (item : RenderedItem tables)
    : '.' ∉ item.description.toList ++ [' '] := by
  intro point
  rcases List.mem_append.mp point with inDescription | blank
  · exact (item.worded '.' inDescription).2.1 rfl
  · exact absurd (List.mem_singleton.mp blank) (by decide)

/-- The first amount in the line of an item begins at its currency sign. -/
theorem search_item (item : RenderedItem tables)
    : ∃ found,
        (amountPattern tables).search item.line.toList
        = some
            (⟨(item.description.toList ++ [' ']).reverse ++ [],
              renderedAmount inDollars item.cents⟩,
              found) := by
  have runDecimal (c : Char) (member : c ∈ Nat.toDigits 10 (item.cents / 100))
      : tables.isDecimal c = true :=
    tables.isDecimal_of_isDigit (Nat.isDigit_of_mem_toDigits (by decide) (by decide) member)
  have fractionDecimal (c : Char) (member : c ∈ lastDigits 2 item.cents)
      : tables.isDecimal c = true :=
    tables.isDecimal_of_isDigit (isDigit_of_mem_lastDigits member)
  have two := length_lastDigits 2 item.cents
  have short : (Nat.toDigits 10 (item.cents / 100)).length ≤ 6 := by
    rw [Nat.length_toDigits_le_iff (by decide) (by decide)]
    have := item.bounds.2
    omega
  obtain ⟨found, matched⟩ :=
    @match_lead tables _ _ ((item.description.toList ++ [' ']).reverse ++ []) ['$'] []
      ⟨Or.inr rfl, by simp⟩ runDecimal Nat.toDigits_ne_nil short fractionDecimal two
  refine ⟨found, ?_⟩
  rw [Pattern.search, toList_line, Pattern.searchFrom_append]
  · exact Pattern.searchFrom_here matched
  · intro first c later split
    refine matchAt_eq_none_iff.mpr ?_
    refine no_amount_before_sign (List.cons_ne_nil c later) (fun point => ?_) runDecimal two
    exact noPoint_description item (split ▸ List.mem_append_right _ point)

/-- The amount of an item begins at its currency sign. -/
theorem amountIn_item (item : RenderedItem tables)
    : amountIn tables item.line
      = some (String.ofList (item.description.toList ++ [' ']), 100 * (item.cents : Int)) := by
  obtain ⟨found, searched⟩ := search_item item
  have noPoint : '.' ∉ item.description.toList := fun member => (item.worded '.' member).2.1 rfl
  have value
      : (amountIn tables (renderedLine item.description inDollars item.cents)).map Prod.snd
        = some (100 * (item.cents : Int)) :=
    amountIn_inDollars noPoint item.bounds.2
  rw [show renderedLine item.description inDollars item.cents = item.line from rfl, amountIn,
    searched] at value
  rw [amountIn, searched, Option.map_some]
  simp only [Option.map_some, Option.some.injEq] at value
  rw [value, List.append_nil, List.reverse_reverse]

/-- No keyword of a heading occurs in the line of an item if none occurs in its description. -/
theorem no_heading_item {item : RenderedItem tables} (recordable : Recordable item.description)
    {keyword : String} (member : keyword ∈ headingKeywords)
    : ¬ occursIn keyword (upper item.line) = true := by
  have spelling
      : headingKeywords.all (fun keyword =>
          keyword.toList.all (fun c => !isPlain c) && keyword.toList.getLast? != some ' ')
        = true := by
    decide
  obtain ⟨letters, ending⟩ :=
    Bool.and_eq_true_iff.mp (List.all_eq_true.mp spelling keyword member)
  rw [occursIn_rendered (toList_line item) (fun c member => isPlain_of_mem_renderedAmount member)
    keyword letters]
  intro occurs
  have front
      : (upper (String.ofList (item.description.toList ++ [' ']))).toList
        = (upper item.description).toList ++ [' '] := by
    rw [upper, upper, String.toList_ofList, String.toList_ofList, String.toList_ofList,
      List.flatMap_append]
    rfl
  have inside := of_decide_eq_true occurs
  rw [front] at inside
  have found : occursIn keyword (upper item.description) = true :=
    decide_eq_true (infix_of_infix_concat (by simpa using ending) inside)
  rw [recordable.noKeyword keyword (List.mem_append_left _ member)] at found
  cases found

/-- A description that can be recorded is recorded with its amount. -/
theorem addedItems_item {item : RenderedItem tables} (recordable : Recordable item.description)
    : addedItems tables item.line = [item.lineItem] := by
  have trimmed : strip (String.ofList (item.description.toList ++ [' '])) = item.description := by
    rw [strip_append_blanks _ (List.forall_mem_singleton.mpr rfl), recordable.trimmed]
  have accepted
      : 1 < item.description.length
        ∧ ["CASH", "CHANGE", "CARD", "VISA"].all (fun word =>
            !occursIn word (upper item.description)) = true := by
    refine ⟨recordable.long, List.all_eq_true.mpr (fun word member => ?_)⟩
    rw [recordable.noKeyword word (List.mem_append_right _ member)]
    rfl
  rw [addedItems_eq, if_neg, itemIn, amountIn_item, Option.bind_some]
  · dsimp only
    rw [trimmed, if_pos accepted]
    rfl
  · intro occurs
    obtain ⟨keyword, member, found⟩ := List.any_eq_true.mp occurs
    exact no_heading_item recordable member found

/-! ### What is recovered -/

/-- Everything on a receipt is read as it is rendered. -/
structure Recovered (receipt : RenderedReceipt tables) (result : ReceiptExtractionResult)
    : Prop where
  items : result.lineItems = receipt.items.map RenderedItem.lineItem
  subtotal : result.subtotalScaled = 100 * receipt.subtotal.cents
  tax : result.taxScaled = 100 * receipt.tax.cents
  tip : result.tipScaled = 100 * receipt.tip.cents
  total : result.totalScaled = 100 * receipt.total.cents
  validated
    : result.mathValidated = true
      ↔ receipt.subtotal.cents + receipt.tax.cents + receipt.tip.cents = receipt.total.cents

/-- A line with a heading that begins with a letter is taken as it is, and is not blank. -/
theorem strip_heading {heading : String} {c : Char} (first : heading.toList.head? = some c)
    (letter : isSpace c = false) (cents : Nat)
    : strip (renderedLine heading inDollars cents) = renderedLine heading inDollars cents
      ∧ renderedLine heading inDollars cents ≠ "" := by
  have named : heading ≠ "" := by
    rintro rfl
    cases first
  constructor
  · refine strip_renderedLine (fun d member => ?_) named
    rw [first] at member
    cases member
    exact letter
  · intro blank
    have nothing := congrArg String.toList blank
    rw [renderedLine, String.toList_ofList, String.toList_empty] at nothing
    simp at nothing

/-- The lines of a receipt as the processor takes them. -/
theorem linesOf_receipt (receipt : RenderedReceipt tables)
    : linesOf (receiptText receipt.lines)
      = ((receipt.merchant :: receipt.items.map RenderedItem.line).map strip).filter (· ≠ "")
        ++ [
          renderedLine "Subtotal" inDollars receipt.subtotal.cents,
          renderedLine "Tax" inDollars receipt.tax.cents,
          renderedLine "Tip" inDollars receipt.tip.cents,
          renderedLine "Total" inDollars receipt.total.cents
        ] := by
  have oneLine : ∀ line ∈ receipt.lines, '\n' ∉ line.toList := by
    intro line member
    rcases List.mem_append.mp member with first | last
    · rcases List.mem_cons.mp first with rfl | inItems
      · exact receipt.oneLine
      · obtain ⟨item, _, rfl⟩ := List.mem_map.mp inItems
        exact oneLine_renderedLine (fun feed => (item.worded '\n' feed).1 rfl)
    · simp only [List.mem_cons, List.not_mem_nil, or_false] at last
      rcases last with rfl | rfl | rfl | rfl <;> exact oneLine_renderedLine (by decide)
  have filled : receipt.lines ≠ [] := List.cons_ne_nil _ _
  have tail
      : ([
            renderedLine "Subtotal" inDollars receipt.subtotal.cents,
            renderedLine "Tax" inDollars receipt.tax.cents,
            renderedLine "Tip" inDollars receipt.tip.cents,
            renderedLine "Total" inDollars receipt.total.cents
          ].map strip).filter (· ≠ "")
        = [
            renderedLine "Subtotal" inDollars receipt.subtotal.cents,
            renderedLine "Tax" inDollars receipt.tax.cents,
            renderedLine "Tip" inDollars receipt.tip.cents,
            renderedLine "Total" inDollars receipt.total.cents
          ] := by
    have subtotal := @strip_heading "Subtotal" 'S' rfl rfl receipt.subtotal.cents
    have tax := @strip_heading "Tax" 'T' rfl rfl receipt.tax.cents
    have tip := @strip_heading "Tip" 'T' rfl rfl receipt.tip.cents
    have total := @strip_heading "Total" 'T' rfl rfl receipt.total.cents
    simp only [List.map_cons, List.map_nil, subtotal.1, tax.1, tip.1, total.1]
    simp [subtotal.2, tax.2, tip.2, total.2]
  rw [linesOf_receiptText filled oneLine, RenderedReceipt.lines, List.map_append,
    List.filter_append, tail]

theorem addedItems_empty : addedItems tables "" = [] := by
  have none : amountIn tables "" = none := by
    refine amountIn_eq_none.mpr (fun front rest split has => ?_)
    obtain ⟨sign, blank, whole, fraction, after, nothing, _⟩ := has
    have size := congrArg List.length split
    rw [nothing, String.toList_empty] at size
    simp at size
  rw [addedItems, readLine_of_none none]
  rfl

/-- Blank lines add nothing. -/
theorem flatMap_addedItems (lines : List String)
    : ((lines.map strip).filter (· ≠ "")).flatMap (addedItems tables)
      = lines.flatMap (fun line => addedItems tables (strip line)) := by
  induction lines with
  | nil => simp only [List.map_nil, List.filter_nil, List.flatMap_nil]
  | cons line lines ih =>
      by_cases blank : strip line = ""
      · rw [List.map_cons, List.filter_cons_of_neg (by simpa using blank), ih, List.flatMap_cons,
          blank, addedItems_empty, List.nil_append]
      · rw [List.map_cons, List.filter_cons_of_pos (by simpa using blank), List.flatMap_cons, ih,
          List.flatMap_cons]

/-- The amounts of a receipt as a whole are always read, and the items are those that its first
lines add.
-/
theorem foldl_receipt (receipt : RenderedReceipt tables)
    : (linesOf (receiptText receipt.lines)).foldl (readLine tables) .zero
      = {
          subtotalScaled := 100 * receipt.subtotal.cents
          taxScaled := 100 * receipt.tax.cents
          tipScaled := 100 * receipt.tip.cents
          totalScaled := 100 * receipt.total.cents
          lineItems :=
            addedItems tables (strip receipt.merchant)
              ++ (receipt.items.map RenderedItem.line).flatMap (fun line =>
                addedItems tables (strip line))
        } := by
  have spelled (heading : String) (cents : Nat)
      : (renderedLine heading inDollars cents).toList
        = (heading.toList ++ [' ']) ++ renderedAmount inDollars cents := by
    rw [renderedLine, String.toList_ofList, List.append_assoc]
    rfl
  have plain (cents : Nat) (c : Char) (member : c ∈ renderedAmount inDollars cents)
      : isPlain c = true :=
    isPlain_of_mem_renderedAmount member
  rw [linesOf_receipt, List.foldl_append]
  simp only [List.foldl_cons, List.foldl_nil]
  rw [readLine_total (spelled "Total" _) (plain _) _ rfl,
    readLine_tip (spelled "Tip" _) (plain _) _ rfl, readLine_tax (spelled "Tax" _) (plain _) _ rfl,
    readLine_subtotal (spelled "Subtotal" _) (plain _) _ rfl,
    amountIn_inDollars (by decide) receipt.subtotal.bounds.2,
    amountIn_inDollars (by decide) receipt.tax.bounds.2,
    amountIn_inDollars (by decide) receipt.tip.bounds.2,
    amountIn_inDollars (by decide) receipt.total.bounds.2, foldl_lineItems, flatMap_addedItems,
    List.flatMap_cons]
  simp only [Option.getD_some, Amounts.zero, List.nil_append]

/-- Items with descriptions that can be recorded are all recorded. -/
theorem flatMap_items {items : List (RenderedItem tables)}
    (recordable : ∀ item ∈ items, Recordable item.description)
    : (items.map RenderedItem.line).flatMap (fun line => addedItems tables (strip line))
      = items.map RenderedItem.lineItem := by
  induction items with
  | nil => simp only [List.map_nil, List.flatMap_nil]
  | cons item items ih =>
      have here := recordable item List.mem_cons_self
      have trimmed : strip item.line = item.line := by
        refine strip_renderedLine (fun c first => ?_) ?_
        · rw [← here.trimmed] at first
          exact head_strip first
        · intro empty
          have long := here.long
          rw [empty] at long
          cases long
      rw [List.map_cons, List.map_cons, List.flatMap_cons, trimmed, addedItems_item here,
        ih (fun other member => recordable other (List.mem_cons_of_mem _ member))]
      rfl

/-- The items of a receipt are recorded exactly if nothing else is and all of them can be. -/
theorem items_recorded_iff (receipt : RenderedReceipt tables)
    : addedItems tables (strip receipt.merchant)
          ++ (receipt.items.map RenderedItem.line).flatMap (fun line =>
            addedItems tables (strip line))
        = receipt.items.map RenderedItem.lineItem
      ↔ ¬ ReadsAsItem tables (strip receipt.merchant)
        ∧ ∀ item ∈ receipt.items, Recordable item.description := by
  rw [← addedItems_eq_nil]
  constructor
  · intro recorded
    have recordable (item : RenderedItem tables) (member : item ∈ receipt.items)
        : Recordable item.description := by
      have added : item.lineItem ∈ receipt.items.map RenderedItem.lineItem :=
        List.mem_map.mpr ⟨item, member, rfl⟩
      rw [← recorded] at added
      rcases List.mem_append.mp added with first | later
      · exact recordable_of_added first
      · obtain ⟨line, _, here⟩ := List.mem_flatMap.mp later
        exact recordable_of_added here
    rw [flatMap_items recordable] at recorded
    exact ⟨List.append_left_eq_self.mp recorded, recordable⟩
  · intro ⟨nothing, recordable⟩
    rw [nothing, flatMap_items recordable, List.nil_append]

/-- A rendered receipt is read as it is exactly if its first line is not taken for an item and
the description of each item can be recorded.
-/
theorem recovered_iff (tables : CharTables) (today : CalendarDate)
    (receipt : RenderedReceipt tables)
    : Recovered receipt (processText tables today (receiptText receipt.lines))
      ↔ ¬ ReadsAsItem tables (strip receipt.merchant)
        ∧ ∀ item ∈ receipt.items, Recordable item.description := by
  rw [← items_recorded_iff]
  have filled : linesOf (receiptText receipt.lines) ≠ [] := by
    rw [linesOf_receipt]
    simp
  have subtotalPositive := receipt.subtotal.bounds.1
  have totalPositive := receipt.total.bounds.1
  rw [processText, if_neg filled, foldl_receipt, inferred]
  dsimp only
  rw [if_neg (by omega), if_neg (by omega)]
  constructor
  · intro recovered
    exact recovered.items
  · intro items
    refine ⟨items, rfl, rfl, rfl, rfl, ?_⟩
    rw [decide_eq_true_iff]
    omega

/-- The description of a taxi ride holds the word tax, so that it is not recorded. -/
theorem taxi_lost
    : ∃ receipt : RenderedReceipt .ascii,
        receipt.merchant = "Cafe"
        ∧ receipt.items.map RenderedItem.description = ["Taxi"]
        ∧ ¬ Recovered receipt
            (processText .ascii ⟨2026, 5, 1, by decide, by decide, by decide⟩
              (receiptText receipt.lines)) := by
  have letters
      : "Taxi".toList.all (fun c => c != '\n' && (c != '.' && !CharTables.ascii.isDecimal c))
        = true := by
    decide
  have worded (c : Char) (member : c ∈ "Taxi".toList)
      : c ≠ '\n' ∧ c ≠ '.' ∧ CharTables.ascii.isDecimal c = false := by
    simpa using List.all_eq_true.mp letters c member
  refine ⟨⟨"Cafe", [⟨"Taxi", 500, worded, by decide⟩], ⟨500, by decide⟩, ⟨100, by decide⟩,
    ⟨100, by decide⟩, ⟨700, by decide⟩, by decide⟩, rfl, rfl, fun recovered => ?_⟩
  have nothing
      : (processText .ascii ⟨2026, 5, 1, by decide, by decide, by decide⟩
          (receiptText
            ["Cafe", renderedLine "Taxi" inDollars 500, renderedLine "Subtotal" inDollars 500,
              renderedLine "Tax" inDollars 100, renderedLine "Tip" inDollars 100,
              renderedLine "Total" inDollars 700])).lineItems = [] := by
    decide +kernel
  exact absurd (nothing.symm.trans recovered.items) (by simp)

end ReceiptOCRProcessor

end PettyFlow.Receipts
