import PettyFlow.Receipts.RenderedLines

/-! The total of a receipt with one amount, whatever its size and the way it is written. -/

namespace PettyFlow.Receipts

open Foundation

/-- How an amount is written: with a currency sign or not, and with commas or not. -/
structure AmountStyle where
  dollar : Bool
  separators : Bool

def renderedWhole (separators : Bool) (whole : Nat) : List Char :=
  if separators then separated whole else Nat.toDigits 10 whole

/-- Cents as an amount with two decimals. -/
def renderedAmount (style : AmountStyle) (cents : Nat) : List Char :=
  (if style.dollar then ['$'] else [])
    ++ (renderedWhole style.separators (cents / 100) ++ '.' :: lastDigits 2 cents)

/-- A line with a heading and an amount. -/
def renderedLine (heading : String) (style : AmountStyle) (cents : Nat) : String :=
  String.ofList (heading.toList ++ ' ' :: renderedAmount style cents)

namespace ReceiptOCRProcessor

variable {tables : CharTables}

theorem isPlain_of_mem_renderedAmount {style : AmountStyle} {cents : Nat} {c : Char}
    (member : c ∈ renderedAmount style cents)
    : isPlain c = true := by
  have ofDigit {c : Char} (digit : c.isDigit = true) : isPlain c = true := by
    rw [isPlain, digit, Bool.true_or]
  rcases List.mem_append.mp member with sign | number
  · split at sign
    · rw [List.mem_singleton.mp sign]
      rfl
    · cases sign
  · rcases List.mem_append.mp number with whole | fraction
    · unfold renderedWhole at whole
      split at whole
      · rcases isDigit_of_mem_separated whole with digit | rfl
        · exact ofDigit digit
        · rfl
      · exact ofDigit (Nat.isDigit_of_mem_toDigits (by decide) (by decide) whole)
    · rcases List.mem_cons.mp fraction with rfl | digit
      · rfl
      · exact ofDigit (isDigit_of_mem_lastDigits digit)

/-- The number before the point ends in a run of digits: all of it without commas, and the last
thousand with them.
-/
theorem renderedWhole_split (tables : CharTables) (separators : Bool) (whole : Nat)
    : ∃ front run,
        renderedWhole separators whole = front ++ run
        ∧ (front = [] ∨ ∃ thousands, front = separated thousands ++ [','])
        ∧ (∀ c ∈ run, c.isDigit = true)
        ∧ run ≠ []
        ∧ tables.number (run.drop (run.length - 6))
          = whole % 10 ^ (if separators then 3 else 6) := by
  have unbroken
      : (∀ c ∈ Nat.toDigits 10 whole, c.isDigit = true)
        ∧ Nat.toDigits 10 whole ≠ []
        ∧ tables.number ((Nat.toDigits 10 whole).drop ((Nat.toDigits 10 whole).length - 6))
          = whole % 10 ^ 6 := by
    refine ⟨fun c member => Nat.isDigit_of_mem_toDigits (by decide) (by decide) member, ?_, ?_⟩
    · exact Nat.toDigits_ne_nil
    · rw [tables.number_drop, tables.number_toDigits]
  cases separators with
  | false => exact ⟨[], _, rfl, Or.inl rfl, unbroken⟩
  | true =>
      rw [renderedWhole, if_pos rfl, if_pos rfl, separated]
      split
      · rename_i small
        refine ⟨[], _, rfl, Or.inl rfl, unbroken.1, unbroken.2.1, unbroken.2.2.trans ?_⟩
        rw [Nat.mod_eq_of_lt (by omega), Nat.mod_eq_of_lt (by omega)]
      · refine ⟨separated (whole / 1000) ++ [','], lastDigits 3 whole, ?_, Or.inr ⟨_, rfl⟩,
          fun c member => isDigit_of_mem_lastDigits member, ?_, ?_⟩
        · rw [List.append_assoc]
          rfl
        · exact List.ne_nil_of_length_pos (by rw [length_lastDigits]; decide)
        · rw [length_lastDigits, List.drop_zero, tables.number_lastDigits]

/-- How many cents are read of an amount that is written in a style. -/
def readableCents (style : AmountStyle) : Nat := 10 ^ (if style.separators then 5 else 8)

/-- What stands before the run has no point, and no digit at its end. -/
theorem lead_ends {heading front : List Char} {style : AmountStyle} (noPoint : '.' ∉ heading)
    (frontForm : front = [] ∨ ∃ thousands, front = separated thousands ++ [','])
    : '.' ∉ heading ++ ' ' :: ((if style.dollar then ['$'] else []) ++ front)
      ∧ ∀ c ∈ (heading ++ ' ' :: ((if style.dollar then ['$'] else []) ++ front)).getLast?,
          tables.isDecimal c = false := by
  have sign : '.' ∉ (if style.dollar then ['$'] else []) := by
    cases style.dollar <;> decide
  have unlike {mark : Char} (ascii : mark.toNat < 0x80) (noDigit : mark.isDigit = false)
      : ∀ c ∈ some mark, tables.isDecimal c = false := by
    intro c same
    cases same
    rw [tables.isDecimal_ascii ascii, noDigit]
  rcases frontForm with rfl | ⟨thousands, rfl⟩
  · constructor
    · simp [noPoint, sign]
    · cases style.dollar
      · simpa using @unlike ' ' (by decide) rfl
      · simpa using @unlike '$' (by decide) rfl
  · constructor
    · have clean : '.' ∉ separated thousands := fun member =>
        (isDigit_of_mem_separated member).elim (by decide) (by decide)
      simp [noPoint, sign, clean]
    · have last
          : (heading ++ ' ' :: ((if style.dollar then ['$'] else [])
              ++ (separated thousands ++ [',']))).getLast? = some ',' := by
        rw [← List.append_assoc, ← List.cons_append, ← List.append_assoc]
        exact List.getLast?_concat
      rw [last]
      exact unlike (by decide) rfl

/-- The amount that is read in a line with a heading. -/
theorem amountIn_renderedLine (tables : CharTables) {heading : String} (style : AmountStyle)
    (cents : Nat) (noPoint : '.' ∉ heading.toList)
    : (amountIn tables (renderedLine heading style cents)).map Prod.snd
      = some (100 * ((cents % readableCents style : ℕ) : Int)) := by
  obtain ⟨front, run, split, frontForm, runDigits, filled, value⟩ :=
    renderedWhole_split tables style.separators (cents / 100)
  have runDecimal (c : Char) (member : c ∈ run) : tables.isDecimal c = true :=
    tables.isDecimal_of_isDigit (runDigits c member)
  have fractionDecimal (c : Char) (member : c ∈ lastDigits 2 cents) : tables.isDecimal c = true :=
    tables.isDecimal_of_isDigit (isDigit_of_mem_lastDigits member)
  have two := length_lastDigits 2 cents
  have spelled
      : (renderedLine heading style cents).toList
        = (heading.toList ++ ' ' :: ((if style.dollar then ['$'] else []) ++ front))
          ++ (run ++ '.' :: lastDigits 2 cents) := by
    rw [renderedLine, String.toList_ofList, renderedAmount, split]
    simp only [List.append_assoc, List.cons_append]
  obtain ⟨leadClean, leadEnds⟩ := @lead_ends tables _ front style noPoint frontForm
  rw [amountIn_line leadClean leadEnds runDecimal filled fractionDecimal two spelled,
    parseScaledAmount_eq (fun c member => runDecimal c (List.mem_of_mem_drop member))
      (by rw [List.length_drop]; omega) fractionDecimal two,
    tables.number_append, value, two, tables.number_lastDigits, readableCents]
  congr 3
  cases style.separators
  · simp only [Bool.false_eq_true, if_false]
    omega
  · simp only [if_true]
    omega

/-- The heading and the amount of a line have no blanks around them. -/
theorem strip_renderedLine {heading : String} {style : AmountStyle} {cents : Nat}
    (headed : ∀ c ∈ heading.toList.head?, isSpace c = false) (named : heading ≠ "")
    : strip (renderedLine heading style cents) = renderedLine heading style cents := by
  apply strip_eq_self
  · intro c first
    rw [renderedLine, String.toList_ofList] at first
    cases spelled : heading.toList with
    | nil => exact absurd (String.toList_eq_nil_iff.mp spelled) named
    | cons d rest =>
        rw [spelled] at first headed
        exact headed c first
  · intro c last
    have split
        : (renderedLine heading style cents).toList
          = (heading.toList ++ ' ' :: ((if style.dollar then ['$'] else [])
              ++ (renderedWhole style.separators (cents / 100) ++ '.' :: lastDigits 1 (cents / 10))))
            ++ [Nat.digitChar (cents % 10)] := by
      rw [renderedLine, String.toList_ofList, renderedAmount]
      simp [lastDigits]
    rw [split, List.getLast?_concat, Option.some.injEq] at last
    have digit : c.isDigit = true := by
      rw [← last, Nat.isDigit_digitChar]
      exact decide_eq_true (Nat.mod_lt _ (by decide))
    cases blank : isSpace c with
    | false => rfl
    | true =>
        have decimal := CharTables.ascii.isDecimal_of_isDigit digit
        rw [CharTables.ascii.not_isDecimal_of_isSpace blank] at decimal
        cases decimal

theorem oneLine_renderedLine {heading : String} {style : AmountStyle} {cents : Nat}
    (oneLine : '\n' ∉ heading.toList)
    : '\n' ∉ (renderedLine heading style cents).toList := by
  rw [renderedLine, String.toList_ofList]
  intro member
  rcases List.mem_append.mp member with inHeading | behind
  · exact oneLine inHeading
  · rcases List.mem_cons.mp behind with feed | inAmount
    · exact absurd feed (by decide)
    · exact absurd (isPlain_of_mem_renderedAmount inAmount) (by decide)

section OnlyTotal

variable {before after : List String} {style : AmountStyle} {cents : Nat}

/-- The lines of a receipt around its total. -/
theorem linesOf_around_total (oneLine : ∀ line ∈ before ++ after, '\n' ∉ line.toList)
    : linesOf (receiptText (before ++ renderedLine "Total" style cents :: after))
      = (before.map strip).filter (· ≠ "")
        ++ renderedLine "Total" style cents :: (after.map strip).filter (· ≠ "") := by
  have headed (c : Char) (first : c ∈ "Total".toList.head?) : isSpace c = false := by
    obtain rfl : 'T' = c := Option.some.inj first
    rfl
  rw [linesOf_receiptText (by simp), List.map_append, List.map_cons,
    strip_renderedLine headed (by decide), List.filter_append, List.filter_cons_of_pos]
  · simp [renderedLine, ← String.toList_inj]
  · intro line member
    rcases List.mem_append.mp member with first | second
    · exact oneLine line (List.mem_append_left _ first)
    · rcases List.mem_cons.mp second with rfl | later
      · exact oneLine_renderedLine (by decide)
      · exact oneLine line (List.mem_append_right _ later)

/-- Lines without amounts change nothing when they are stripped. -/
theorem foldl_readLine_stripped (tables : CharTables) {lines : List String}
    (none : ∀ line ∈ lines, amountIn tables line = none) (amounts : Amounts)
    : ((lines.map strip).filter (· ≠ "")).foldl (readLine tables) amounts = amounts := by
  refine foldl_readLine_of_none (fun line stripped => ?_) amounts
  obtain ⟨raw, present, rfl⟩ := List.mem_map.mp (List.mem_of_mem_filter stripped)
  exact amountIn_strip (none raw present)

/-- Of a receipt whose only amount is that of the total, the cents are read that the pattern has
room for.
-/
theorem totalScaled_of_only (tables : CharTables) (today : CalendarDate)
    (oneLine : ∀ line ∈ before ++ after, '\n' ∉ line.toList)
    (only : ∀ line ∈ before ++ after, amountIn tables line = none)
    : (processText tables today
          (receiptText (before ++ renderedLine "Total" style cents :: after))).totalScaled
        = 100 * ((cents % readableCents style : ℕ) : Int) := by
  have spelled
      : (renderedLine "Total" style cents).toList
        = "Total ".toList ++ renderedAmount style cents := by
    rw [renderedLine, String.toList_ofList]
    rfl
  obtain ⟨noneBefore, noneAfter⟩ := List.forall_mem_append.mp only
  rw [processText, linesOf_around_total oneLine, if_neg (by simp), List.foldl_append,
    foldl_readLine_stripped tables noneBefore, List.foldl_cons,
    readLine_total spelled (fun c member => isPlain_of_mem_renderedAmount member) _ rfl,
    foldl_readLine_stripped tables noneAfter,
    amountIn_renderedLine tables style cents (by decide)]
  simp [inferred, Amounts.zero]

end OnlyTotal

/-- A receipt whose only amount is that of the total: what is read is the total itself, or
nothing, exactly if the amount has no more digits than the pattern takes, or only zeros there.
-/
theorem total_exact_or_unset_iff (tables : CharTables) (today : CalendarDate)
    (before after : List String) (style : AmountStyle) (cents : Nat)
    (oneLine : ∀ line ∈ before ++ after, '\n' ∉ line.toList)
    (only : ∀ line ∈ before ++ after, amountIn tables line = none)
    : ((processText tables today
          (receiptText (before ++ renderedLine "Total" style cents :: after))).totalScaled
          = 100 * cents
        ∨ (processText tables today
            (receiptText (before ++ renderedLine "Total" style cents :: after))).totalScaled
          = 0)
      ↔ cents < readableCents style ∨ readableCents style ∣ cents := by
  have positive : 0 < readableCents style := Nat.pow_pos (by decide)
  have remainder := Nat.div_add_mod cents (readableCents style)
  rw [totalScaled_of_only tables today oneLine only, Nat.dvd_iff_mod_eq_zero,
    ← Nat.mod_eq_iff_lt positive.ne']
  omega

theorem total_exact_or_unset_iff_sample
    : ((processText .ascii ⟨2026, 5, 1, by decide, by decide, by decide⟩
          (receiptText (["Cafe"] ++ [renderedLine "Total" ⟨true, false⟩ 1234]))).totalScaled
          = 100 * (1234 : Nat)
        ∨ (processText .ascii ⟨2026, 5, 1, by decide, by decide, by decide⟩
            (receiptText (["Cafe"] ++ [renderedLine "Total" ⟨true, false⟩ 1234]))).totalScaled
          = 0)
      ↔ 1234 < readableCents ⟨true, false⟩ ∨ readableCents ⟨true, false⟩ ∣ 1234 :=
  total_exact_or_unset_iff .ascii ⟨2026, 5, 1, by decide, by decide, by decide⟩ ["Cafe"] []
    ⟨true, false⟩ 1234 (List.forall_mem_singleton.mpr (by decide))
    (List.forall_mem_singleton.mpr (by decide +kernel))

/-- Of 1,234.56 only what stands behind the comma is read. -/
theorem thousands_unread
    : ¬ ((processText .ascii ⟨2026, 5, 1, by decide, by decide, by decide⟩
            (receiptText ["Cafe", renderedLine "Total" ⟨true, true⟩ 123456])).totalScaled
            = 100 * (123456 : Nat)
          ∨ (processText .ascii ⟨2026, 5, 1, by decide, by decide, by decide⟩
              (receiptText ["Cafe", renderedLine "Total" ⟨true, true⟩ 123456])).totalScaled
            = 0) := by
  decide +kernel

end ReceiptOCRProcessor

end PettyFlow.Receipts
