import PettyFlow.Receipts.AmountLines

/-! Every amount that is read from a receipt is a number of cents, and a line adds at most eight
digits of them.
-/

namespace PettyFlow.Receipts

open Foundation

/-- An amount of a number of cents below a bound. -/
def Cents (bound : Nat) (amount : Int) : Prop :=
  ∃ cents : Nat, cents < bound ∧ amount = 100 * cents

section Cents

variable {bound bound' : Nat} {amount amount' : Int}

theorem Cents.mono (cents : Cents bound amount) (wider : bound ≤ bound') : Cents bound' amount := by
  obtain ⟨count, small, same⟩ := cents
  exact ⟨count, small.trans_le wider, same⟩

theorem Cents.zero (positive : 0 < bound) : Cents bound 0 := ⟨0, positive, rfl⟩

theorem Cents.add (first : Cents bound amount) (second : Cents bound' amount')
    : Cents (bound + bound') (amount + amount') := by
  obtain ⟨count, small, rfl⟩ := first
  obtain ⟨count', small', rfl⟩ := second
  exact ⟨count + count', by omega, by push_cast; ring⟩

/-- Amounts add up to cents, by induction over them. -/
theorem Cents.sum {amounts : List Int} (all : ∀ amount ∈ amounts, Cents bound amount)
    : Cents (bound * amounts.length + 1) amounts.sum := by
  induction amounts with
  | nil => exact Cents.zero (by omega)
  | cons amount amounts ih =>
      rw [List.forall_mem_cons] at all
      rw [List.sum_cons, List.length_cons]
      refine (all.1.add (ih all.2)).mono (le_of_eq ?_)
      ring

end Cents

/-- The amounts that a receipt has given are numbers of cents. -/
structure ReceiptOCRProcessor.Amounts.InCents (bound : Nat) (amounts : ReceiptOCRProcessor.Amounts)
    : Prop where
  subtotal : Cents bound amounts.subtotalScaled
  tax : Cents bound amounts.taxScaled
  tip : Cents bound amounts.tipScaled
  total : Cents bound amounts.totalScaled
  items : ∀ item ∈ amounts.lineItems, Cents bound item.amountScaled

/-- The amounts of a result. -/
def ReceiptExtractionResult.amounts (result : ReceiptExtractionResult)
    : ReceiptOCRProcessor.Amounts where
  subtotalScaled := result.subtotalScaled
  taxScaled := result.taxScaled
  tipScaled := result.tipScaled
  totalScaled := result.totalScaled
  lineItems := result.lineItems

namespace ReceiptOCRProcessor

variable {tables : CharTables}

/-- The amount of a line has at most six digits before its point and two behind it. -/
theorem amountIn_cents {line : String} {found : String × Int}
    (read : amountIn tables line = some found)
    : Cents (10 ^ 8) found.2 := by
  obtain ⟨⟨start, stop, groups⟩, searched, rfl⟩ := Option.map_eq_some_iff.mp read
  obtain ⟨_, _, _, matched⟩ := Pattern.matchAt_of_searchFrom searched
  obtain ⟨_, _, whole, fraction, _, _, _, amount, rfl⟩ :=
    reads_amountPattern.mp ⟨stop, Pattern.reads_of_matchAt matched⟩
  refine ⟨tables.number (whole ++ fraction), ?_, ?_⟩
  · have bounds := amount.wholeBounds
    have two := amount.fractionLength
    refine (tables.number_lt _).trans_le (Nat.pow_le_pow_right (by decide) ?_)
    rw [List.length_append]
    omega
  · exact parseScaledAmount_eq amount.wholeDecimal amount.wholeBounds.2 amount.fractionDecimal
      amount.fractionLength

/-- A line replaces an amount by one of cents, or adds an item of cents. -/
theorem readLine_inCents {amounts : Amounts} (inCents : amounts.InCents (10 ^ 8)) (line : String)
    : (readLine tables amounts line).InCents (10 ^ 8) := by
  have replaced (old : Int) (cents : Cents (10 ^ 8) old)
      : Cents (10 ^ 8) (((amountIn tables line).map Prod.snd).getD old) := by
    cases found : amountIn tables line with
    | none => exact cents
    | some pair => exact amountIn_cents found
  unfold readLine
  dsimp only
  split_ifs
  · exact { inCents with subtotal := replaced _ inCents.subtotal }
  · exact { inCents with tax := replaced _ inCents.tax }
  · exact inCents
  · exact { inCents with tip := replaced _ inCents.tip }
  · exact { inCents with total := replaced _ inCents.total }
  · exact inCents
  · refine { inCents with items := fun item member => ?_ }
    rcases List.mem_append.mp member with old | new
    · exact inCents.items item old
    · obtain ⟨⟨before, amount⟩, found, made⟩ :=
        Option.bind_eq_some_iff.mp (Option.mem_toList.mp new)
      dsimp only at made
      split at made
      · cases made
        exact amountIn_cents found
      · cases made

theorem readLine_length (amounts : Amounts) (line : String)
    : (readLine tables amounts line).lineItems.length ≤ amounts.lineItems.length + 1 := by
  unfold readLine
  dsimp only
  split_ifs
  all_goals try exact Nat.le_succ _
  rw [List.length_append]
  cases itemIn tables line <;> simp

/-- The invariant of the lines, by induction over them. -/
theorem foldl_inCents (lines : List String) {amounts : Amounts}
    (inCents : amounts.InCents (10 ^ 8))
    : (lines.foldl (readLine tables) amounts).InCents (10 ^ 8)
      ∧ (lines.foldl (readLine tables) amounts).lineItems.length
        ≤ amounts.lineItems.length + lines.length := by
  induction lines generalizing amounts with
  | nil => exact ⟨inCents, le_rfl⟩
  | cons line lines ih =>
      obtain ⟨kept, length⟩ := ih (readLine_inCents inCents line)
      have added := @readLine_length tables amounts line
      rw [List.foldl_cons, List.length_cons]
      exact ⟨kept, by omega⟩

/-- What is inferred is in cents, with a bound for as many items. -/
theorem inferred_inCents {amounts : Amounts} (inCents : amounts.InCents (10 ^ 8)) {lines : Nat}
    (few : amounts.lineItems.length ≤ lines)
    : (inferred amounts).InCents (10 ^ 8 * (lines + 3)) := by
  have wider : 10 ^ 8 ≤ 10 ^ 8 * (lines + 3) := by omega
  have items
      : Cents (10 ^ 8 * amounts.lineItems.length + 1)
          (amounts.lineItems.map ReceiptLineItem.amountScaled).sum := by
    have sum := Cents.sum (List.forall_mem_map.mpr inCents.items)
    rwa [List.length_map] at sum
  constructor
  · change Cents _ (if _ then _ else _)
    split
    · exact items.mono (by omega)
    · exact inCents.subtotal.mono wider
  · exact inCents.tax.mono wider
  · exact inCents.tip.mono wider
  · change Cents _ (if _ then _ else _)
    split
    · exact ((items.add inCents.tax).add inCents.tip).mono (by omega)
    · exact inCents.total.mono wider
  · exact fun item member => (inCents.items item member).mono wider

theorem processText_inCents (tables : CharTables) (today : CalendarDate) (text : String)
    : (processText tables today text).amounts.InCents (10 ^ 8 * ((linesOf text).length + 3)) := by
  have start {bound : Nat} (positive : 0 < bound) : Amounts.zero.InCents bound := by
    have zero := Cents.zero positive
    exact ⟨zero, zero, zero, zero, List.forall_mem_nil _⟩
  unfold processText
  dsimp only
  split
  · exact start (by omega)
  · obtain ⟨inCents, few⟩ := @foldl_inCents tables (linesOf text) .zero (start (by decide))
    rw [Amounts.zero, List.length_nil, Nat.zero_add] at few
    exact inferred_inCents inCents few

end ReceiptOCRProcessor

end PettyFlow.Receipts
