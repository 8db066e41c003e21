import PettyFlow.Foundation.Numerals
import PettyFlow.Receipts.AmountLines

/-! Receipts rendered line by line, and what the processor makes of a line with a heading and an
amount.
-/

namespace PettyFlow.Receipts

open Foundation

/-! ### Keywords -/

/-- A word that shares no character with the end of a text occurs before that end. -/
theorem infix_of_infix_append {word text tail : List Char} (apart : ∀ c ∈ word, c ∉ tail)
    (occurs : word <:+: text ++ tail)
    : word <:+: text := by
  obtain ⟨front, back, whole⟩ := occurs
  rcases List.append_eq_append_iff.mp whole with ⟨extra, part, _⟩ | ⟨extra, part, rest⟩
  · exact ⟨front, extra, part.symm⟩
  · rcases List.eq_nil_or_concat' word with rfl | ⟨start, c, rfl⟩
    · exact List.nil_infix
    · rcases List.eq_nil_or_concat' extra with rfl | ⟨start', c', rfl⟩
      · rw [List.append_nil] at part
        exact part ▸ ⟨front, [], List.append_nil _⟩
      · -- The word would end within the end of the text
        rw [← List.append_assoc, ← List.append_assoc] at part
        obtain ⟨_, same⟩ := List.append_inj' part rfl
        refine absurd ?_ (apart c (by simp))
        rw [rest, (List.cons.inj same).1]
        simp

/-- The blank behind a word belongs to no word that does not end in one. -/
theorem infix_of_infix_concat {word text : List Char} {c : Char} (apart : word.getLast? ≠ some c)
    (occurs : word <:+: text ++ [c])
    : word <:+: text := by
  obtain ⟨front, back, whole⟩ := occurs
  rcases List.eq_nil_or_concat' back with rfl | ⟨start, c', rfl⟩
  · rcases List.eq_nil_or_concat' word with rfl | ⟨start, c', rfl⟩
    · exact List.nil_infix
    · rw [List.append_nil, ← List.append_assoc] at whole
      obtain ⟨_, same⟩ := List.append_inj' whole rfl
      rw [(List.cons.inj same).1] at apart
      simp at apart
  · rw [← List.append_assoc] at whole
    exact ⟨front, start, (List.append_inj' whole rfl).1⟩

namespace ReceiptOCRProcessor

/-- The characters of rendered amounts, which have no capitals and stand in no keyword. -/
def isPlain (c : Char) : Bool := c.isDigit || ['$', ',', '.'].contains c

theorem isPlain_bounds {c : Char} (plain : isPlain c = true)
    : 0x24 ≤ c.toNat ∧ c.toNat ≤ 0x39 := by
  rcases Bool.or_eq_true_iff.mp plain with digit | mark
  · have range := isDigit_iff.mp digit
    omega
  · simp only [List.contains_eq_mem, List.mem_cons, List.not_mem_nil, or_false,
      decide_eq_true_eq] at mark
    rcases mark with rfl | rfl | rfl <;> decide

theorem capitals_of_isPlain {c : Char} (plain : isPlain c = true) : capitals c = [c] := by
  have range := isPlain_bounds plain
  have small : c.toUpper = c := by
    unfold Char.toUpper
    rw [dif_neg]
    intro lower
    have bound := lower.1
    rw [UInt32.le_iff_toNat_le] at bound
    change 97 ≤ c.toNat at bound
    omega
  rw [capitals_of_ascii (by omega), small]

section Rendered

variable {line : String} {word tail : List Char} (spelled : line.toList = word ++ tail)
  (plain : ∀ c ∈ tail, isPlain c = true)

include spelled plain

theorem toList_upper_rendered : (upper line).toList = word.flatMap capitals ++ tail := by
  have same : tail.flatMap capitals = tail := by
    conv_rhs => rw [← List.flatMap_singleton' tail]
    exact List.flatMap_congr (fun c member => capitals_of_isPlain (plain c member))
  rw [upper, String.toList_ofList, spelled, List.flatMap_append, same]

/-- A keyword occurs in a rendered line exactly if it occurs before the amount. -/
theorem occursIn_rendered (keyword : String)
    (letters : keyword.toList.all (fun c => !isPlain c) = true)
    : occursIn keyword (upper line) = occursIn keyword (upper (String.ofList word)) := by
  have front : (upper (String.ofList word)).toList = word.flatMap capitals := by
    rw [upper, String.toList_ofList, String.toList_ofList]
  have apart (c : Char) (member : c ∈ keyword.toList) : c ∉ tail := by
    intro inTail
    have unlike := List.all_eq_true.mp letters c member
    rw [plain c inTail] at unlike
    cases unlike
  rw [occursIn, occursIn, toList_upper_rendered spelled plain, front]
  exact decide_eq_decide.mpr
    ⟨infix_of_infix_append apart, fun occurs => List.infix_append_of_infix_left occurs⟩

/-! ### Lines with headings -/

variable {tables : CharTables} (amounts : Amounts)

theorem readLine_subtotal (heading : word = "Subtotal ".toList)
    : readLine tables amounts line
      = {
          amounts with
            subtotalScaled := ((amountIn tables line).map Prod.snd).getD amounts.subtotalScaled
        } := by
  subst heading
  have known := occursIn_rendered spelled plain
  unfold readLine
  simp (disch := decide) only [known]
  rw [if_pos (by decide)]

theorem readLine_tax (heading : word = "Tax ".toList)
    : readLine tables amounts line
      = {
          amounts with
            taxScaled := ((amountIn tables line).map Prod.snd).getD amounts.taxScaled
        } := by
  subst heading
  have known := occursIn_rendered spelled plain
  unfold readLine
  simp (disch := decide) only [known]
  rw [if_neg (by decide), if_pos (by decide), if_pos (by decide)]

theorem readLine_tip (heading : word = "Tip ".toList)
    : readLine tables amounts line
      = {
          amounts with
            tipScaled := ((amountIn tables line).map Prod.snd).getD amounts.tipScaled
        } := by
  subst heading
  have known := occursIn_rendered spelled plain
  unfold readLine
  simp (disch := decide) only [known]
  rw [if_neg (by decide), if_neg (by decide), if_pos (by decide)]

theorem readLine_total (heading : word = "Total ".toList)
    : readLine tables amounts line
      = {
          amounts with
            totalScaled := ((amountIn tables line).map Prod.snd).getD amounts.totalScaled
        } := by
  subst heading
  have known := occursIn_rendered spelled plain
  unfold readLine
  simp (disch := decide) only [known]
  rw [if_neg (by decide), if_neg (by decide), if_neg (by decide), if_pos (by decide),
    if_pos (by decide)]

end Rendered

/-- A line without an amount changes nothing. -/
theorem readLine_of_none {tables : CharTables} {line : String}
    (none : amountIn tables line = none) (amounts : Amounts)
    : readLine tables amounts line = amounts := by
  unfold readLine itemIn
  rw [none]
  simp

theorem foldl_readLine_of_none {tables : CharTables} {lines : List String}
    (none : ∀ line ∈ lines, amountIn tables line = none) (amounts : Amounts)
    : lines.foldl (readLine tables) amounts = amounts := by
  induction lines with
  | nil => rfl
  | cons line lines ih =>
      rw [List.foldl_cons, readLine_of_none (none line List.mem_cons_self)]
      exact ih (fun other member => none other (List.mem_cons_of_mem _ member))

/-! ### Receipts -/

/-- The text of a receipt with some lines. -/
def receiptText (lines : List String) : String := "\n".intercalate lines

/-- The lines of a receipt are read back, without blanks around them and blank ones. -/
theorem linesOf_receiptText {lines : List String} (some : lines ≠ [])
    (oneLine : ∀ line ∈ lines, '\n' ∉ line.toList)
    : linesOf (receiptText lines) = (lines.map strip).filter (· ≠ "") := by
  have clean : ∀ piece ∈ lines.map String.toList, '\n' ∉ piece := by
    simpa using oneLine
  have filled : lines.map String.toList ≠ [] := by simpa using some
  rw [linesOf, receiptText, String.toList_intercalate, show "\n".toList = ['\n'] from rfl,
    List.splitOn_intercalate '\n' clean filled, List.map_map]
  simp [Function.comp_def, String.ofList_toList]

end ReceiptOCRProcessor

end PettyFlow.Receipts
