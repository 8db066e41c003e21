import PettyFlow.Foundation.Casing
import PettyFlow.Foundation.Values

/-! Texts that trimming and capitals leave as they are. -/

namespace Foundation

section Trimming

theorem toList_strip (text : String)
    : (strip text).toList = (text.toList.dropWhile isSpace).rdropWhile isSpace :=
  String.toList_ofList

/-- A text that neither begins nor ends with a blank is left as it is. -/
theorem strip_eq_self {text : String}
    (first : ∀ c, text.toList.head? = some c → isSpace c = false)
    (last : ∀ c, text.toList.getLast? = some c → isSpace c = false)
    : strip text = text := by
  have front : text.toList.dropWhile isSpace = text.toList := by
    rw [List.dropWhile_eq_self_iff]
    intro filled blank
    rw [first _ (List.head?_eq_getElem? ▸ List.getElem?_eq_getElem filled)] at blank
    cases blank
  have back : text.toList.rdropWhile isSpace = text.toList := by
    rw [List.rdropWhile_eq_self_iff]
    intro filled blank
    rw [last _ (List.getLast?_eq_some_getLast filled)] at blank
    cases blank
  apply String.toList_injective
  rw [toList_strip, front, back]

theorem strip_of_no_space {text : String} (clean : ∀ c ∈ text.toList, isSpace c = false)
    : strip text = text :=
  strip_eq_self (fun c first => clean c (List.mem_of_head? first))
    (fun c last => clean c (List.mem_of_getLast? last))

/-- What trimming leaves does not begin with a blank. -/
theorem head_strip {text : String} {c : Char} (first : (strip text).toList.head? = some c)
    : isSpace c = false := by
  rw [toList_strip] at first
  obtain ⟨rest, cut⟩ := List.rdropWhile_prefix isSpace (l := text.toList.dropWhile isSpace)
  have whole : (text.toList.dropWhile isSpace).head? = some c := by
    rw [← cut, List.head?_append, first]
    rfl
  have bound := List.head?_dropWhile_not isSpace text.toList
  rw [whole] at bound
  simpa using bound

/-- What trimming leaves does not end with a blank. -/
theorem getLast_strip {text : String} {c : Char} (last : (strip text).toList.getLast? = some c)
    : isSpace c = false := by
  rw [toList_strip] at last
  have filled := List.ne_nil_of_mem (List.mem_of_getLast? last)
  have bound := List.rdropWhile_last_not isSpace _ filled
  rw [List.getLast?_eq_some_getLast filled] at last
  cases last
  exact eq_false_of_ne_true bound

theorem strip_strip (text : String) : strip (strip text) = strip text :=
  strip_eq_self (fun _ first => head_strip first) (fun _ last => getLast_strip last)

/-- Trimming takes blanks away at both ends. -/
theorem strip_split (text : String)
    : ∃ front back,
        text.toList = front ++ ((strip text).toList ++ back)
        ∧ (∀ c ∈ front, isSpace c = true)
        ∧ ∀ c ∈ back, isSpace c = true := by
  refine ⟨text.toList.takeWhile isSpace, (text.toList.dropWhile isSpace).rtakeWhile isSpace, ?_,
    fun c member => List.mem_takeWhile_imp member, fun c member => ?_⟩
  · rw [toList_strip, List.rdropWhile_append_rtakeWhile, List.takeWhile_append_dropWhile]
  · exact List.mem_rtakeWhile_imp member

/-- Blanks behind a text are trimmed away with its own. -/
theorem strip_append_blanks (text : String) {blanks : List Char}
    (spaces : ∀ c ∈ blanks, isSpace c = true)
    : strip (String.ofList (text.toList ++ blanks)) = strip text := by
  have cut (front : List Char)
      : (front ++ blanks).rdropWhile isSpace = front.rdropWhile isSpace := by
    rw [List.rdropWhile, List.reverse_append, List.dropWhile_append_of_pos (by simpa using spaces),
      List.rdropWhile]
  have gone : blanks.dropWhile isSpace = [] := List.dropWhile_eq_nil_iff.mpr spaces
  apply String.toList_injective
  rw [toList_strip, toList_strip, String.toList_ofList, List.dropWhile_append]
  split
  · rename_i empty
    rw [gone, List.isEmpty_iff.mp empty]
  · exact cut _

private theorem dropWhile_append_of_head {front back : List Char} {kind : Char → Bool}
    (first : ∀ c ∈ back.head?, kind c = false)
    : (front ++ back).dropWhile kind = front.dropWhile kind ++ back := by
  have kept : back.dropWhile kind = back := by
    cases back with
    | nil => rfl
    | cons c back => rw [List.dropWhile_cons_of_neg (by simp [first c rfl])]
  rw [List.dropWhile_append, kept]
  split
  · rename_i empty
    rw [List.isEmpty_iff.mp empty, List.nil_append]
  · rfl

/-- Trimming does not touch what stands between two characters that are no blanks. -/
theorem strip_around {text : String} {front middle back : List Char}
    (split : text.toList = front ++ (middle ++ back)) (filled : middle ≠ [])
    (first : ∀ c ∈ middle.head?, isSpace c = false)
    (last : ∀ c ∈ middle.getLast?, isSpace c = false)
    : (strip text).toList
      = front.dropWhile isSpace ++ (middle ++ back.rdropWhile isSpace) := by
  have head : (middle ++ back).head? = middle.head? := by
    rw [List.head?_append, List.head?_eq_some_head filled, Option.some_or]
  rw [toList_strip, split, dropWhile_append_of_head (by rwa [head]), List.rdropWhile,
    List.reverse_append, List.reverse_append, List.append_assoc,
    dropWhile_append_of_head (by
      rw [List.head?_append, List.head?_reverse, List.getLast?_eq_some_getLast filled,
        Option.some_or, ← List.getLast?_eq_some_getLast filled]
      exact last)]
  simp [List.rdropWhile]

theorem isBlank_strip (text : String) : isBlank (strip text) = isBlank text := by
  unfold isBlank
  rw [strip_strip]

end Trimming

section Letters

variable {c : Char}

theorem isAsciiAlpha_iff
    : isAsciiAlpha c = true
      ↔ 0x41 ≤ c.toNat ∧ c.toNat ≤ 0x5A ∨ 0x61 ≤ c.toNat ∧ c.toNat ≤ 0x7A := by
  simp [isAsciiAlpha]

theorem isAsciiAlpha_eq (c : Char) : isAsciiAlpha c = c.isAlpha := by
  rw [Bool.eq_iff_iff, isAsciiAlpha_iff]
  simp only [Char.isAlpha, Char.isUpper, Char.isLower, Bool.or_eq_true, decide_eq_true_eq,
    ge_iff_le, UInt32.le_iff_toNat_le, Bool.and_eq_true]
  rfl

theorem capitals_of_ascii (ascii : c.toNat < 0x80) : capitals c = [c.toUpper] := if_pos ascii

/-- A letter has one capital, which is a letter and its own capital. -/
theorem capitals_of_alpha (letter : isAsciiAlpha c = true)
    : capitals c = [c.toUpper]
      ∧ isAsciiAlpha c.toUpper = true
      ∧ capitals c.toUpper = [c.toUpper] := by
  have capital : isAsciiAlpha c.toUpper = true := by
    rw [isAsciiAlpha_eq] at letter ⊢
    rw [Char.isAlpha_toUpper_eq_isAlpha, letter]
  have small := isAsciiAlpha_iff.mp letter
  have large := isAsciiAlpha_iff.mp capital
  refine ⟨capitals_of_ascii (by omega), capital, ?_⟩
  rw [capitals_of_ascii (by omega), Char.toUpper_toUpper_eq_toUpper]

theorem not_isSpace_of_alpha (letter : isAsciiAlpha c = true) : isSpace c = false := by
  have range := isAsciiAlpha_iff.mp letter
  simp only [isSpace, List.contains_eq_mem, List.mem_cons, List.not_mem_nil, Bool.or_eq_false_iff,
    Bool.and_eq_false_iff, decide_eq_false_iff_not, or_false]
  omega

/-- A text of letters has as many capitals, which are letters and their own capitals. -/
theorem upper_of_alpha {text : String} (letters : ∀ c ∈ text.toList, isAsciiAlpha c = true)
    : (upper text).length = text.length
      ∧ (∀ c ∈ (upper text).toList, isAsciiAlpha c = true)
      ∧ upper (upper text) = upper text := by
  have one : text.toList.flatMap capitals = text.toList.map Char.toUpper := by
    rw [List.map_eq_flatMap]
    exact List.flatMap_congr (fun c member => (capitals_of_alpha (letters c member)).1)
  have whole : (upper text).toList = text.toList.map Char.toUpper := by
    rw [upper, String.toList_ofList, one]
  have capital (c : Char) (member : c ∈ (upper text).toList) : capitals c = [c] := by
    rw [whole] at member
    obtain ⟨small, present, rfl⟩ := List.mem_map.mp member
    exact (capitals_of_alpha (letters small present)).2.2
  refine ⟨?_, ?_, ?_⟩
  · rw [← String.length_toList, whole, List.length_map, String.length_toList]
  · intro c member
    rw [whole] at member
    obtain ⟨small, present, rfl⟩ := List.mem_map.mp member
    exact (capitals_of_alpha (letters small present)).2.1
  · have same : (upper text).toList.flatMap capitals = (upper text).toList := by
      conv_rhs => rw [← List.map_id (upper text).toList]
      rw [List.map_eq_flatMap]
      exact List.flatMap_congr capital
    conv_lhs => rw [upper]
    rw [same, String.ofList_toList]

end Letters

end Foundation
