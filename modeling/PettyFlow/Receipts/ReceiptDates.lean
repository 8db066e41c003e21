import PettyFlow.Foundation.Calendar
import PettyFlow.Foundation.Separators
import PettyFlow.Foundation.Texts
import PettyFlow.Receipts.OcrProcessor

/-! The date of a receipt: which of the dates in its text is taken, and as what. -/

namespace PettyFlow.Receipts

open Foundation

namespace ReceiptOCRProcessor

/-! ### Where a date stands -/

/-- How many characters the parts of a date have, and of which kind the one in the middle is. -/
structure DateShape where
  first : Nat
  middle : Char → Bool
  second : Nat
  third : Nat

section Shapes

variable (tables : CharTables)

def dateShapes : List DateShape :=
  [⟨4, tables.isDecimal, 2, 2⟩, ⟨2, tables.isDecimal, 2, 4⟩, ⟨2, isAsciiAlpha, 3, 4⟩]

def DateShape.pattern (shape : DateShape) : Pattern :=
  datePattern tables (digits tables shape.first)
    (.run shape.middle shape.second (some shape.second)) (digits tables shape.third)

theorem datePatterns_eq : datePatterns tables = (dateShapes tables).map (DateShape.pattern tables) :=
  rfl

end Shapes

/-- The parts of a date and the separators between them. -/
structure DateParts where
  first : List Char
  separator : Char
  second : List Char
  separator' : Char
  third : List Char
deriving DecidableEq

namespace DateParts

def text (parts : DateParts) : List Char :=
  parts.first ++ parts.separator :: (parts.second ++ parts.separator' :: parts.third)

/-- The parts are as a shape wants them. -/
structure Fits (tables : CharTables) (shape : DateShape) (parts : DateParts) : Prop where
  first : ∀ c ∈ parts.first, tables.isDecimal c = true
  firstLength : parts.first.length = shape.first
  separator : isDateSeparator parts.separator = true
  second : ∀ c ∈ parts.second, shape.middle c = true
  secondLength : parts.second.length = shape.second
  separator' : isDateSeparator parts.separator' = true
  third : ∀ c ∈ parts.third, tables.isDecimal c = true
  thirdLength : parts.third.length = shape.third

end DateParts

/-- A date stands between the text before it and the text behind it, and is no part of a word. -/
structure DateAt (tables : CharTables) (front : List Char) (parts : DateParts)
    (after : List Char) : Prop where
  fits : ∃ shape ∈ dateShapes tables, parts.Fits tables shape
  begins : front.getLast?.any tables.isWord = false
  ends : after.head?.any tables.isWord = false

variable {tables : CharTables}

/-- What stands in the parts of a date and between them. -/
theorem reads_inside {shape : DateShape} {place : Place} {inside : Match}
    : (separatedParts (digits tables shape.first)
        (.run shape.middle shape.second (some shape.second))
        (digits tables shape.third)).Reads place inside
      ↔ ∃ parts rest,
          place.rest = DateParts.text parts ++ rest
          ∧ parts.Fits tables shape
          ∧ inside = (⟨parts.text.reverse ++ place.before, rest⟩, []) := by
  simp only [separatedParts, Pattern.sequence, digits, Pattern.reads_run_next, Pattern.reads_one_next,
    Pattern.reads_empty, Option.mem_some_iff, forall_eq']
  constructor
  · intro ⟨first, _, split, firstAll, firstLow, firstHigh, separator, _, split', isSeparator,
      second, _, split'', secondAll, secondLow, secondHigh, separator', _, split''', isSeparator',
      third, rest, split'''', thirdAll, thirdLow, thirdHigh, same⟩
    refine ⟨⟨first, separator, second, separator', third⟩, rest, ?_,
      ⟨firstAll, Nat.le_antisymm firstHigh firstLow, isSeparator, secondAll,
        Nat.le_antisymm secondHigh secondLow, isSeparator', thirdAll,
        Nat.le_antisymm thirdHigh thirdLow⟩, ?_⟩
    · rw [split, split', split'', split''', split'''', DateParts.text]
      simp
    · rw [same, DateParts.text]
      simp
  · intro ⟨parts, rest, split, fits, same⟩
    refine ⟨parts.first, _, ?_, fits.first, fits.firstLength.ge, fits.firstLength.le,
      parts.separator, _, rfl, fits.separator, parts.second, _, rfl, fits.second,
      fits.secondLength.ge, fits.secondLength.le, parts.separator', _, rfl, fits.separator',
      parts.third, rest, rfl, fits.third, fits.thirdLength.ge, fits.thirdLength.le, ?_⟩
    · rw [split, DateParts.text]
      simp
    · rw [same, DateParts.text]
      simp

theorem length_pos_of_dateShape {shape : DateShape} (known : shape ∈ dateShapes tables)
    : 0 < shape.first ∧ 0 < shape.third := by
  simp only [dateShapes, List.mem_cons, List.not_mem_nil, or_false] at known
  rcases known with rfl | rfl | rfl <;> exact ⟨Nat.succ_pos _, Nat.succ_pos _⟩

/-- A date begins and ends with a digit, so that no word is around it exactly where the pattern
sees edges.
-/
theorem atEdge_date {shape : DateShape} {parts : DateParts} (before after : List Char)
    (known : shape ∈ dateShapes tables) (fits : parts.Fits tables shape)
    : (Pattern.atEdge tables.isWord ⟨before, parts.text ++ after⟩ = true
        ↔ before.head?.any tables.isWord = false)
      ∧ (Pattern.atEdge tables.isWord ⟨parts.text.reverse ++ before, after⟩ = true
        ↔ after.head?.any tables.isWord = false) := by
  obtain ⟨someFirst, someThird⟩ := length_pos_of_dateShape known
  rw [← fits.firstLength] at someFirst
  rw [← fits.thirdLength] at someThird
  constructor
  · cases spelled : parts.first with
    | nil => simp [spelled] at someFirst
    | cons c rest =>
        have word := tables.isWord_of_isDecimal (fits.first c (by simp [spelled]))
        simp [Pattern.atEdge, DateParts.text, spelled, word]
  · rcases List.eq_nil_or_concat' parts.third with nothing | ⟨rest, c, spelled⟩
    · simp [nothing] at someThird
    · have word := tables.isWord_of_isDecimal (fits.third c (by simp [spelled]))
      simp [Pattern.atEdge, DateParts.text, spelled, word]

theorem reads_dateShape {shape : DateShape} {place : Place} {groups : List (List Char)}
    (known : shape ∈ dateShapes tables)
    : (∃ stop, (shape.pattern tables).Reads place (stop, groups))
      ↔ ∃ parts after,
          place.rest = DateParts.text parts ++ after
          ∧ parts.Fits tables shape
          ∧ place.before.head?.any tables.isWord = false
          ∧ after.head?.any tables.isWord = false
          ∧ groups = [parts.text] := by
  rw [DateShape.pattern, datePattern, Pattern.sequence]
  simp only [Pattern.sequence, Pattern.reads_edge_next, Pattern.reads_group_next,
    Pattern.reads_empty, reads_inside]
  obtain ⟨before, rest⟩ := place
  constructor
  · intro reads
    obtain ⟨stop, begins, inside, later, ⟨parts, after, split, fits, rfl⟩, ⟨ends, rfl⟩, same⟩ :=
      reads
    subst split
    obtain ⟨beginsIff, endsIff⟩ := atEdge_date before after known fits
    refine ⟨parts, after, rfl, fits, beginsIff.mp begins, endsIff.mp ends, ?_⟩
    rw [(Prod.mk.inj same).2, Pattern.upTo_taken]
    rfl
  · intro ⟨parts, after, split, fits, begins, ends, same⟩
    subst split
    obtain ⟨beginsIff, endsIff⟩ := atEdge_date before after known fits
    refine ⟨_, beginsIff.mpr begins, _, _, ⟨parts, after, rfl, fits, rfl⟩,
      ⟨endsIff.mpr ends, rfl⟩, Prod.ext rfl ?_⟩
    rw [same, Pattern.upTo_taken]
    rfl

/-! ### The dates of a text and of its lines -/

/-- A date stands in a text. -/
structure StandsIn (tables : CharTables) (text front : List Char) (parts : DateParts)
    (after : List Char) : Prop where
  split : text = front ++ (parts.text ++ after)
  here : DateAt tables front parts after

/-- What is found in a line is a date that stands in it. -/
theorem standsIn_of_dateIn {line : String} {raw : List Char} (found : dateIn tables line = some raw)
    : ∃ front parts after, StandsIn tables line.toList front parts after ∧ raw = parts.text := by
  obtain ⟨pattern, listed, searched⟩ := List.exists_of_findSome?_eq_some found
  rw [datePatterns_eq] at listed
  obtain ⟨shape, known, rfl⟩ := List.mem_map.mp listed
  obtain ⟨⟨start, stop, groups⟩, searched, same⟩ := Option.map_eq_some_iff.mp searched
  obtain ⟨front, split, behind, matched⟩ := Pattern.matchAt_of_searchFrom searched
  obtain ⟨parts, after, split', fits, begins, ends, rfl⟩ :=
    (reads_dateShape known).mp ⟨stop, Pattern.reads_of_matchAt matched⟩
  rw [behind, List.append_nil, List.head?_reverse] at begins
  exact ⟨front, parts, after, ⟨split.trans (congrArg _ split'), ⟨shape, known, fits⟩, begins, ends⟩,
    same.symm⟩

/-- In a line with a date something is found. -/
theorem dateIn_ne_none {line : String} {front after : List Char} {parts : DateParts}
    (stands : StandsIn tables line.toList front parts after)
    : dateIn tables line ≠ none := by
  intro nothing
  obtain ⟨shape, known, fits⟩ := stands.here.fits
  have listed : shape.pattern tables ∈ datePatterns tables := by
    rw [datePatterns_eq]
    exact List.mem_map_of_mem known
  have missed := Option.map_eq_none_iff.mp (List.findSome?_eq_none_iff.mp nothing _ listed)
  have unmatched := Pattern.searchFrom_eq_none.mp missed front _ stands.split
  obtain ⟨stop, reads⟩ :=
    (@reads_dateShape tables shape ⟨front.reverse ++ [], parts.text ++ after⟩ [parts.text] known).mpr
      ⟨parts, after, rfl, fits, by
        rw [List.append_nil, List.head?_reverse]
        exact stands.here.begins, stands.here.ends, rfl⟩
  exact Pattern.matchAt_eq_none.mp unmatched _ reads

/-- With text around it that is no part of a word, a date stands as before. -/
theorem StandsIn.widen {text front after before behind : List Char} {parts : DateParts}
    (stands : StandsIn tables text front parts after)
    (begins : ∀ c ∈ before.getLast?, tables.isWord c = false)
    (ends : ∀ c ∈ behind.head?, tables.isWord c = false)
    : StandsIn tables (before ++ (text ++ behind)) (before ++ front) parts (after ++ behind) := by
  refine ⟨?_, stands.here.fits, ?_, ?_⟩
  · rw [stands.split]
    simp only [List.append_assoc]
  · rw [List.getLast?_append]
    cases last : front.getLast? with
    | some c =>
        have bound := stands.here.begins
        rwa [last] at bound
    | none =>
        rw [Option.none_or]
        cases last' : before.getLast? with
        | none => rfl
        | some c => exact begins c last'
  · rw [List.head?_append]
    cases first : after.head? with
    | some c =>
        have bound := stands.here.ends
        rwa [first] at bound
    | none =>
        rw [Option.none_or]
        cases first' : behind.head? with
        | none => rfl
        | some c => exact ends c first'

/-- Without some of the text around it a date stands as before. -/
theorem DateAt.narrow {front after before behind : List Char} {parts : DateParts}
    (here : DateAt tables (before ++ front) parts (after ++ behind))
    : DateAt tables front parts after := by
  obtain ⟨fits, begins, ends⟩ := here
  refine ⟨fits, ?_, ?_⟩
  · cases last : front.getLast? with
    | none => rfl
    | some c => rwa [List.getLast?_append, last, Option.some_or] at begins
  · cases first : after.head? with
    | none => rfl
    | some c => rwa [List.head?_append, first, Option.some_or] at ends

/-- A date has neither blanks nor line feeds at its ends or inside. -/
theorem not_isSpace_of_mem_date {front after : List Char} {parts : DateParts} {c : Char}
    (here : DateAt tables front parts after) (member : c ∈ parts.text)
    : isSpace c = false := by
  obtain ⟨shape, known, fits⟩ := here.fits
  have ofDecimal {c : Char} (decimal : tables.isDecimal c = true) : isSpace c = false :=
    tables.not_isSpace_of_word (tables.isWord_of_isDecimal decimal)
  have ofMiddle {c : Char} (middle : shape.middle c = true) : isSpace c = false := by
    simp only [dateShapes, List.mem_cons, List.not_mem_nil, or_false] at known
    rcases known with rfl | rfl | rfl
    · exact ofDecimal middle
    · exact ofDecimal middle
    · exact not_isSpace_of_alpha middle
  have ofSeparator {c : Char} (separator : isDateSeparator c = true) : isSpace c = false := by
    rcases Bool.or_eq_true_iff.mp separator with dash | slash
    · rw [of_decide_eq_true dash]
      rfl
    · rw [of_decide_eq_true slash]
      rfl
  rw [DateParts.text] at member
  simp only [List.mem_append, List.mem_cons] at member
  rcases member with first | rfl | second | rfl | third
  · exact ofDecimal (fits.first c first)
  · exact ofSeparator fits.separator
  · exact ofMiddle (fits.second c second)
  · exact ofSeparator fits.separator'
  · exact ofDecimal (fits.third c third)

theorem not_isWord_of_isSpace {c : Char} (blank : isSpace c = true) : tables.isWord c = false := by
  cases word : tables.isWord c with
  | false => rfl
  | true =>
      rw [tables.not_isSpace_of_word word] at blank
      cases blank

/-- The dates of the lines are dates of the text. -/
theorem standsIn_of_line {text line : String} {front after : List Char} {parts : DateParts}
    (member : line ∈ linesOf text) (stands : StandsIn tables line.toList front parts after)
    : ∃ front' after', StandsIn tables text.toList front' parts after' := by
  obtain ⟨_, listed, rfl⟩ := List.mem_map.mp (List.mem_of_mem_filter member)
  obtain ⟨_, before, behind, split, last, next⟩ := mem_splitOn_iff.mp listed
  rename_i raw _
  obtain ⟨lead, trail, split', leading, trailing⟩ := strip_split (String.ofList raw)
  rw [String.toList_ofList] at split'
  have feed : tables.isWord '\n' = false := not_isWord_of_isSpace rfl
  have inLine := stands.widen
    (fun c member => not_isWord_of_isSpace (leading c (List.mem_of_mem_getLast? member)))
    (fun c member => not_isWord_of_isSpace (trailing c (List.mem_of_mem_head? member)))
  rw [← split'] at inLine
  have inText := inLine.widen (fun c member => last c member ▸ feed)
    (fun c member => next c member ▸ feed)
  rw [← split] at inText
  exact ⟨_, _, inText⟩

/-- Where a text has a date, something is found in some line. -/
theorem exists_dateIn {text : String} {front after : List Char} {parts : DateParts}
    (stands : StandsIn tables text.toList front parts after)
    : (linesOf text).filterMap (dateIn tables) ≠ [] := by
  have here := stands.here
  have clean (c : Char) (member : c ∈ parts.text) : isSpace c = false :=
    not_isSpace_of_mem_date here member
  have filled : parts.text ≠ [] := by
    rw [DateParts.text]
    exact List.append_ne_nil_of_right_ne_nil _ (List.cons_ne_nil _ _)
  have oneLine : '\n' ∉ parts.text := fun member => absurd (clean '\n' member) (by decide)
  obtain ⟨before, lead, trail, behind, rfl, rfl, listed⟩ :=
    @exists_part_around _ _ _ _ front _ after oneLine
  rw [← stands.split] at listed
  have stripped := strip_around (String.toList_ofList (l := lead ++ (parts.text ++ trail))) filled
    (fun c member => clean c (List.mem_of_mem_head? member))
    (fun c member => clean c (List.mem_of_mem_getLast? member))
  have inLine := stands.here.narrow
  rw [← List.takeWhile_append_dropWhile (p := isSpace) (l := lead),
    ← List.rdropWhile_append_rtakeWhile (p := isSpace) (l := trail)] at inLine
  have member : strip (String.ofList (lead ++ (parts.text ++ trail))) ∈ linesOf text := by
    refine List.mem_filter.mpr ⟨List.mem_map.mpr ⟨_, listed, rfl⟩, decide_eq_true (fun blank => ?_)⟩
    rw [blank] at stripped
    simp [filled] at stripped
  cases found : dateIn tables (strip (String.ofList (lead ++ (parts.text ++ trail)))) with
  | none => exact absurd found (dateIn_ne_none ⟨stripped, inLine.narrow⟩)
  | some raw => exact List.ne_nil_of_mem (List.mem_filterMap.mpr ⟨_, member, found⟩)

/-! ### What a date is taken down as -/

namespace DateParts

def Slashed (parts : DateParts) : Prop := parts.separator = '/' ∧ parts.separator' = '/'

instance (parts : DateParts) : Decidable parts.Slashed := inferInstanceAs (Decidable (_ ∧ _))

/-- The separators are the only ones. -/
structure Separated (parts : DateParts) : Prop where
  separator : isDateSeparator parts.separator = true
  separator' : isDateSeparator parts.separator' = true
  first : ∀ c ∈ parts.first, isDateSeparator c = false
  second : ∀ c ∈ parts.second, isDateSeparator c = false
  third : ∀ c ∈ parts.third, isDateSeparator c = false

/-- The parts are read back from the text of a date. -/
theorem text_inj {parts parts' : DateParts} (clean : parts.Separated) (clean' : parts'.Separated)
    (same : parts.text = parts'.text)
    : parts = parts' := by
  have cut {run run' rest rest' : List Char} {c c' : Char}
      (all : ∀ x ∈ run, isDateSeparator x = false) (all' : ∀ x ∈ run', isDateSeparator x = false)
      (ends : isDateSeparator c = true) (ends' : isDateSeparator c' = true)
      (same : run ++ c :: rest = run' ++ c' :: rest')
      : run = run' ∧ c :: rest = c' :: rest' :=
    @split_run _ (fun x => !isDateSeparator x) _ _ _ _ (fun x member => by rw [all x member]; rfl)
      (fun x member => by rw [all' x member]; rfl) (by simpa using ends) (by simpa using ends') same
  obtain ⟨firsts, rests⟩ := cut clean.first clean'.first clean.separator clean'.separator same
  obtain ⟨separators, tails⟩ := List.cons.inj rests
  obtain ⟨seconds, rests'⟩ :=
    cut clean.second clean'.second clean.separator' clean'.separator' tails
  obtain ⟨separators', thirds⟩ := List.cons.inj rests'
  obtain ⟨_, _, _, _, _⟩ := parts
  obtain ⟨_, _, _, _, _⟩ := parts'
  simp only at firsts separators seconds separators' thirds
  subst firsts separators seconds separators' thirds
  rfl

end DateParts

theorem not_isDateSeparator_of_isDecimal {c : Char} (decimal : tables.isDecimal c = true)
    : isDateSeparator c = false := by
  rw [isDateSeparator, Bool.or_eq_false_iff]
  refine ⟨decide_eq_false ?_, decide_eq_false ?_⟩ <;>
  · rintro rfl
    rw [tables.isDecimal_ascii (by decide)] at decimal
    cases decimal

theorem not_isDateSeparator_of_alpha {c : Char} (letter : isAsciiAlpha c = true)
    : isDateSeparator c = false := by
  rw [isDateSeparator, Bool.or_eq_false_iff]
  refine ⟨decide_eq_false ?_, decide_eq_false ?_⟩ <;>
  · rintro rfl
    cases letter

theorem not_isDecimal_of_alpha {c : Char} (letter : isAsciiAlpha c = true)
    : tables.isDecimal c = false := by
  have range := isAsciiAlpha_iff.mp letter
  rw [tables.isDecimal_ascii (by omega), ← Bool.not_eq_true, isDigit_iff]
  omega

theorem separated_of_fits {shape : DateShape} {parts : DateParts}
    (known : shape ∈ dateShapes tables) (fits : parts.Fits tables shape)
    : parts.Separated := by
  refine ⟨fits.separator, fits.separator',
    fun c member => not_isDateSeparator_of_isDecimal (fits.first c member), fun c member => ?_,
    fun c member => not_isDateSeparator_of_isDecimal (fits.third c member)⟩
  have middle := fits.second c member
  simp only [dateShapes, List.mem_cons, List.not_mem_nil, or_false] at known
  rcases known with rfl | rfl | rfl
  · exact not_isDateSeparator_of_isDecimal middle
  · exact not_isDateSeparator_of_isDecimal middle
  · exact not_isDateSeparator_of_alpha middle

/-- A text without two slashes is taken as it is. -/
theorem normaliseDate_of_two {raw : List Char} (few : (raw.splitOn '/').length ≤ 2)
    : normaliseDate tables raw = some (String.ofList raw) := by
  unfold normaliseDate
  split
  · rfl
  · split
    · split
      · rename_i pieces
        rw [pieces] at few
        simp at few
      · rfl
    · rfl

/-- A text with two slashes and no dash is turned round if the last part is a year. -/
theorem normaliseDate_of_three {raw first second third : List Char} (noDash : '-' ∉ raw)
    (pieces : raw.splitOn '/' = [first, second, third])
    : normaliseDate tables raw
      = if third.length = 4 then
          if first.all tables.isDecimal ∧ second.all tables.isDecimal then
            some
              (String.ofList third ++ "-" ++ zeroPadded 2 (tables.number first) ++ "-"
                ++ zeroPadded 2 (tables.number second))
          else
            some (String.ofList raw)
        else
          none := by
  have slash : '/' ∈ raw := by
    by_contra absent
    rw [List.splitOn_eq_singleton absent] at pieces
    cases pieces
  unfold normaliseDate
  rw [if_neg (fun both => noDash both.1), if_pos slash, pieces]

/-- What a date is taken down as depends on its separators, and with slashes on its last part. -/
theorem normaliseDate_text {parts : DateParts} (clean : parts.Separated)
    : normaliseDate tables parts.text
      = if parts.Slashed then
          if parts.third.length = 4 then
            if parts.first.all tables.isDecimal ∧ parts.second.all tables.isDecimal then
              some
                (String.ofList parts.third ++ "-" ++ zeroPadded 2 (tables.number parts.first) ++ "-"
                  ++ zeroPadded 2 (tables.number parts.second))
            else
              some (String.ofList parts.text)
          else
            none
        else
          some (String.ofList parts.text) := by
  have free {c : Char} {piece : List Char} (isMark : isDateSeparator c = true)
      (others : ∀ d ∈ piece, isDateSeparator d = false)
      : c ∉ piece := by
    intro member
    rw [others c member] at isMark
    cases isMark
  have dash : isDateSeparator '-' = true := rfl
  have slash : isDateSeparator '/' = true := rfl
  have firstSlash := free slash clean.first
  have secondSlash := free slash clean.second
  have thirdSlash := free slash clean.third
  have text : parts.text
      = parts.first ++ parts.separator :: (parts.second ++ parts.separator' :: parts.third) := rfl
  have marks := And.intro clean.separator clean.separator'
  simp only [isDateSeparator, Bool.or_eq_true, decide_eq_true_eq] at marks
  obtain ⟨known | known, known' | known'⟩ := marks <;> rw [known, known'] at text
  · rw [if_neg (fun slashed => absurd (known.symm.trans slashed.1) (by decide))]
    refine normaliseDate_of_two ?_
    rw [text, List.splitOn_eq_singleton (by simp [firstSlash, secondSlash, thirdSlash])]
    exact Nat.le_succ 1
  · rw [if_neg (fun slashed => absurd (known.symm.trans slashed.1) (by decide))]
    refine normaliseDate_of_two ?_
    rw [text, show parts.first ++ '-' :: (parts.second ++ '/' :: parts.third)
        = (parts.first ++ '-' :: parts.second) ++ '/' :: parts.third by simp,
      List.splitOn_append_cons_self_of_not_mem (by simp [firstSlash, secondSlash]),
      List.splitOn_eq_singleton thirdSlash]
    exact le_rfl
  · rw [if_neg (fun slashed => absurd (known'.symm.trans slashed.2) (by decide))]
    refine normaliseDate_of_two ?_
    rw [text, List.splitOn_append_cons_self_of_not_mem firstSlash,
      List.splitOn_eq_singleton (by simp [secondSlash, thirdSlash])]
    exact le_rfl
  · rw [if_pos ⟨known, known'⟩]
    refine normaliseDate_of_three ?_ ?_
    · rw [text]
      simp [free dash clean.first, free dash clean.second, free dash clean.third]
    · rw [text, List.splitOn_append_cons_self_of_not_mem firstSlash,
        List.splitOn_append_cons_self_of_not_mem secondSlash, List.splitOn_eq_singleton thirdSlash]

/-- The form that is passed over: the year in front, and slashes. -/
def IsPassedOver (tables : CharTables) (raw : List Char) : Prop :=
  ∃ parts : DateParts,
    raw = parts.text ∧ parts.Slashed ∧ parts.Fits tables ⟨4, tables.isDecimal, 2, 2⟩

/-- What is taken down as a date: its ISO form, or its month, day and year with slashes. -/
def IsTakenAs (tables : CharTables) (raw : List Char) (date : CalendarDate) : Prop :=
  raw = date.isoText.toList
  ∨ ∃ parts : DateParts,
      raw = parts.text
      ∧ parts.Slashed
      ∧ parts.Fits tables ⟨2, tables.isDecimal, 2, 4⟩
      ∧ tables.number parts.first = date.month
      ∧ tables.number parts.second = date.day
      ∧ parts.third = lastDigits 4 date.year

def isoParts (date : CalendarDate) : DateParts :=
  ⟨lastDigits 4 date.year, '-', lastDigits 2 date.month, '-', lastDigits 2 date.day⟩

theorem text_isoParts (date : CalendarDate) : (isoParts date).text = date.isoText.toList :=
  date.toList_isoText.symm

theorem separated_isoParts (date : CalendarDate) : (isoParts date).Separated := by
  have clean {count n : Nat} (c : Char) (member : c ∈ lastDigits count n)
      : isDateSeparator c = false :=
    @not_isDateSeparator_of_isDecimal .ascii c
      (CharTables.ascii.isDecimal_of_isDigit (isDigit_of_mem_lastDigits member))
  exact ⟨rfl, rfl, clean, clean, clean⟩

theorem not_slashed_isoParts (date : CalendarDate) : ¬ (isoParts date).Slashed :=
  fun slashed => absurd slashed.1 (by simp [isoParts])

section Taken

variable {shape : DateShape} {parts : DateParts} {date : CalendarDate}

/-- A month, a day and a year are put in the order of the ISO form. -/
theorem turned_eq_isoText (fits : parts.Fits tables ⟨2, tables.isDecimal, 2, 4⟩)
    : String.ofList parts.third ++ "-" ++ zeroPadded 2 (tables.number parts.first) ++ "-"
          ++ zeroPadded 2 (tables.number parts.second)
        = date.isoText
      ↔ tables.number parts.first = date.month
        ∧ tables.number parts.second = date.day
        ∧ parts.third = lastDigits 4 date.year := by
  have smallFirst := tables.number_lt parts.first
  have smallSecond := tables.number_lt parts.second
  rw [fits.firstLength] at smallFirst
  rw [fits.secondLength] at smallSecond
  have spelled
      : (String.ofList parts.third ++ "-" ++ zeroPadded 2 (tables.number parts.first) ++ "-"
          ++ zeroPadded 2 (tables.number parts.second)).toList
        = parts.third ++ '-' :: (lastDigits 2 (tables.number parts.first)
            ++ '-' :: lastDigits 2 (tables.number parts.second)) := by
    rw [String.toList_append, String.toList_append, String.toList_append, String.toList_append,
      toList_zeroPadded Nat.two_pos smallFirst, toList_zeroPadded Nat.two_pos smallSecond,
      String.toList_ofList]
    simp only [List.append_assoc]
    rfl
  obtain ⟨_, month, day⟩ := date.bounds
  rw [← String.toList_inj, spelled, CalendarDate.toList_isoText]
  constructor
  · intro same
    obtain ⟨years, rest⟩ := List.append_inj same
      (by rw [fits.thirdLength, length_lastDigits])
    obtain ⟨months, rest'⟩ := List.append_inj (List.cons.inj rest).2
      (by rw [length_lastDigits, length_lastDigits])
    exact ⟨lastDigits_inj smallFirst month months,
      lastDigits_inj smallSecond day (List.cons.inj rest').2, years⟩
  · intro ⟨months, days, years⟩
    rw [months, days, years]

theorem isPassedOver_iff (known : shape ∈ dateShapes tables) (fits : parts.Fits tables shape)
    : IsPassedOver tables parts.text ↔ parts.Slashed ∧ parts.first.length = 4 := by
  constructor
  · intro ⟨parts', same, slashed, fits'⟩
    obtain rfl := DateParts.text_inj (separated_of_fits known fits)
      (separated_of_fits List.mem_cons_self fits') same
    exact ⟨slashed, fits'.firstLength⟩
  · intro ⟨slashed, four⟩
    refine ⟨parts, rfl, slashed, ?_⟩
    simp only [dateShapes, List.mem_cons, List.not_mem_nil, or_false] at known
    rcases known with rfl | rfl | rfl
    · exact fits
    · exact absurd (fits.firstLength.symm.trans four) (by simp)
    · exact absurd (fits.firstLength.symm.trans four) (by simp)

theorem normaliseDate_eq_none_iff (known : shape ∈ dateShapes tables)
    (fits : parts.Fits tables shape)
    : normaliseDate tables parts.text = none ↔ IsPassedOver tables parts.text := by
  rw [normaliseDate_text (separated_of_fits known fits), isPassedOver_iff known fits]
  simp only [dateShapes, List.mem_cons, List.not_mem_nil, or_false] at known
  have long : parts.first.length = 4 ↔ ¬ parts.third.length = 4 := by
    rw [fits.firstLength, fits.thirdLength]
    rcases known with rfl | rfl | rfl <;> simp
  rw [long]
  by_cases slashed : parts.Slashed
  · by_cases year : parts.third.length = 4
    · rw [if_pos slashed, if_pos year]
      split <;> simp [year]
    · simp [slashed, year]
  · simp [slashed]

theorem normaliseDate_eq_some_iff (known : shape ∈ dateShapes tables)
    (fits : parts.Fits tables shape)
    : normaliseDate tables parts.text = some date.isoText ↔ IsTakenAs tables parts.text date := by
  have clean := separated_of_fits known fits
  have numeric : (⟨2, tables.isDecimal, 2, 4⟩ : DateShape) ∈ dateShapes tables :=
    List.mem_cons_of_mem _ List.mem_cons_self
  have asItIs
      : some (String.ofList parts.text) = some date.isoText ↔ parts.text = date.isoText.toList := by
    rw [Option.some_inj, ← String.toList_inj, String.toList_ofList]
  rw [normaliseDate_text clean]
  constructor
  · intro taken
    split at taken
    · rename_i slashed
      split at taken
      · split at taken
        · rename_i year decimal
          simp only [dateShapes, List.mem_cons, List.not_mem_nil, or_false] at known
          rcases known with rfl | rfl | rfl
          · exact absurd (fits.thirdLength.symm.trans year) (by simp)
          · exact Or.inr ⟨parts, rfl, slashed, fits,
              (turned_eq_isoText fits).mp (Option.some.inj taken)⟩
          · obtain ⟨c, member⟩ := List.exists_mem_of_length_pos
              (fits.secondLength ▸ Nat.succ_pos _ : 0 < parts.second.length)
            have digit := List.all_eq_true.mp decimal.2 c member
            rw [not_isDecimal_of_alpha (fits.second c member)] at digit
            cases digit
        · exact Or.inl (asItIs.mp taken)
      · cases taken
    · exact Or.inl (asItIs.mp taken)
  · intro taken
    rcases taken with iso | ⟨parts', same, slashed, fits', numbers⟩
    · have unslashed : ¬ parts.Slashed := by
        rw [DateParts.text_inj clean (separated_isoParts date)
          (iso.trans (text_isoParts date).symm)]
        exact not_slashed_isoParts date
      rw [if_neg unslashed]
      exact asItIs.mpr iso
    · obtain rfl := DateParts.text_inj clean (separated_of_fits numeric fits') same
      rw [if_pos slashed, if_pos fits'.thirdLength,
        if_pos ⟨List.all_eq_true.mpr fits'.first, List.all_eq_true.mpr fits'.second⟩,
        (turned_eq_isoText fits').mpr numbers]

end Taken

/-! ### The dates that a text means -/

def monthNames : List (List Char) :=
  ["JAN", "FEB", "MAR", "APR", "MAY", "JUN", "JUL", "AUG", "SEP", "OCT", "NOV", "DEC"].map
    String.toList

/-- The only date that the parts of one can mean: the year in front, or a month with a name, or
a day that is no month.
-/
def DateParts.meaning? (tables : CharTables) (parts : DateParts) : Option CalendarDate :=
  let first := tables.number parts.first
  let second := tables.number parts.second
  let third := tables.number parts.third
  if parts.first.length = 4 then
    CalendarDate.ofNumbers? first second third
  else if parts.second.all tables.isDecimal then
    if 12 < second then
      CalendarDate.ofNumbers? third first second
    else if 12 < first then
      CalendarDate.ofNumbers? third second first
    else
      none
  else
    (monthNames.idxOf? (parts.second.map Char.toUpper)).bind (fun month =>
      CalendarDate.ofNumbers? third (month + 1) first)

/-- A date is the only one in a text. -/
structure OnlyDate (tables : CharTables) (text front : List Char) (parts : DateParts)
    (after : List Char) : Prop where
  stands : StandsIn tables text front parts after
  alone
    : ∀ front' parts' after',
        StandsIn tables text front' parts' after' → front' = front ∧ parts' = parts

/-- The date of a receipt is one of the calendar, and the one in its text where that has just one
with a single meaning.
-/
def DateRight (tables : CharTables) (today : CalendarDate) (text : String) : Prop :=
  (∃ date : CalendarDate, (processText tables today text).transactionDate = date.isoText)
  ∧ ∀ front parts after date,
      OnlyDate tables text.toList front parts after
      → parts.meaning? tables = some date
      → (processText tables today text).transactionDate = date.isoText

/-- Of the dates in the lines of a text, the first one that is neither passed over nor that of
today is taken down as a date.
-/
def DatesReadable (tables : CharTables) (today : CalendarDate) : List (List Char) → Prop
  | [] => True
  | raw :: rest =>
      (IsPassedOver tables raw ∨ IsTakenAs tables raw today) ∧ DatesReadable tables today rest
      ∨ ∃ date, date ≠ today ∧ IsTakenAs tables raw date

/-- A date with the year in front and slashes is the only one in a text, and is that of today. -/
def PassedOverToday (tables : CharTables) (today : CalendarDate) (text : List Char) : Prop :=
  ∀ front parts after date,
    OnlyDate tables text front parts after
    → parts.Slashed ∧ parts.first.length = 4
    → parts.meaning? tables = some date
    → date = today

/-- What is taken down as a date is what it means. -/
theorem meaning_of_isTakenAs {shape : DateShape} {parts : DateParts} {date date' : CalendarDate}
    (known : shape ∈ dateShapes tables) (fits : parts.Fits tables shape)
    (means : parts.meaning? tables = some date) (taken : IsTakenAs tables parts.text date')
    : date = date' := by
  have clean := separated_of_fits known fits
  obtain ⟨year, month, day⟩ := date'.bounds
  rcases taken with iso | ⟨parts', same, slashed, fits', months, days, years⟩
  · obtain rfl := DateParts.text_inj clean (separated_isoParts date')
      (iso.trans (text_isoParts date').symm)
    rw [DateParts.meaning?] at means
    simp only [isoParts, length_lastDigits, if_pos, CharTables.number_lastDigits,
      Nat.mod_eq_of_lt year, Nat.mod_eq_of_lt month, Nat.mod_eq_of_lt day] at means
    obtain ⟨sameYear, sameMonth, sameDay⟩ := CalendarDate.ofNumbers?_eq_some.mp means
    exact CalendarDate.ext_numbers sameYear sameMonth sameDay
  · have numeric : (⟨2, tables.isDecimal, 2, 4⟩ : DateShape) ∈ dateShapes tables :=
      List.mem_cons_of_mem _ List.mem_cons_self
    obtain rfl := DateParts.text_inj clean (separated_of_fits numeric fits') same
    have noMore : ¬ 12 < date'.month := not_lt.mpr date'.monthBounds.2
    rw [DateParts.meaning?, if_neg (by simp [fits'.firstLength]),
      if_pos (List.all_eq_true.mpr fits'.second), months, if_neg noMore, years,
      CharTables.number_lastDigits, Nat.mod_eq_of_lt year, days] at means
    split at means
    · obtain ⟨sameYear, sameMonth, sameDay⟩ := CalendarDate.ofNumbers?_eq_some.mp means
      exact CalendarDate.ext_numbers sameYear sameMonth sameDay
    · cases means

/-! ### The date that is taken -/

/-- The first date that is taken down and is not that of today. -/
def firstOther (tables : CharTables) (today : String) (dates : List (List Char)) : String :=
  ((dates.filterMap (normaliseDate tables)).find? (· ≠ today)).getD today

theorem firstOther_cons (today : String) (raw : List Char) (rest : List (List Char))
    : firstOther tables today (raw :: rest)
      = match normaliseDate tables raw with
        | some date => if date ≠ today then date else firstOther tables today rest
        | none => firstOther tables today rest := by
  rw [firstOther, firstOther]
  cases taken : normaliseDate tables raw with
  | none => rw [List.filterMap_cons_none taken]
  | some date =>
      rw [List.filterMap_cons_some taken, List.find?_cons]
      by_cases other : date = today
      · simp [other]
      · simp [other]

theorem transactionDate_eq (today : String) (lines : List String)
    : transactionDate tables today lines
      = firstOther tables today (lines.filterMap (dateIn tables)) := by
  induction lines with
  | nil => rfl
  | cons line rest ih =>
      rw [transactionDate, ih]
      cases found : dateIn tables line with
      | none => rw [List.filterMap_cons_none found, Option.bind_none]
      | some raw =>
          rw [List.filterMap_cons_some found, firstOther_cons]
          rfl

theorem transactionDate_processText (today : CalendarDate) (text : String)
    : (processText tables today text).transactionDate
      = firstOther tables today.isoText ((linesOf text).filterMap (dateIn tables)) := by
  rw [← transactionDate_eq, processText]
  split
  · rename_i empty
    rw [empty, transactionDate]
  · rfl

/-- The dates in the lines of a text stand in it. -/
theorem standsIn_of_mem {text : String} {raw : List Char}
    (member : raw ∈ (linesOf text).filterMap (dateIn tables))
    : ∃ front parts after, StandsIn tables text.toList front parts after ∧ raw = parts.text := by
  obtain ⟨line, listed, found⟩ := List.mem_filterMap.mp member
  obtain ⟨front, parts, after, stands, same⟩ := standsIn_of_dateIn found
  obtain ⟨front', after', stands'⟩ := standsIn_of_line listed stands
  exact ⟨front', parts, after', stands', same⟩

/-- The texts are those of dates. -/
def AreDates (tables : CharTables) (dates : List (List Char)) : Prop :=
  ∀ raw ∈ dates, ∃ parts shape,
    shape ∈ dateShapes tables ∧ DateParts.Fits tables shape parts ∧ raw = parts.text

/-- A date is taken exactly if the dates of the lines can be read, by induction over them. -/
theorem firstOther_iff {today : CalendarDate} {dates : List (List Char)}
    (known : AreDates tables dates)
    : (∃ date : CalendarDate, firstOther tables today.isoText dates = date.isoText)
      ↔ DatesReadable tables today dates := by
  induction dates with
  | nil => exact ⟨fun _ => trivial, fun _ => ⟨today, rfl⟩⟩
  | cons raw rest ih =>
      obtain ⟨parts, shape, listed, fits, rfl⟩ := known raw List.mem_cons_self
      have later := ih (fun raw member => known raw (List.mem_cons_of_mem _ member))
      have passed := normaliseDate_eq_none_iff listed fits
      have taken (date : CalendarDate) := @normaliseDate_eq_some_iff _ _ _ date listed fits
      simp only [DatesReadable, ← passed, ← taken, ← later, firstOther_cons]
      cases result : normaliseDate tables parts.text with
      | none => simp
      | some text =>
          by_cases same : text = today.isoText
          · subst same
            have alone (date : CalendarDate)
                : ¬ (date ≠ today ∧ some today.isoText = some date.isoText) :=
              fun both => both.1 (CalendarDate.isoText_inj (Option.some.inj both.2)).symm
            simp only [reduceCtorEq, ne_eq, not_true, if_false, false_or, true_and, or_false,
              not_exists.mpr alone]
          · have other (date : CalendarDate) (isDate : text = date.isoText) : date ≠ today :=
              fun isToday => same (isToday ▸ isDate)
            simp only [reduceCtorEq, Option.some_inj, same, false_or, false_and, ne_eq,
              not_false_iff, if_true]
            exact exists_congr (fun date => ⟨fun isDate => ⟨other date isDate, isDate⟩, And.right⟩)

theorem firstOther_of_forall {today : String} {dates : List (List Char)} {text : String}
    (some : dates ≠ []) (all : ∀ raw ∈ dates, normaliseDate tables raw = .some text)
    : firstOther tables today dates = text := by
  induction dates with
  | nil => exact absurd rfl some
  | cons raw rest ih =>
      rw [firstOther_cons, all raw List.mem_cons_self]
      by_cases other : text = today
      · cases rest with
        | nil => simp [other, firstOther]
        | cons next rest =>
            simp only [other, ne_eq, not_true, if_false]
            rw [ih (List.cons_ne_nil _ _)
                (fun raw member => all raw (List.mem_cons_of_mem _ member)),
              other]
      · simp [other]

theorem firstOther_of_passedOver {today : String} {dates : List (List Char)}
    (all : ∀ raw ∈ dates, normaliseDate tables raw = none)
    : firstOther tables today dates = today := by
  have nothing : dates.filterMap (normaliseDate tables) = [] :=
    List.filterMap_eq_nil_iff.mpr all
  rw [firstOther, nothing]
  rfl

/-- What is taken of a text with one date is that date, unless it is passed over. -/
theorem firstOther_of_only {today : CalendarDate} {text : String} {front after : List Char}
    {parts : DateParts} {date : CalendarDate}
    (only : OnlyDate tables text.toList front parts after)
    (means : parts.meaning? tables = some date)
    (readable : DatesReadable tables today ((linesOf text).filterMap (dateIn tables)))
    : firstOther tables today.isoText ((linesOf text).filterMap (dateIn tables)) = date.isoText
      ↔ (parts.Slashed ∧ parts.first.length = 4 → date = today) := by
  obtain ⟨shape, listed, fits⟩ := only.stands.here.fits
  have all (raw : List Char) (member : raw ∈ (linesOf text).filterMap (dateIn tables))
      : raw = parts.text := by
    obtain ⟨front', parts', after', stands, same⟩ := standsIn_of_mem member
    rw [same, (only.alone front' parts' after' stands).2]
  obtain ⟨first, others, listing⟩ :=
    List.exists_cons_of_ne_nil (exists_dateIn only.stands)
  rw [← isPassedOver_iff listed fits, ← normaliseDate_eq_none_iff listed fits]
  cases result : normaliseDate tables parts.text with
  | none =>
      rw [firstOther_of_passedOver (fun raw member => all raw member ▸ result)]
      exact ⟨fun same _ => (CalendarDate.isoText_inj same).symm, fun isToday => isToday rfl ▸ rfl⟩
  | some taken =>
      rw [firstOther_of_forall (exists_dateIn only.stands)
        (fun raw member => all raw member ▸ result)]
      rw [listing, DatesReadable, all first (listing ▸ List.mem_cons_self),
        ← normaliseDate_eq_none_iff listed fits, result] at readable
      have isDate : ∃ date', IsTakenAs tables parts.text date' := by
        rcases readable with ⟨impossible | isToday, _⟩ | ⟨date', _, isDate⟩
        · cases impossible
        · exact ⟨today, isToday⟩
        · exact ⟨date', isDate⟩
      obtain ⟨date', isDate⟩ := isDate
      rw [meaning_of_isTakenAs listed fits means isDate]
      have same := (normaliseDate_eq_some_iff listed fits).mpr isDate
      rw [result, Option.some_inj] at same
      simp [same]

/-- The date of a receipt is right exactly if the first of the dates in its lines that counts is
taken down as one, and no date that is passed over is the only one in it.
-/
theorem dateRight_iff (tables : CharTables) (today : CalendarDate) (text : String)
    : DateRight tables today text
      ↔ DatesReadable tables today ((linesOf text).filterMap (dateIn tables))
        ∧ PassedOverToday tables today text.toList := by
  have known : AreDates tables ((linesOf text).filterMap (dateIn tables)) := by
    intro raw member
    obtain ⟨front, parts, after, stands, same⟩ := standsIn_of_mem member
    obtain ⟨shape, listed, fits⟩ := stands.here.fits
    exact ⟨parts, shape, listed, fits, same⟩
  rw [DateRight, transactionDate_processText, firstOther_iff known]
  refine and_congr_right (fun readable => ?_)
  constructor
  · intro right front parts after date only passed means
    exact (firstOther_of_only only means readable).mp (right front parts after date only means)
      passed
  · intro isToday front parts after date only means
    exact (firstOther_of_only only means readable).mpr
      (fun passed => isToday front parts after date only passed means)

/-- Of the last day of a year, written with the day in front, a month 31 is made. -/
theorem day_first_no_date
    : ¬ DateRight .ascii ⟨2026, 5, 1, by decide, by decide, by decide⟩ "Cafe\n31/12/2026" := by
  have result
      : (processText .ascii ⟨2026, 5, 1, by decide, by decide, by decide⟩
          "Cafe\n31/12/2026").transactionDate
        = "2026-31-12" := by
    decide +kernel
  intro ⟨⟨date, same⟩, _⟩
  rw [result] at same
  have texts := congrArg String.toList same
  rw [CalendarDate.toList_isoText] at texts
  obtain ⟨_, rest⟩ := @List.append_inj _ ['2', '0', '2', '6'] _ ('-' :: ['3', '1', '-', '1', '2'])
    _ texts (by rw [length_lastDigits]; rfl)
  obtain ⟨months, _⟩ := @List.append_inj _ ['3', '1'] _ ['-', '1', '2'] _ (List.cons.inj rest).2
    (by rw [length_lastDigits]; rfl)
  have month : 31 = date.month :=
    lastDigits_inj (by decide) date.bounds.2.1 months
  have bound := date.monthBounds.2
  omega

end ReceiptOCRProcessor

end PettyFlow.Receipts
