import PettyFlow.Foundation.Separators
import PettyFlow.Foundation.Texts
import PettyFlow.Receipts.OcrProcessor

/-! What the pattern of amounts finds in a line, and the numbers that it makes of it. -/

namespace PettyFlow.Receipts

open Foundation

namespace ReceiptOCRProcessor

variable {tables : CharTables}

/-! ### Where an amount begins -/

/-- The digits of an amount as the pattern takes them: one to six and two, behind which no word
goes on.
-/
structure IsAmount (tables : CharTables) (whole fraction after : List Char) : Prop where
  wholeDecimal : ∀ c ∈ whole, tables.isDecimal c = true
  wholeBounds : 1 ≤ whole.length ∧ whole.length ≤ 6
  fractionDecimal : ∀ c ∈ fraction, tables.isDecimal c = true
  fractionLength : fraction.length = 2
  ends : after.head?.any tables.isWord = false

/-- What may stand before the digits: a currency sign perhaps, and blanks. -/
def IsLead (sign blank : List Char) : Prop :=
  (sign = [] ∨ sign = ['$']) ∧ ∀ c ∈ blank, isSpace c = true

/-- No word goes on behind digits exactly where the pattern sees the edge of one. -/
theorem atEdge_after {before after : List Char} {c : Char} (decimal : tables.isDecimal c = true)
    : Pattern.atEdge tables.isWord ⟨c :: before, after⟩ = true
      ↔ after.head?.any tables.isWord = false := by
  simp [Pattern.atEdge, tables.isWord_of_isDecimal decimal]

theorem reads_amountDigits {place : Place} {inside : Match}
    : (amountDigits tables).Reads place inside
      ↔ ∃ whole fraction rest,
          place.rest = whole ++ '.' :: (fraction ++ rest)
          ∧ (∀ c ∈ whole, tables.isDecimal c = true)
          ∧ (1 ≤ whole.length ∧ whole.length ≤ 6)
          ∧ (∀ c ∈ fraction, tables.isDecimal c = true)
          ∧ fraction.length = 2
          ∧ inside
            = (⟨(whole ++ '.' :: fraction).reverse ++ place.before, rest⟩, []) := by
  simp only [amountDigits, Pattern.sequence, digits, Pattern.reads_run_next, Pattern.reads_one_next,
    Pattern.reads_empty, Option.mem_some_iff, forall_eq', List.reverse_append, List.reverse_cons,
    List.append_assoc, List.singleton_append]
  constructor
  · intro ⟨whole, _, split, decimal, enough, bounded, point, _, split', isPoint, fraction, rest,
      split'', decimal', enough', bounded', same⟩
    rw [of_decide_eq_true isPoint, split''] at split'
    rw [split'] at split
    rw [of_decide_eq_true isPoint] at same
    exact ⟨whole, fraction, rest, split, decimal, ⟨enough, bounded⟩, decimal',
      Nat.le_antisymm bounded' enough', same⟩
  · intro ⟨whole, fraction, rest, split, decimal, bounds, decimal', two, same⟩
    exact ⟨whole, _, split, decimal, bounds.1, bounds.2, '.', _, rfl, decide_eq_true rfl,
      fraction, rest, rfl, decimal', two.ge, two.le, same⟩

/-- The end of an amount lies at the edge of a word if no word goes on. -/
theorem atEdge_amount {before whole fraction after : List Char}
    (decimal : ∀ c ∈ fraction, tables.isDecimal c = true) (two : fraction.length = 2)
    : Pattern.atEdge tables.isWord ⟨(whole ++ '.' :: fraction).reverse ++ before, after⟩ = true
      ↔ after.head?.any tables.isWord = false := by
  obtain ⟨tenth, hundredth, rfl⟩ := List.length_eq_two.mp two
  have spelled
      : (whole ++ '.' :: [tenth, hundredth]).reverse ++ before
        = hundredth :: (tenth :: '.' :: (whole.reverse ++ before)) := by
    simp
  rw [spelled]
  exact atEdge_after (decimal hundredth (by simp))

/-- The digits of an amount, in the group, and the edge behind them. -/
theorem reads_amountDigits_next {place : Place} {found : Match}
    : (Pattern.next (.group (amountDigits tables))
        (.next (.edge tables.isWord) .empty)).Reads place found
      ↔ ∃ whole fraction after,
          place.rest = whole ++ '.' :: (fraction ++ after)
          ∧ IsAmount tables whole fraction after
          ∧ found
            = (⟨(whole ++ '.' :: fraction).reverse ++ place.before, after⟩,
                [whole ++ '.' :: fraction]) := by
  simp only [Pattern.reads_group_next, Pattern.reads_edge_next, Pattern.reads_empty,
    reads_amountDigits]
  constructor
  · intro ⟨inside, later, ⟨whole, fraction, after, split, decimal, bounds, decimal', two, within⟩,
      ⟨edge, rest⟩, same⟩
    subst within rest
    refine ⟨whole, fraction, after, split, ⟨decimal, bounds, decimal', two, ?_⟩, ?_⟩
    · exact (atEdge_amount decimal' two).mp edge
    · rw [same, Pattern.upTo_taken]
      rfl
  · intro ⟨whole, fraction, after, split, amount, same⟩
    refine ⟨_, _, ⟨whole, fraction, after, split, amount.wholeDecimal, amount.wholeBounds,
      amount.fractionDecimal, amount.fractionLength, rfl⟩, ⟨?_, rfl⟩, ?_⟩
    · exact (atEdge_amount amount.fractionDecimal amount.fractionLength).mpr amount.ends
    · rw [same, Pattern.upTo_taken]
      rfl

/-- What the pattern reads: perhaps a currency sign, blanks and the digits of an amount. -/
theorem reads_amountPattern {place : Place} {groups : List (List Char)}
    : (∃ stop, (amountPattern tables).Reads place (stop, groups))
      ↔ ∃ sign blank whole fraction after,
          place.rest = sign ++ (blank ++ (whole ++ '.' :: (fraction ++ after)))
          ∧ IsLead sign blank
          ∧ IsAmount tables whole fraction after
          ∧ groups = [whole ++ '.' :: fraction] := by
  -- The blanks and the digits, with or without a sign in front
  have spaced (place : Place) (found : Match)
      : (Pattern.sequence
          [blanks, .group (amountDigits tables), .edge tables.isWord]).Reads place found
        ↔ ∃ blank whole fraction after,
            place.rest = blank ++ (whole ++ '.' :: (fraction ++ after))
            ∧ (∀ c ∈ blank, isSpace c = true)
            ∧ IsAmount tables whole fraction after
            ∧ found
              = (⟨(whole ++ '.' :: fraction).reverse ++ (blank.reverse ++ place.before), after⟩,
                  [whole ++ '.' :: fraction]) := by
    simp only [Pattern.sequence, blanks, Pattern.reads_run_next, reads_amountDigits_next]
    constructor
    · intro ⟨blank, _, split, blanks, _, _, whole, fraction, after, split', amount, same⟩
      exact ⟨blank, whole, fraction, after, split.trans (congrArg _ split'), blanks, amount, same⟩
    · intro ⟨blank, whole, fraction, after, split, blanks, amount, same⟩
      exact ⟨blank, _, split, blanks, Nat.zero_le _, by simp, whole, fraction, after, rfl, amount,
        same⟩
  rw [amountPattern, Pattern.sequence]
  simp only [Pattern.reads_maybe_one_next, Pattern.reads_one_next, spaced]
  constructor
  · intro reads
    obtain ⟨stop, signed | unsigned⟩ := reads
    · obtain ⟨c, rest, split, isSign, signed⟩ := signed
      obtain ⟨blank, whole, fraction, after, split', blanks, amount, same⟩ := signed
      refine ⟨['$'], blank, whole, fraction, after, ?_, ⟨Or.inr rfl, blanks⟩, amount,
        (Prod.mk.inj same).2⟩
      rw [split, of_decide_eq_true isSign]
      exact congrArg _ split'
    · obtain ⟨blank, whole, fraction, after, split, blanks, amount, same⟩ := unsigned
      exact ⟨[], blank, whole, fraction, after, split, ⟨Or.inl rfl, blanks⟩, amount,
        (Prod.mk.inj same).2⟩
  · intro ⟨sign, blank, whole, fraction, after, split, ⟨sign', blanks⟩, amount, same⟩
    rcases sign' with rfl | rfl
    · exact ⟨_, Or.inr ⟨blank, whole, fraction, after, split, blanks, amount, Prod.ext rfl same⟩⟩
    · exact ⟨_, Or.inl ⟨'$', _, split, decide_eq_true rfl, blank, whole, fraction, after, rfl,
        blanks, amount, Prod.ext rfl same⟩⟩

/-! ### The only amount of a text -/

theorem not_isDecimal_point (tables : CharTables) : tables.isDecimal '.' = false :=
  tables.isDecimal_ascii (by decide)

theorem not_mem_of_isDecimal {run : List Char} (decimal : ∀ c ∈ run, tables.isDecimal c = true)
    : '.' ∉ run := by
  intro member
  have point := decimal '.' member
  rw [not_isDecimal_point] at point
  cases point

/-- Neither a sign nor a blank is a digit. -/
theorem IsLead.last {sign blank : List Char} (lead : IsLead sign blank)
    : ∀ c ∈ (sign ++ blank).getLast?, tables.isDecimal c = false := by
  intro c last
  rcases List.mem_append.mp (List.mem_of_getLast? last) with inSign | inBlank
  · rcases lead.1 with rfl | rfl
    · cases inSign
    · rw [List.mem_singleton.mp inSign]
      exact tables.isDecimal_ascii (by decide)
  · exact tables.not_isDecimal_of_isSpace (lead.2 c inBlank)

theorem IsLead.no_point {sign blank : List Char} (lead : IsLead sign blank)
    : '.' ∉ sign ++ blank := by
  intro member
  rcases List.mem_append.mp member with inSign | inBlank
  · rcases lead.1 with rfl | rfl
    · cases inSign
    · exact absurd (List.mem_singleton.mp inSign) (by decide)
  · exact absurd (lead.2 '.' inBlank) (by decide)

section OnlyAmount

variable {front run fraction : List Char}

/-- In a text with one point an amount is the whole run of digits before it. -/
theorem amount_eq_run {sign blank whole fraction' after : List Char} (noPoint : '.' ∉ front)
    (frontEnds : ∀ c ∈ front.getLast?, tables.isDecimal c = false)
    (runDecimal : ∀ c ∈ run, tables.isDecimal c = true) (two : fraction.length = 2)
    (same
      : front ++ (run ++ '.' :: fraction)
        = sign ++ (blank ++ (whole ++ '.' :: (fraction' ++ after))))
    (lead : IsLead sign blank) (amount : IsAmount tables whole fraction' after)
    : front = sign ++ blank ∧ run = whole ∧ fraction = fraction' ∧ after = [] := by
  have same' : (front ++ run) ++ '.' :: fraction
      = (sign ++ blank ++ whole) ++ '.' :: (fraction' ++ after) := by
    simpa only [List.append_assoc] using same
  have noPoint' : '.' ∉ front ++ run :=
    List.not_mem_append noPoint (not_mem_of_isDecimal runDecimal)
  have noPoint'' : '.' ∉ sign ++ blank ++ whole :=
    List.not_mem_append lead.no_point (not_mem_of_isDecimal amount.wholeDecimal)
  obtain ⟨fronts, tails⟩ := split_first noPoint' noPoint'' same'
  obtain ⟨leads, runs⟩ :=
    split_last_run runDecimal amount.wholeDecimal frontEnds lead.last fronts
  have lengths := congrArg List.length tails
  rw [List.length_append, two, amount.fractionLength] at lengths
  have nothing : after = [] := List.length_eq_zero_iff.mp (by omega)
  subst nothing
  exact ⟨leads, runs, by simpa using tails, rfl⟩

/-- What matches at a place is the run of digits before the point, which is not too long. -/
theorem match_of_only {before : List Char} {found : Match} (noPoint : '.' ∉ front)
    (frontEnds : ∀ c ∈ front.getLast?, tables.isDecimal c = false)
    (runDecimal : ∀ c ∈ run, tables.isDecimal c = true) (two : fraction.length = 2)
    (matched
      : (amountPattern tables).matchAt ⟨before, front ++ (run ++ '.' :: fraction)⟩ = some found)
    : found.2 = [run ++ '.' :: fraction]
      ∧ run.length ≤ 6
      ∧ ∃ sign blank, IsLead sign blank ∧ front = sign ++ blank := by
  obtain ⟨stop, groups⟩ := found
  obtain ⟨sign, blank, whole, fraction', after, same, lead, amount, rfl⟩ :=
    reads_amountPattern.mp ⟨stop, Pattern.reads_of_matchAt matched⟩
  obtain ⟨rfl, rfl, rfl, rfl⟩ :=
    amount_eq_run noPoint frontEnds runDecimal two same lead amount
  exact ⟨rfl, amount.wholeBounds.2, sign, blank, lead, rfl⟩

/-- A run of one to six digits with the hundredths matches behind a sign or blanks. -/
theorem match_lead {before sign blank : List Char} (lead : IsLead sign blank)
    (runDecimal : ∀ c ∈ run, tables.isDecimal c = true) (some : run ≠ []) (short : run.length ≤ 6)
    (fractionDecimal : ∀ c ∈ fraction, tables.isDecimal c = true) (two : fraction.length = 2)
    : ∃ found,
        (amountPattern tables).matchAt ⟨before, sign ++ blank ++ (run ++ '.' :: fraction)⟩
          = .some found := by
  have amount : IsAmount tables run fraction [] :=
    ⟨runDecimal, ⟨List.length_pos_of_ne_nil some, short⟩, fractionDecimal, two, rfl⟩
  obtain ⟨stop, reads⟩ := reads_amountPattern.mpr
    (show ∃ sign' blank' whole fraction' after,
        (⟨before, sign ++ blank ++ (run ++ '.' :: fraction)⟩ : Place).rest
          = sign' ++ (blank' ++ (whole ++ '.' :: (fraction' ++ after)))
        ∧ IsLead sign' blank'
        ∧ IsAmount tables whole fraction' after
        ∧ [run ++ '.' :: fraction] = [whole ++ '.' :: fraction'] from
      ⟨sign, blank, run, fraction, [], by simp, lead, amount, rfl⟩)
  rw [← Option.isSome_iff_exists, Option.isSome_iff_ne_none]
  exact fun none => Pattern.matchAt_eq_none.mp none _ reads

/-- More than six digits before the point do not match. -/
theorem no_match_of_long {before extra : List Char}
    (runDecimal : ∀ c ∈ run, tables.isDecimal c = true) (two : fraction.length = 2)
    (inside : ∃ skipped, run.take (run.length - 6) = skipped ++ extra) (some : extra ≠ [])
    : (amountPattern tables).matchAt
        ⟨before, extra ++ (run.drop (run.length - 6) ++ '.' :: fraction)⟩ = none := by
  obtain ⟨skipped, part⟩ := inside
  have all (c : Char) (member : c ∈ extra ++ run.drop (run.length - 6))
      : tables.isDecimal c = true := by
    refine runDecimal c ?_
    rw [← List.take_append_drop (run.length - 6) run, part, List.append_assoc]
    exact List.mem_append_right _ member
  cases matched
      : (amountPattern tables).matchAt
          ⟨before, extra ++ (run.drop (run.length - 6) ++ '.' :: fraction)⟩ with
  | none => rfl
  | some found =>
      rw [← List.append_assoc] at matched
      have bound := (@match_of_only tables [] _ fraction _ found (by simp) (by simp) all two
        matched).2.1
      have filled := List.length_pos_of_ne_nil some
      have size := congrArg List.length part
      rw [List.length_append, List.length_drop] at bound
      rw [List.length_take, List.length_append] at size
      omega

/-- A match that begins before the last six digits takes the whole run, which is no longer. -/
theorem groups_of_earlier {first later : List Char} {c : Char} {found : Match}
    (noPoint : '.' ∉ front) (frontEnds : ∀ c ∈ front.getLast?, tables.isDecimal c = false)
    (runDecimal : ∀ c ∈ run, tables.isDecimal c = true) (two : fraction.length = 2)
    (split : front ++ run.take (run.length - 6) = first ++ c :: later)
    (matched
      : (amountPattern tables).matchAt
          ⟨first.reverse ++ [], c :: (later ++ (run.drop (run.length - 6) ++ '.' :: fraction))⟩
        = some found)
    : found.2 = [run.drop (run.length - 6) ++ '.' :: fraction] := by
  have fromRun (inside : ∃ skipped, run.take (run.length - 6) = skipped ++ c :: later) : False := by
    have none := @no_match_of_long tables run fraction (first.reverse ++ []) (c :: later) runDecimal
      two inside (List.cons_ne_nil c later)
    rw [List.cons_append, matched] at none
    cases none
  rcases List.append_eq_append_iff.mp split with ⟨extra, _, part⟩ | ⟨extra, part, rest⟩
  · exact (fromRun ⟨extra, part⟩).elim
  · cases extra with
    | nil => exact (fromRun ⟨[], rest.symm⟩).elim
    | cons d extra =>
        rw [List.cons_append] at rest
        obtain ⟨rfl, rfl⟩ := List.cons.inj rest
        rw [List.append_assoc, ← List.append_assoc (run.take _), List.take_append_drop,
          ← List.cons_append] at matched
        have clean (member : '.' ∈ c :: extra) : False :=
          noPoint (part ▸ List.mem_append_right _ member)
        have ends (x : Char) (last : x ∈ (c :: extra).getLast?) : tables.isDecimal x = false := by
          refine frontEnds x ?_
          rw [part, List.getLast?_append, last]
          rfl
        obtain ⟨whole, bound, _⟩ := match_of_only clean ends runDecimal two matched
        rw [whole, show run.length - 6 = 0 by omega, List.drop_zero]

/-- The amount of a line with one point is made of the last six digits before it, at most. -/
theorem amountIn_line {line : String} (noPoint : '.' ∉ front)
    (frontEnds : ∀ c ∈ front.getLast?, tables.isDecimal c = false)
    (runDecimal : ∀ c ∈ run, tables.isDecimal c = true) (some : run ≠ [])
    (fractionDecimal : ∀ c ∈ fraction, tables.isDecimal c = true) (two : fraction.length = 2)
    (spelled : line.toList = front ++ (run ++ '.' :: fraction))
    : (amountIn tables line).map Prod.snd
      = .some
          (parseScaledAmount tables (run.drop (run.length - 6) ++ '.' :: fraction)) := by
  have cut
      : line.toList
        = (front ++ run.take (run.length - 6))
          ++ (run.drop (run.length - 6) ++ '.' :: fraction) := by
    rw [spelled, List.append_assoc, ← List.append_assoc (run.take _), List.take_append_drop]
  rw [amountIn, Pattern.search, cut, Option.map_map]
  rcases Pattern.searchFrom_cases (amountPattern tables) []
      (front ++ run.take (run.length - 6)) (run.drop (run.length - 6) ++ '.' :: fraction) with
    passed | ⟨first, c, later, found, split, here, searched⟩
  · have decimal (c : Char) (member : c ∈ run.drop (run.length - 6))
        : tables.isDecimal c = true :=
      runDecimal c (List.mem_of_mem_drop member)
    have filled : run.drop (run.length - 6) ≠ [] := by
      have := List.length_pos_of_ne_nil some
      rw [Ne, List.drop_eq_nil_iff]
      omega
    have short : (run.drop (run.length - 6)).length ≤ 6 := by
      rw [List.length_drop]
      omega
    obtain ⟨found, matched⟩ := @match_lead tables (run.drop (run.length - 6)) fraction
      ((front ++ run.take (run.length - 6)).reverse ++ []) [] [] ⟨Or.inl rfl, by simp⟩ decimal
      filled short fractionDecimal two
    simp only [List.nil_append] at matched
    have groups := (@match_of_only tables [] _ fraction _ found (by simp) (by simp) decimal two
      matched).1
    rw [passed, Pattern.searchFrom_here matched]
    simp [groupOf, groups]
  · rw [searched]
    simp [groupOf, groups_of_earlier noPoint frontEnds runDecimal two split here]

end OnlyAmount

/-! ### The number -/

/-- The amounts that the pattern lets through come out exactly. -/
theorem parseScaledAmount_eq {whole fraction : List Char}
    (wholeDecimal : ∀ c ∈ whole, tables.isDecimal c = true) (short : whole.length ≤ 6)
    (fractionDecimal : ∀ c ∈ fraction, tables.isDecimal c = true) (two : fraction.length = 2)
    : parseScaledAmount tables (whole ++ '.' :: fraction)
      = 100 * (tables.number (whole ++ fraction) : Int) := by
  have other {c mark : Char} (decimal : tables.isDecimal c = true)
      (unlike : tables.isDecimal mark = false) : c ≠ mark := by
    rintro rfl
    rw [decimal] at unlike
    cases unlike
  have clean
      : (whole ++ '.' :: fraction).filter (fun c => c ≠ '$' ∧ c ≠ ',')
        = whole ++ '.' :: fraction := by
    rw [List.filter_eq_self]
    intro c member
    have kept (decimal : tables.isDecimal c = true) : c ≠ '$' ∧ c ≠ ',' :=
      ⟨other decimal (tables.isDecimal_ascii (by decide)),
        other decimal (tables.isDecimal_ascii (by decide))⟩
    rcases List.mem_append.mp member with inWhole | inRest
    · exact decide_eq_true (kept (wholeDecimal c inWhole))
    · rcases List.mem_cons.mp inRest with rfl | inFraction
      · decide
      · exact decide_eq_true (kept (fractionDecimal c inFraction))
  have split
      : (whole ++ '.' :: fraction).takeWhile (· ≠ '.') = whole := by
    rw [List.takeWhile_append_of_pos (fun c member =>
      decide_eq_true (other (wholeDecimal c member) (not_isDecimal_point tables)))]
    simp
  have rest : (whole ++ '.' :: fraction).drop (whole.length + 1) = fraction := by
    rw [List.drop_append]
    simp
  have bounded : tables.number (whole ++ fraction) < 10 ^ 8 := by
    refine (tables.number_lt _).trans_le (Nat.pow_le_pow_right (by decide) ?_)
    rw [List.length_append]
    omega
  rw [parseScaledAmount, clean, pointed, split, rest, two, show (10 : Nat) ^ 2 = 100 from rfl,
    Double.times_nearest_hundredths bounded]
  push_cast
  rfl

/-! ### Lines without an amount -/

/-- A text begins with an amount, behind a sign and blanks perhaps. -/
def HasAmount (tables : CharTables) (text : List Char) : Prop :=
  ∃ sign blank whole fraction after,
    text = sign ++ (blank ++ (whole ++ '.' :: (fraction ++ after)))
    ∧ IsLead sign blank
    ∧ IsAmount tables whole fraction after

theorem matchAt_eq_none_iff {place : Place}
    : (amountPattern tables).matchAt place = none ↔ ¬ HasAmount tables place.rest := by
  rw [Pattern.matchAt_eq_none]
  constructor
  · intro none ⟨sign, blank, whole, fraction, after, split, lead, amount⟩
    obtain ⟨stop, reads⟩ :=
      reads_amountPattern.mpr ⟨sign, blank, whole, fraction, after, split, lead, amount, rfl⟩
    exact none _ reads
  · intro none found reads
    obtain ⟨sign, blank, whole, fraction, after, split, lead, amount, _⟩ :=
      reads_amountPattern.mp ⟨found.1, reads⟩
    exact none ⟨sign, blank, whole, fraction, after, split, lead, amount⟩

theorem amountIn_eq_none {line : String}
    : amountIn tables line = none
      ↔ ∀ front rest, line.toList = front ++ rest → ¬ HasAmount tables rest := by
  rw [amountIn, Option.map_eq_none_iff, Pattern.search, Pattern.searchFrom_eq_none]
  simp only [matchAt_eq_none_iff]

/-- Blanks behind a text neither add to its amounts nor spoil them. -/
theorem HasAmount.append {text blanks : List Char} (has : HasAmount tables text)
    (spaces : ∀ c ∈ blanks, isSpace c = true)
    : HasAmount tables (text ++ blanks) := by
  obtain ⟨sign, blank, whole, fraction, after, split, lead, amount⟩ := has
  refine ⟨sign, blank, whole, fraction, after ++ blanks, ?_, lead, amount.wholeDecimal,
    amount.wholeBounds, amount.fractionDecimal, amount.fractionLength, ?_⟩
  · rw [split]
    simp only [List.append_assoc, List.cons_append]
  · cases after with
    | cons c after => exact amount.ends
    | nil =>
        cases blanks with
        | nil => rfl
        | cons c blanks =>
            cases word : tables.isWord c with
            | false => exact word
            | true =>
                have blank := spaces c List.mem_cons_self
                rw [tables.not_isSpace_of_word word] at blank
                cases blank

theorem amountIn_strip {line : String} (none : amountIn tables line = none)
    : amountIn tables (strip line) = .none := by
  rw [amountIn_eq_none] at none ⊢
  intro front rest split has
  obtain ⟨lead, back, whole, _, spaces⟩ := strip_split line
  refine none (lead ++ front) (rest ++ back) ?_ (has.append spaces)
  rw [whole, split, List.append_assoc, List.append_assoc]

end ReceiptOCRProcessor

end PettyFlow.Receipts
