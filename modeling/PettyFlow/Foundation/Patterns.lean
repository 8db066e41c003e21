import PettyFlow.Foundation.Texts

/-! Patterns over text that are matched by backtracking: the matches at a place come in the order
in which the matcher tries them. Repetitions are of single characters and greedy.
-/

namespace Foundation

/-- A place in a text: what stands before it, read backwards, and what follows. -/
structure Place where
  before : List Char
  rest : List Char
deriving DecidableEq

namespace Place

def start (text : List Char) : Place := ⟨[], text⟩

/-- The place after some more characters. -/
def move (count : Nat) (place : Place) : Place :=
  ⟨(place.rest.take count).reverse ++ place.before, place.rest.drop count⟩

/-- The characters between a place and a later one. -/
def upTo (place later : Place) : List Char :=
  (later.before.take (later.before.length - place.before.length)).reverse

end Place

/-- A match: the place after it, and the texts of the groups in it. -/
abbrev Match := Place × List (List Char)

inductive Pattern where
  | empty
  | run (among : Char → Bool) (least : Nat) (most : Option Nat)
  | next (first second : Pattern)
  | either (first second : Pattern)
  | group (inner : Pattern)
  | edge (isWord : Char → Bool)
  | atStart
  | atEnd

namespace Pattern

/-- One character of some. -/
def one (among : Char → Bool) : Pattern := run among 1 (some 1)

def maybe (pattern : Pattern) : Pattern := either pattern empty

/-- A word, letter by letter. -/
def word : List Char → Pattern
  | [] => empty
  | c :: rest => next (one (· = c)) (word rest)

def sequence : List Pattern → Pattern
  | [] => empty
  | pattern :: rest => next pattern (sequence rest)

/-- How many characters a run may take at most. -/
def reach (among : Char → Bool) (most : Option Nat) (rest : List Char) : Nat :=
  let available := (rest.takeWhile among).length
  match most with
  | none => available
  | some most => min available most

/-- A word begins or ends at the place. -/
def atEdge (isWord : Char → Bool) (place : Place) : Bool :=
  place.before.head?.any isWord != place.rest.head?.any isWord

/-- The matches that begin at a place, the preferred one first. -/
def results : Pattern → Place → List Match
  | empty, place => [(place, [])]
  | run among least most, place =>
      ((List.range (reach among most place.rest + 1)).drop least).reverse.map
        (fun count => (place.move count, []))
  | next a b, place =>
      (results a place).flatMap
        (fun found => (results b found.1).map (fun later => (later.1, found.2 ++ later.2)))
  | either a b, place => results a place ++ results b place
  | group inner, place =>
      (results inner place).map (fun found => (found.1, place.upTo found.1 :: found.2))
  | edge isWord, place => if atEdge isWord place then [(place, [])] else []
  | atStart, place => if place.before = [] then [(place, [])] else []
  | atEnd, place => if place.rest = [] ∨ place.rest = ['\n'] then [(place, [])] else []

/-- The preferred match at a place. -/
def matchAt (pattern : Pattern) (place : Place) : Option Match := (pattern.results place).head?

/-- The first match from a place on, with the place where it begins. -/
def searchFrom (pattern : Pattern) (before : List Char) : List Char → Option (Place × Match)
  | [] => (pattern.matchAt ⟨before, []⟩).map (⟨before, []⟩, ·)
  | c :: rest =>
      match pattern.matchAt ⟨before, c :: rest⟩ with
      | some found => some (⟨before, c :: rest⟩, found)
      | none => searchFrom pattern (c :: before) rest

def search (pattern : Pattern) (text : List Char) : Option (Place × Match) :=
  pattern.searchFrom [] text

/-! ### What a pattern means -/

/-- The matches at a place without their order. -/
def Reads : Pattern → Place → Match → Prop
  | empty, place, found => found = (place, [])
  | run among least most, place, found =>
      ∃ taken rest,
        place.rest = taken ++ rest
        ∧ (∀ c ∈ taken, among c = true)
        ∧ least ≤ taken.length
        ∧ (∀ bound ∈ most, taken.length ≤ bound)
        ∧ found = (⟨taken.reverse ++ place.before, rest⟩, [])
  | next a b, place, found =>
      ∃ middle later,
        a.Reads place middle ∧ b.Reads middle.1 later ∧ found = (later.1, middle.2 ++ later.2)
  | either a b, place, found => a.Reads place found ∨ b.Reads place found
  | group inner, place, found =>
      ∃ inside, inner.Reads place inside ∧ found = (inside.1, place.upTo inside.1 :: inside.2)
  | edge isWord, place, found => atEdge isWord place = true ∧ found = (place, [])
  | atStart, place, found => place.before = [] ∧ found = (place, [])
  | atEnd, place, found => (place.rest = [] ∨ place.rest = ['\n']) ∧ found = (place, [])

section Meanings

variable {place : Place} {found : Match}

theorem upTo_taken (place : Place) (taken rest : List Char)
    : place.upTo ⟨taken.reverse ++ place.before, rest⟩ = taken := by
  rw [Place.upTo, List.length_append, Nat.add_sub_cancel, List.take_left' rfl, List.reverse_reverse]

theorem reads_one {among : Char → Bool}
    : (one among).Reads place found
      ↔ ∃ c rest,
          place.rest = c :: rest ∧ among c = true ∧ found = (⟨c :: place.before, rest⟩, []) := by
  constructor
  · intro ⟨taken, rest, split, all, enough, bounded, same⟩
    have single := Nat.le_antisymm (bounded 1 rfl) enough
    obtain ⟨c, rfl⟩ := List.length_eq_one_iff.mp single
    exact ⟨c, rest, split, all c List.mem_cons_self, same⟩
  · intro ⟨c, rest, split, holds, same⟩
    refine ⟨[c], rest, split, ?_, le_rfl, ?_, same⟩
    · intro other member
      rwa [List.mem_singleton.mp member]
    · intro bound known
      cases known
      exact le_rfl

/-- A word is read letter by letter, by induction over the letters. -/
theorem reads_word {letters : List Char}
    : (word letters).Reads place found
      ↔ ∃ rest,
          place.rest = letters ++ rest ∧ found = (⟨letters.reverse ++ place.before, rest⟩, []) := by
  induction letters generalizing place found with
  | nil =>
      constructor
      · intro same
        exact ⟨place.rest, rfl, same⟩
      · intro ⟨rest, split, same⟩
        obtain ⟨before, tail⟩ := place
        cases split
        exact same
  | cons letter letters ih =>
      constructor
      · intro ⟨middle, later, begins, ends, same⟩
        obtain ⟨c, tail, split, holds, rfl⟩ := reads_one.mp begins
        obtain ⟨rest, split', rfl⟩ := ih.mp ends
        change tail = letters ++ rest at split'
        refine ⟨rest, ?_, ?_⟩
        · rw [split, of_decide_eq_true holds, split']
          rfl
        · rw [same, of_decide_eq_true holds, List.reverse_cons, List.append_assoc]
          rfl
      · intro ⟨rest, split, same⟩
        refine ⟨(⟨letter :: place.before, letters ++ rest⟩, []), _,
          reads_one.mpr ⟨letter, _, split, decide_eq_true rfl, rfl⟩,
          ih.mpr ⟨rest, rfl, rfl⟩, ?_⟩
        rw [same, List.reverse_cons, List.append_assoc]
        rfl

/-- A group around a run holds what the run takes. -/
theorem reads_group_run {among : Char → Bool} {least : Nat}
    : (group (run among least none)).Reads place found
      ↔ ∃ taken rest,
          place.rest = taken ++ rest
          ∧ (∀ c ∈ taken, among c = true)
          ∧ least ≤ taken.length
          ∧ found = (⟨taken.reverse ++ place.before, rest⟩, [taken]) := by
  constructor
  · intro ⟨inside, ⟨taken, rest, split, all, enough, bounded, sameInside⟩, same⟩
    refine ⟨taken, rest, split, all, enough, ?_⟩
    rw [same, sameInside, upTo_taken]
  · intro ⟨taken, rest, split, all, enough, same⟩
    refine ⟨_, ⟨taken, rest, split, all, enough, fun bound none => ?_, rfl⟩, ?_⟩
    · cases none
    rw [same, upTo_taken]

/-! A pattern that begins with a simple one. -/

variable {after : Pattern}

theorem reads_atStart_next
    : (next atStart after).Reads place found ↔ place.before = [] ∧ after.Reads place found := by
  constructor
  · intro ⟨_, _, ⟨begins, rfl⟩, ends, same⟩
    exact ⟨begins, same ▸ ends⟩
  · intro ⟨begins, ends⟩
    exact ⟨_, _, ⟨begins, rfl⟩, ends, rfl⟩

theorem reads_one_next {among : Char → Bool}
    : (next (one among) after).Reads place found
      ↔ ∃ c rest,
          place.rest = c :: rest ∧ among c = true ∧ after.Reads ⟨c :: place.before, rest⟩ found := by
  constructor
  · intro ⟨_, _, begins, ends, same⟩
    obtain ⟨c, rest, split, holds, rfl⟩ := reads_one.mp begins
    exact ⟨c, rest, split, holds, same ▸ ends⟩
  · intro ⟨c, rest, split, holds, ends⟩
    exact ⟨_, _, reads_one.mpr ⟨c, rest, split, holds, rfl⟩, ends, rfl⟩

theorem reads_word_next {letters : List Char}
    : (next (word letters) after).Reads place found
      ↔ ∃ rest,
          place.rest = letters ++ rest
          ∧ after.Reads ⟨letters.reverse ++ place.before, rest⟩ found := by
  constructor
  · intro ⟨_, _, begins, ends, same⟩
    obtain ⟨rest, split, rfl⟩ := reads_word.mp begins
    exact ⟨rest, split, same ▸ ends⟩
  · intro ⟨rest, split, ends⟩
    exact ⟨_, _, reads_word.mpr ⟨rest, split, rfl⟩, ends, rfl⟩

theorem reads_group_run_next {among : Char → Bool} {least : Nat}
    : (next (group (run among least none)) after).Reads place found
      ↔ ∃ taken rest,
          place.rest = taken ++ rest
          ∧ (∀ c ∈ taken, among c = true)
          ∧ least ≤ taken.length
          ∧ ∃ later,
              after.Reads ⟨taken.reverse ++ place.before, rest⟩ later
              ∧ found = (later.1, taken :: later.2) := by
  constructor
  · intro ⟨_, later, begins, ends, same⟩
    obtain ⟨taken, rest, split, all, enough, rfl⟩ := reads_group_run.mp begins
    exact ⟨taken, rest, split, all, enough, later, ends, same⟩
  · intro ⟨taken, rest, split, all, enough, later, ends, same⟩
    exact ⟨_, later, reads_group_run.mpr ⟨taken, rest, split, all, enough, rfl⟩, ends, same⟩

theorem reads_run_next {among : Char → Bool} {least : Nat} {most : Option Nat}
    : (next (run among least most) after).Reads place found
      ↔ ∃ taken rest,
          place.rest = taken ++ rest
          ∧ (∀ c ∈ taken, among c = true)
          ∧ least ≤ taken.length
          ∧ (∀ bound ∈ most, taken.length ≤ bound)
          ∧ after.Reads ⟨taken.reverse ++ place.before, rest⟩ found := by
  constructor
  · intro ⟨_, _, begins, ends, same⟩
    obtain ⟨taken, rest, split, all, enough, bounded, rfl⟩ := begins
    exact ⟨taken, rest, split, all, enough, bounded, same ▸ ends⟩
  · intro ⟨taken, rest, split, all, enough, bounded, ends⟩
    exact ⟨_, _, ⟨taken, rest, split, all, enough, bounded, rfl⟩, ends, rfl⟩

theorem reads_maybe_one_next {among : Char → Bool}
    : (next (maybe (one among)) after).Reads place found
      ↔ (next (one among) after).Reads place found ∨ after.Reads place found := by
  constructor
  · intro ⟨middle, later, begins, ends, same⟩
    rcases begins with taken | rfl
    · exact Or.inl ⟨middle, later, taken, ends, same⟩
    · exact Or.inr (same ▸ ends)
  · intro reads
    rcases reads with ⟨middle, later, taken, ends, same⟩ | ends
    · exact ⟨middle, later, Or.inl taken, ends, same⟩
    · exact ⟨(place, []), found, Or.inr rfl, ends, rfl⟩

theorem reads_group_next {inner : Pattern}
    : (next (group inner) after).Reads place found
      ↔ ∃ inside later,
          inner.Reads place inside
          ∧ after.Reads inside.1 later
          ∧ found = (later.1, place.upTo inside.1 :: (inside.2 ++ later.2)) := by
  constructor
  · intro ⟨_, later, ⟨inside, reads, rfl⟩, ends, same⟩
    exact ⟨inside, later, reads, ends, same⟩
  · intro ⟨inside, later, reads, ends, same⟩
    exact ⟨_, later, ⟨inside, reads, rfl⟩, ends, same⟩

theorem reads_edge_next {isWord : Char → Bool}
    : (next (edge isWord) after).Reads place found
      ↔ atEdge isWord place = true ∧ after.Reads place found := by
  constructor
  · intro ⟨_, _, ⟨bound, rfl⟩, ends, same⟩
    exact ⟨bound, same ▸ ends⟩
  · intro ⟨bound, ends⟩
    exact ⟨_, _, ⟨bound, rfl⟩, ends, rfl⟩

theorem reads_empty : empty.Reads place found ↔ found = (place, []) := Iff.rfl

end Meanings

theorem le_reach {among : Char → Bool} {most : Option Nat} {rest : List Char} {count : Nat}
    : count ≤ reach among most rest
      ↔ count ≤ (rest.takeWhile among).length ∧ ∀ bound ∈ most, count ≤ bound := by
  cases most with
  | none => simp [reach]
  | some bound => simp [reach]

/-- Some first characters are among those of a run exactly when the longest run covers them. -/
theorem le_takeWhile_iff {among : Char → Bool} {rest : List Char} {count : Nat}
    : count ≤ (rest.takeWhile among).length
      ↔ count ≤ rest.length ∧ ∀ c ∈ rest.take count, among c = true := by
  constructor
  · intro covered
    have front : rest.take count = (rest.takeWhile among).take count := by
      conv_lhs => rw [← List.takeWhile_append_dropWhile (p := among) (l := rest)]
      exact List.take_append_of_le_length covered
    refine ⟨covered.trans (List.takeWhile_prefix among).length_le, ?_⟩
    rw [front]
    intro c member
    exact List.mem_takeWhile_imp (List.mem_of_mem_take member)
  · intro ⟨short, all⟩
    have cover : rest.takeWhile among = rest.take count ++ (rest.drop count).takeWhile among := by
      conv_lhs => rw [← List.take_append_drop count rest]
      exact List.takeWhile_append_of_pos all
    rw [cover, List.length_append, List.length_take]
    omega

theorem mem_results_run {among : Char → Bool} {least : Nat} {most : Option Nat} {place : Place}
    {found : Match}
    : found ∈ (run among least most).results place ↔ (run among least most).Reads place found := by
  have counts (count : Nat)
      : count ∈ ((List.range (reach among most place.rest + 1)).drop least)
        ↔ least ≤ count ∧ count ≤ reach among most place.rest := by
    rw [List.range_eq_range', List.drop_range', List.mem_range'_1]
    omega
  simp only [results, List.mem_map, List.mem_reverse, counts, le_reach, le_takeWhile_iff, Reads]
  constructor
  · intro ⟨count, ⟨enough, ⟨short, all⟩, bounded⟩, same⟩
    have size : (place.rest.take count).length = count := by
      rw [List.length_take]
      omega
    refine ⟨place.rest.take count, place.rest.drop count, (List.take_append_drop _ _).symm, all,
      ?_, ?_, same.symm⟩
    · rwa [size]
    · rwa [size]
  · intro ⟨taken, rest, split, all, enough, bounded, same⟩
    refine ⟨taken.length, ⟨enough, ⟨?_, ?_⟩, bounded⟩, ?_⟩
    · rw [split, List.length_append]
      omega
    · rw [split, List.take_left']
      · exact all
      · rfl
    · rw [same, Place.move, split, List.take_left' rfl, List.drop_left' rfl]

/-- The matcher finds the matches that the pattern means and no others, by induction over the
pattern.
-/
theorem mem_results {pattern : Pattern} {place : Place} {found : Match}
    : found ∈ pattern.results place ↔ pattern.Reads place found := by
  induction pattern generalizing place found with
  | empty => exact List.mem_singleton
  | run among least most => exact mem_results_run
  | next a b firstMeans secondMeans =>
      simp only [results, Reads, List.mem_flatMap, List.mem_map, firstMeans, secondMeans]
      constructor
      · intro ⟨middle, begins, later, ends, same⟩
        exact ⟨middle, later, begins, ends, same.symm⟩
      · intro ⟨middle, later, begins, ends, same⟩
        exact ⟨middle, begins, later, ends, same.symm⟩
  | either a b firstMeans secondMeans =>
      simp only [results, Reads, List.mem_append, firstMeans, secondMeans]
  | group inner means =>
      simp only [results, Reads, List.mem_map, means, eq_comm]
  | edge isWord =>
      by_cases holds : atEdge isWord place = true <;> simp [results, Reads, holds]
  | atStart =>
      by_cases holds : place.before = [] <;> simp [results, Reads, holds]
  | atEnd =>
      by_cases holds : place.rest = [] ∨ place.rest = ['\n'] <;> simp [results, Reads, holds]

theorem matchAt_eq_none {pattern : Pattern} {place : Place}
    : pattern.matchAt place = none ↔ ∀ found, ¬ pattern.Reads place found := by
  rw [matchAt, List.head?_eq_none_iff, List.eq_nil_iff_forall_not_mem]
  exact forall_congr' (fun _ => not_congr mem_results)

theorem reads_of_matchAt {pattern : Pattern} {place : Place} {found : Match}
    (matched : pattern.matchAt place = some found)
    : pattern.Reads place found :=
  mem_results.mp (List.mem_of_head? matched)

/-! ### Search -/

/-- The search passes the places where nothing matches, by induction over what it passes. -/
theorem searchFrom_append {pattern : Pattern} {front before text : List Char}
    (passed
      : ∀ first c later,
          front = first ++ c :: later
          → pattern.matchAt ⟨first.reverse ++ before, c :: (later ++ text)⟩ = none)
    : pattern.searchFrom before (front ++ text)
      = pattern.searchFrom (front.reverse ++ before) text := by
  induction front generalizing before with
  | nil => rfl
  | cons c front ih =>
      have here := passed [] c front rfl
      rw [List.cons_append, searchFrom, show pattern.matchAt ⟨before, c :: (front ++ text)⟩ = none
        from here]
      dsimp only
      rw [ih, List.reverse_cons, List.append_assoc]
      · rfl
      · intro first d later split
        have next := passed (c :: first) d later (by rw [split, List.cons_append])
        rwa [List.reverse_cons, List.append_assoc] at next

/-- A search passes a part of the text, or it ends at a place in this part. -/
theorem searchFrom_cases (pattern : Pattern) (before front text : List Char)
    : pattern.searchFrom before (front ++ text)
        = pattern.searchFrom (front.reverse ++ before) text
      ∨ ∃ first c later found,
          front = first ++ c :: later
          ∧ pattern.matchAt ⟨first.reverse ++ before, c :: (later ++ text)⟩ = some found
          ∧ pattern.searchFrom before (front ++ text)
            = some (⟨first.reverse ++ before, c :: (later ++ text)⟩, found) := by
  induction front generalizing before with
  | nil => exact Or.inl rfl
  | cons c front ih =>
      rw [List.cons_append, searchFrom]
      cases matched : pattern.matchAt ⟨before, c :: (front ++ text)⟩ with
      | some found => exact Or.inr ⟨[], c, front, found, rfl, matched, rfl⟩
      | none =>
          rw [List.reverse_cons, List.append_assoc]
          rcases ih (c :: before) with passed | ⟨first, d, later, found, split, here, searched⟩
          · exact Or.inl passed
          · refine Or.inr ⟨c :: first, d, later, found, ?_, ?_, ?_⟩
            · rw [split, List.cons_append]
            · rwa [List.reverse_cons, List.append_assoc]
            · rwa [List.reverse_cons, List.append_assoc]

theorem searchFrom_here {pattern : Pattern} {before text : List Char} {found : Match}
    (matched : pattern.matchAt ⟨before, text⟩ = some found)
    : pattern.searchFrom before text = some (⟨before, text⟩, found) := by
  cases text with
  | nil => rw [searchFrom, matched, Option.map_some]
  | cons c rest => rw [searchFrom, matched]

/-- A search finds nothing exactly if nothing matches at any place. -/
theorem searchFrom_eq_none {pattern : Pattern} {before text : List Char}
    : pattern.searchFrom before text = none
      ↔ ∀ front rest,
          text = front ++ rest → pattern.matchAt ⟨front.reverse ++ before, rest⟩ = none := by
  induction text generalizing before with
  | nil =>
      rw [searchFrom, Option.map_eq_none_iff]
      constructor
      · intro none front rest split
        obtain ⟨rfl, rfl⟩ := List.append_eq_nil_iff.mp split.symm
        exact none
      · intro all
        exact all [] [] rfl
  | cons c text ih =>
      rw [searchFrom]
      constructor
      · intro none front rest split
        cases matched : pattern.matchAt ⟨before, c :: text⟩ with
        | some found => simp [matched] at none
        | none =>
            rw [matched] at none
            cases front with
            | nil =>
                cases split
                exact matched
            | cons d front =>
                obtain ⟨rfl, tails⟩ := List.cons.inj split
                rw [List.reverse_cons, List.append_assoc]
                exact ih.mp none front rest tails
      · intro all
        rw [show pattern.matchAt ⟨before, c :: text⟩ = none from all [] (c :: text) rfl]
        refine ih.mpr (fun front rest split => ?_)
        have next := all (c :: front) rest (by rw [split, List.cons_append])
        rwa [List.reverse_cons, List.append_assoc] at next

/-- What a search finds is a match at the place where it begins. -/
theorem matchAt_of_searchFrom {pattern : Pattern} {before text : List Char} {start : Place}
    {found : Match} (searched : pattern.searchFrom before text = some (start, found))
    : ∃ front,
        text = front ++ start.rest
        ∧ start.before = front.reverse ++ before
        ∧ pattern.matchAt start = some found := by
  induction text generalizing before with
  | nil =>
      obtain ⟨found, matched, same⟩ := Option.map_eq_some_iff.mp searched
      cases same
      exact ⟨[], rfl, rfl, matched⟩
  | cons c text ih =>
      rw [searchFrom] at searched
      cases matched : pattern.matchAt ⟨before, c :: text⟩ with
      | some other =>
          rw [matched] at searched
          cases searched
          exact ⟨[], rfl, rfl, matched⟩
      | none =>
          rw [matched] at searched
          obtain ⟨front, split, behind, matches'⟩ := ih searched
          refine ⟨c :: front, ?_, ?_, matches'⟩
          · rw [split, List.cons_append]
          · rw [behind, List.reverse_cons, List.append_assoc]
            rfl

end Pattern

end Foundation
