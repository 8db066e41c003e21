import Mathlib

/-! Texts joined with a separator: what can be read back from them, and what cannot when the
parts may contain the separator.
-/

namespace Foundation

variable {β : Type}

/-- Parts free of the separator are read back from the first separator on. -/
theorem split_first {bar : β} {first first' rest rest' : List β} (clean : bar ∉ first)
    (clean' : bar ∉ first') (same : first ++ bar :: rest = first' ++ bar :: rest')
    : first = first' ∧ rest = rest' := by
  induction first generalizing first' with
  | nil =>
      cases first' with
      | nil => exact ⟨rfl, (List.cons.inj same).2⟩
      | cons head tail =>
          obtain ⟨rfl, _⟩ := List.cons.inj same
          exact absurd List.mem_cons_self clean'
  | cons head tail ih =>
      cases first' with
      | nil =>
          obtain ⟨rfl, _⟩ := List.cons.inj same
          exact absurd List.mem_cons_self clean
      | cons head' tail' =>
          obtain ⟨rfl, tails⟩ := List.cons.inj same
          obtain ⟨rfl, rests⟩ := ih (fun member => clean (List.mem_cons_of_mem _ member))
            (fun member => clean' (List.mem_cons_of_mem _ member)) tails
          exact ⟨rfl, rests⟩

/-- Parts free of the separator are read back from the last separator on. -/
theorem split_last {bar : β} {first first' rest rest' : List β} (clean : bar ∉ rest)
    (clean' : bar ∉ rest') (same : first ++ bar :: rest = first' ++ bar :: rest')
    : first = first' ∧ rest = rest' := by
  have reversed
      : rest.reverse ++ bar :: first.reverse = rest'.reverse ++ bar :: first'.reverse := by
    simpa using congrArg List.reverse same
  obtain ⟨rests, firsts⟩ :=
    split_first (by simpa using clean) (by simpa using clean') reversed
  exact ⟨List.reverse_inj.mp firsts, List.reverse_inj.mp rests⟩

/-- Where a run of some kind ends is determined. -/
theorem split_run {kind : β → Bool} {run run' rest rest' : List β}
    (all : ∀ x ∈ run, kind x = true) (all' : ∀ x ∈ run', kind x = true)
    (ends : ∀ x ∈ rest.head?, kind x = false) (ends' : ∀ x ∈ rest'.head?, kind x = false)
    (same : run ++ rest = run' ++ rest')
    : run = run' ∧ rest = rest' := by
  have cut {run rest : List β} (all : ∀ x ∈ run, kind x = true)
      (ends : ∀ x ∈ rest.head?, kind x = false)
      : (run ++ rest).takeWhile kind = run := by
    rw [List.takeWhile_append_of_pos all]
    cases rest with
    | nil => exact List.append_nil run
    | cons x rest => rw [List.takeWhile_cons_of_neg (by simp [ends x rfl]), List.append_nil]
  have runs := congrArg (List.takeWhile kind) same
  rw [cut all ends, cut all' ends'] at runs
  subst runs
  exact ⟨rfl, List.append_cancel_left same⟩

/-- Where a last run of some kind begins is determined. -/
theorem split_last_run {kind : β → Bool} {run run' front front' : List β}
    (all : ∀ x ∈ run, kind x = true) (all' : ∀ x ∈ run', kind x = true)
    (begins : ∀ x ∈ front.getLast?, kind x = false)
    (begins' : ∀ x ∈ front'.getLast?, kind x = false) (same : front ++ run = front' ++ run')
    : front = front' ∧ run = run' := by
  have reversed : run.reverse ++ front.reverse = run'.reverse ++ front'.reverse := by
    simpa using congrArg List.reverse same
  obtain ⟨runs, fronts⟩ := @split_run β kind run.reverse run'.reverse front.reverse front'.reverse
    (by simpa using all) (by simpa using all') (by simpa using begins) (by simpa using begins')
    reversed
  exact ⟨List.reverse_inj.mp fronts, List.reverse_inj.mp runs⟩

/-- Of two ways to cut a text at a separator, the one with no more separators before the
cut cuts no later.
-/
theorem cut_no_later [BEq β] [LawfulBEq β] {bar : β} {first first' rest rest' : List β}
    (fewer : first.count bar ≤ first'.count bar)
    (same : first ++ bar :: rest = first' ++ bar :: rest')
    : (first = first' ∧ rest = rest')
      ∨ ∃ between, first' = first ++ bar :: between ∧ rest = between ++ bar :: rest' := by
  rcases List.append_eq_append_iff.mp same with ⟨extra, longer, tail⟩ | ⟨extra, longer, tail⟩
  · cases extra with
    | nil =>
        rw [List.append_nil] at longer
        exact Or.inl ⟨longer.symm, (List.cons.inj tail).2⟩
    | cons head between =>
        obtain ⟨rfl, rests⟩ := List.cons.inj tail
        exact Or.inr ⟨between, longer, rests⟩
  · cases extra with
    | nil =>
        rw [List.append_nil] at longer
        exact Or.inl ⟨longer, (List.cons.inj tail).2.symm⟩
    | cons head between =>
        obtain ⟨rfl, _⟩ := List.cons.inj tail
        rw [longer, List.count_append, List.count_cons_self] at fewer
        omega

/-- A join of nonempty parts free of the separator determines the parts. -/
theorem join_injective [DecidableEq β] {sep : β} {parts parts' : List (List β)}
    (clean : ∀ part ∈ parts, part ≠ [] ∧ sep ∉ part)
    (clean' : ∀ part ∈ parts', part ≠ [] ∧ sep ∉ part)
    (same : [sep].intercalate parts = [sep].intercalate parts')
    : parts = parts' := by
  have readBack (list : List (List β)) (free : ∀ part ∈ list, part ≠ [] ∧ sep ∉ part)
      (some : list ≠ [])
      : ([sep].intercalate list).splitOn sep = list :=
    List.splitOn_intercalate sep (fun part member => (free part member).2) some
  have blank (list : List (List β)) (free : ∀ part ∈ list, part ≠ [] ∧ sep ∉ part)
      (empty : [sep].intercalate list = [])
      : list = [] := by
    by_contra some
    have back := readBack list free some
    rw [empty, List.splitOn_nil] at back
    rw [← back] at free
    exact (free [] List.mem_cons_self).1 rfl
  cases parts with
  | nil => exact (blank parts' clean' same.symm).symm
  | cons head tail =>
      cases parts' with
      | nil => exact blank (head :: tail) clean same
      | cons head' tail' =>
          rw [← readBack _ clean (List.cons_ne_nil _ _),
            ← readBack _ clean' (List.cons_ne_nil _ _), same]

/-- Two neighbouring parts can be joined beforehand, by induction over the parts before. -/
theorem join_merge (sep : β) (before after : List (List β)) (first second : List β)
    : [sep].intercalate (before ++ first :: second :: after)
      = [sep].intercalate (before ++ (first ++ sep :: second) :: after) := by
  induction before with
  | nil =>
      cases after with
      | nil => simp [List.intercalate_cons_cons]
      | cons next rest => simp [List.intercalate_cons_cons]
  | cons head tail ih =>
      rw [List.cons_append, List.cons_append,
        List.intercalate_cons_of_ne_nil (by simp), List.intercalate_cons_of_ne_nil (by simp), ih]

/-- The parts of a text lie between separators or the ends of the text. -/
theorem mem_splitOn_iff [BEq β] [LawfulBEq β] {sep : β} {part text : List β}
    : part ∈ text.splitOn sep
      ↔ sep ∉ part
        ∧ ∃ before after,
            text = before ++ (part ++ after)
            ∧ (∀ x ∈ before.getLast?, x = sep)
            ∧ ∀ x ∈ after.head?, x = sep := by
  constructor
  · induction size : text.length using Nat.strong_induction_on generalizing text with
    | _ n ih =>
        intro member
        by_cases present : sep ∈ text
        · obtain ⟨first, rest, rfl, clean⟩ := List.eq_append_cons_of_mem present
          rw [List.splitOn_append_cons_self_of_not_mem clean] at member
          rcases List.mem_cons.mp member with rfl | later
          · exact ⟨clean, [], sep :: rest, rfl, by simp, by simp⟩
          · rw [List.length_append, List.length_cons] at size
            obtain ⟨free, before, after, split, last, next⟩ := ih rest.length (by omega) rfl later
            refine ⟨free, first ++ sep :: before, after, ?_, ?_, next⟩
            · rw [split, List.append_assoc, List.cons_append]
            · cases before with
              | nil => simp
              | cons x before =>
                  rw [List.getLast?_append, List.getLast?_cons_cons]
                  intro y member
                  refine last y ?_
                  cases known : (x :: before).getLast? with
                  | none => simp at known
                  | some z => rwa [known] at member
        · rw [List.splitOn_eq_singleton present, List.mem_singleton] at member
          subst member
          exact ⟨present, [], [], by simp, by simp, by simp⟩
  · intro ⟨clean, before, after, split, last, next⟩
    have ends : part ∈ (part ++ after).splitOn sep := by
      cases after with
      | nil =>
          rw [List.append_nil, List.splitOn_eq_singleton clean]
          exact List.mem_singleton_self part
      | cons x after =>
          obtain rfl := next x rfl
          rw [List.splitOn_append_cons_self_of_not_mem clean]
          exact List.mem_cons_self
    rcases List.eq_nil_or_concat' before with rfl | ⟨start, x, rfl⟩
    · rwa [split]
    · obtain rfl := last x (by simp)
      rw [split, List.append_assoc, List.singleton_append, List.splitOn_append_cons_self]
      exact List.mem_append_right _ ends

/-- Around letters without a separator lies the part that they are in. -/
theorem exists_part_around [BEq β] [LawfulBEq β] {sep : β}
    {front middle back : List β} (clean : sep ∉ middle)
    : ∃ before lead trail behind,
        front = before ++ lead
        ∧ back = trail ++ behind
        ∧ lead ++ (middle ++ trail) ∈ (front ++ (middle ++ back)).splitOn sep := by
  let other (x : β) : Bool := x != sep
  refine ⟨front.rdropWhile other, front.rtakeWhile other, back.takeWhile other,
    back.dropWhile other, List.rdropWhile_append_rtakeWhile.symm,
    List.takeWhile_append_dropWhile.symm, mem_splitOn_iff.mpr ⟨?_, front.rdropWhile other,
      back.dropWhile other, ?_, ?_, ?_⟩⟩
  · simp only [List.mem_append, not_or]
    refine ⟨fun member => ?_, clean, fun member => ?_⟩
    · simpa [other] using List.mem_rtakeWhile_imp member
    · simpa [other] using List.mem_takeWhile_imp member
  · conv_lhs =>
      rw [← List.rdropWhile_append_rtakeWhile (p := other) (l := front),
        ← List.takeWhile_append_dropWhile (p := other) (l := back)]
    simp only [List.append_assoc]
  · intro x last
    have filled := List.ne_nil_of_mem (List.mem_of_mem_getLast? last)
    have bound := List.rdropWhile_last_not other front filled
    rw [List.getLast?_eq_some_getLast filled, Option.mem_some_iff] at last
    rw [last] at bound
    simpa [other] using bound
  · intro x first
    have bound := List.head?_dropWhile_not other back
    rw [first] at bound
    simpa [other] using bound

/-- A text comes apart at the same places when each of its letters is replaced by its own. -/
theorem splitOn_map {γ : Type} [BEq β] [LawfulBEq β] [BEq γ] [LawfulBEq γ] {f : β → γ}
    (injective : Function.Injective f) (bar : β) (text : List β)
    : (text.map f).splitOn (f bar) = (text.splitOn bar).map (List.map f) := by
  unfold List.splitOn
  induction text with
  | nil => rfl
  | cons head rest ih =>
      have same : (f head == f bar) = (head == bar) := by
        rw [Bool.eq_iff_iff, beq_iff_eq, beq_iff_eq]
        exact injective.eq_iff
      rw [List.map_cons, List.splitOnP_cons_eq_if_modifyHead,
        List.splitOnP_cons_eq_if_modifyHead, same, ih]
      split
      · rfl
      · cases List.splitOnP (fun c => c == bar) rest <;> rfl

end Foundation
