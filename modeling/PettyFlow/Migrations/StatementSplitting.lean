import PettyFlow.Migrations.LineReading

/-! When the statements that are executed for a migration script are the ones it spells. Line by
line, the text of the group that is being gathered is read beside the script.
-/

namespace PettyFlow.Migrations

open Foundation Sql

section Lines

variable (newlines : Newlines)

/-! ### Lines and groups as they are read -/

/-- A line of a script is read before its break, and its break before the next line. -/
theorem read_line {line : ScriptLine} (proper : line.Proper) (s : Reader) (later : List Char)
    : tokens newlines.ends s (line.full ++ later)
        = tokens newlines.ends s line.text
          ++ (tokens newlines.ends (Sql.after newlines.ends s line.text) line.ending
            ++ tokens newlines.ends (Sql.after newlines.ends s line.full) later)
      ∧ Sql.after newlines.ends s (line.full ++ later)
        = Sql.after newlines.ends (Sql.after newlines.ends s line.full) later
      ∧ Sql.after newlines.ends s line.full
        = Sql.after newlines.ends (Sql.after newlines.ends s line.text) line.ending := by
  have noDash : '-' ∉ line.ending :=
    fun dash => ne_of_isLineBreak (proper.breaks _ dash) rfl rfl
  have first : line.ending.head? ≠ some '-' := fun dash => noDash (List.mem_of_head? dash)
  have last : line.full.getLast? ≠ some '-' := by
    rw [ScriptLine.full, List.getLast?_append_of_ne_nil _ proper.ending_ne_nil]
    exact fun dash => noDash (List.mem_of_getLast? dash)
  obtain ⟨read, led⟩ := @read_append newlines.ends line.text line.ending (fun _ => first) s
  obtain ⟨reads, leads⟩ :=
    @read_append newlines.ends line.full later (fun dash => absurd dash last) s
  rw [reads, leads, ← List.append_assoc, ← read]
  exact ⟨rfl, rfl, led⟩

theorem textOf_cons (line : ScriptLine) (rest : List ScriptLine)
    : textOf (line :: rest) = line.full ++ textOf rest :=
  List.flatMap_cons

/-- Another line of a group is read behind the earlier ones. -/
theorem read_group (current : List (List Char)) (text : List Char)
    : tokens newlines.ends (.code .start) (groupText current ++ text)
        = tokens newlines.ends (.code .start) (groupText current)
          ++ tokens newlines.ends (Sql.after newlines.ends (.code .start) (groupText current)) text
      ∧ Sql.after newlines.ends (.code .start) (groupText current ++ text)
        = Sql.after newlines.ends (Sql.after newlines.ends (.code .start) (groupText current))
            text := by
  refine read_append (fun dash => ?_) _
  rcases List.eq_nil_or_concat current with rfl | ⟨front, line, rfl⟩
  · cases dash
  · rw [List.concat_eq_append, groupText, List.flatMap_append, List.flatMap_singleton,
      ← List.append_assoc, List.getLast?_concat] at dash
    cases dash

theorem groupText_concat (current : List (List Char)) (line : List Char)
    : groupText (current ++ [line]) = groupText current ++ (line ++ ['\n']) := by
  rw [groupText, List.flatMap_append, List.flatMap_singleton, groupText]

theorem groupText_append_cons (current more : List (List Char)) (line : List Char)
    : groupText (current ++ line :: more)
        = groupText current ++ (line ++ '\n' :: groupText more) := by
  rw [groupText, List.flatMap_append, List.flatMap_cons, ← groupText, ← groupText,
    List.append_assoc, List.singleton_append]

/-- The first group goes on with kept lines. -/
theorem first_group (current : List (List Char)) (lines : List ScriptLine)
    : ∃ more groups,
        groupsFrom current lines = (current ++ more) :: groups
        ∧ ∀ first ∈ more.head?, ∃ line ∈ lines, first = line.text ∧ ¬ Dropped line.text := by
  induction lines generalizing current with
  | nil =>
      refine ⟨[], [], by rw [groupsFrom, List.append_nil], fun first begins => ?_⟩
      cases begins
  | cons line rest ih =>
      rw [groupsFrom]
      by_cases dropped : Dropped line.text
      · rw [if_pos dropped]
        obtain ⟨more, groups, split, first⟩ := ih current
        refine ⟨more, groups, split, fun text begins => ?_⟩
        obtain ⟨found, listed, same⟩ := first text begins
        exact ⟨found, List.mem_cons_of_mem _ listed, same⟩
      · have here : ∀ more, ∀ first ∈ (line.text :: more).head?,
            ∃ found ∈ line :: rest, first = found.text ∧ ¬ Dropped found.text := by
          intro more first begins
          exact ⟨line, List.mem_cons_self, (Option.some.inj begins).symm, dropped⟩
        rw [if_neg dropped]
        by_cases ends : EndsStatement line.text
        · rw [if_pos ends]
          exact ⟨[line.text], groupsFrom [] rest, rfl, here []⟩
        · rw [if_neg ends]
          obtain ⟨more, groups, split, _⟩ := ih (current ++ [line.text])
          exact ⟨line.text :: more, groups, by rw [split]; simp, here more⟩

variable {newlines} in
/-- A group that begins as another statement goes on with what the script goes on with. -/
theorem opening_of_holds {group : List (List Char)} {groups : List (List (List Char))}
    {read rest later : List Token}
    (holds : GroupsHold newlines.ends (group :: groups) (statementsOf [] (read ++ later)))
    (shape : Phase.opened.Shape read)
    (reads : tokens newlines.ends (.code .start) (groupText group) = read ++ rest)
    : opening rest = opening later := by
  obtain ⟨none, filled⟩ := shape
  have same := holds.2
  rw [List.flatMap_cons, statements, reads, statementsOf_append, statementsOf_append, none,
    List.nil_append, List.nil_append, statementsOf_opening, statementsOf_opening _ later,
    whole_of_ne (List.append_ne_nil_of_left_ne_nil filled _),
    whole_of_ne (List.append_ne_nil_of_left_ne_nil filled _), List.append_assoc] at same
  exact List.append_cancel_left (List.cons.inj same).1

/-- A group that ends holds its statement, and the other groups the rest, exactly if the script
does not go on with the statement.
-/
theorem holds_flush {p : Phase} {group : List (List Char)} {groups : List (List (List Char))}
    {read rest : List Token} (shape : p.Shape read) (current : p ≠ .stale)
    (reads : tokens newlines.ends (.code .start) (groupText group) = read)
    (closed : Closed newlines.ends (groupText group))
    : GroupsHold newlines.ends (group :: groups) (statementsOf [] (read ++ rest))
      ↔ GroupsHold newlines.ends groups (statementsOf [] rest)
        ∧ (p.flush = .stale → opening rest = []) := by
  have short : (statements newlines.ends (groupText group)).length ≤ 1 := by
    rw [statements, reads]
    exact Phase.shape_statements shape
  rw [GroupsHold, GroupsHold, List.forall_mem_cons, List.flatMap_cons, statements, reads,
    Phase.flush_iff shape current]
  constructor
  · rintro ⟨⟨_, others⟩, same, ended⟩
    exact ⟨⟨others, same⟩, ended⟩
  · rintro ⟨⟨others, same⟩, ended⟩
    exact ⟨⟨⟨closed, reads ▸ short⟩, others⟩, same, ended⟩

/-! ### Scripts that are executed exactly -/

/-- Lines that begin within a comment, behind a break that does not end it, are dropped. -/
def CommentsDropped (s : Reader) : List ScriptLine → Prop
  | [] => True
  | line :: rest =>
      (InComment s → Dropped line.text)
      ∧ CommentsDropped (Sql.after newlines.ends s line.full) rest

instance decidableCommentsDropped (s : Reader)
    : (lines : List ScriptLine) → Decidable (CommentsDropped newlines s lines)
  | [] => isTrue trivial
  | _ :: rest => @instDecidableAnd _ _ _ (decidableCommentsDropped _ rest)

/-- No dropped line begins within a literal. No line that ends within one ends in a semicolon, or in
another break than a line feed. No statement begins behind another one before a line ends in a
semicolon, and none goes on behind a line that does.
-/
def WellLaid (p : Phase) (s : Reader) : List ScriptLine → Prop
  | [] => True
  | line :: rest =>
      if Dropped line.text then
        s.Outside ∧ WellLaid p (Sql.after newlines.ends s line.full) rest
      else
        match p.advance (tokens newlines.ends s line.text) with
        | none => False
        | some next =>
            if (Sql.after newlines.ends s line.text).Outside then
              WellLaid (if EndsStatement line.text then next.flush else next)
                (Sql.after newlines.ends s line.full) rest
            else
              ¬ EndsStatement line.text
              ∧ line.ending = ['\n']
              ∧ WellLaid next (Sql.after newlines.ends s line.full) rest

/-- Where the script and its group are between lines. -/
structure Agree (p : Phase) (s : Reader) (current : List (List Char)) : Prop where
  group : Sql.after newlines.ends (.code .start) (groupText current) = p.groupReader s
  shape : p.Shape (tokens newlines.ends (.code .start) (groupText current))
  between : p.Between s

/-- The groups of the rest of a script hold what is left of it. -/
def HoldsRest (p : Phase) (s : Reader) (current : List (List Char)) (lines : List ScriptLine)
    : Prop :=
  GroupsHold newlines.ends (groupsFrom current lines)
    (statementsOf []
      (tokens newlines.ends (.code .start) (groupText current)
        ++ tokens newlines.ends s (textOf lines)))
  ∧ (p = .stale → opening (tokens newlines.ends s (textOf lines)) = [])

variable {newlines} {p : Phase} {s : Reader} {current : List (List Char)}

theorem Phase.groupReader_outside (outside : s.Outside) : (p.groupReader s).Outside := by
  cases s with
  | code gap => trivial
  | comment gap => trivial
  | quoted mark => exact outside.elim

theorem groupReader_of_outside (outside : s.Outside) : p.groupReader s = .code p.groupGap := by
  cases s with
  | code gap => rfl
  | comment gap => rfl
  | quoted mark => exact outside.elim

theorem holds_nil (agree : Agree newlines p s current) (outside : s.Outside)
    : HoldsRest newlines p s current [] := by
  have closed : Closed newlines.ends (groupText current) := by
    rw [Closed, agree.group]
    exact Phase.groupReader_outside outside
  refine ⟨⟨?_, ?_⟩, fun _ => rfl⟩
  · rw [groupsFrom]
    exact List.forall_mem_singleton.mpr ⟨closed, Phase.shape_statements agree.shape⟩
  · rw [groupsFrom, List.flatMap_singleton, textOf, List.flatMap_nil, tokens, List.append_nil,
      statements]

/-- A dropped line that begins within a literal is missed. -/
theorem dropped_in_literal {mark : Mark} {line : ScriptLine} {rest : List ScriptLine}
    (agree : Agree newlines p (.quoted mark) current)
    (proper : ∀ found ∈ line :: rest, found.Proper) (dropped : Dropped line.text)
    : ¬ HoldsRest newlines p (.quoted mark) current (line :: rest) := by
  rintro ⟨holds, _⟩
  obtain rfl : p = .opened := agree.between
  rw [groupsFrom, if_pos dropped] at holds
  obtain ⟨more, groups, split, begins⟩ := first_group current rest
  rw [split] at holds
  have group : Sql.after newlines.ends (.code .start) (groupText current) = .quoted mark :=
    agree.group
  cases more with
  | nil =>
      have closed := (holds.1 _ List.mem_cons_self).1
      rw [List.append_nil, Closed, group] at closed
      exact closed
  | cons text more =>
      obtain ⟨found, listed, rfl, kept⟩ := begins text rfl
      have reads := (read_group newlines current (found.text ++ '\n' :: groupText more)).1
      rw [← groupText_append_cons, group] at reads
      have same := opening_of_holds holds agree.shape reads
      obtain ⟨ending, tail, ended⟩ :=
        List.exists_cons_of_ne_nil (proper line List.mem_cons_self).ending_ne_nil
      have breaks : isLineBreak ending = true := by
        apply (proper line List.mem_cons_self).breaks
        rw [ended]
        exact List.mem_cons_self
      have full : textOf (line :: rest) = line.text ++ ending :: (tail ++ textOf rest) := by
        rw [textOf, List.flatMap_cons, ← textOf, ScriptLine.full, ended]
        simp
      rw [full] at same
      exact kept_of_opening newlines (proper line List.mem_cons_self).unbroken
        (proper found (List.mem_cons_of_mem _ listed)).unbroken breaks rfl same.symm kept dropped

section Kept

variable {line : ScriptLine} {rest : List ScriptLine} {next : Phase}

/-- What has been read of a group behind a kept line that it reads like the script. -/
theorem read_current (agree : Agree newlines p s current)
    (alike : ReadAlike newlines p s line.text)
    (later : List Char)
    : tokens newlines.ends (.code .start) (groupText current ++ (line.text ++ '\n' :: later))
        = tokens newlines.ends (.code .start) (groupText current)
          ++ (tokens newlines.ends s line.text
            ++ tokens newlines.ends (Sql.after newlines.ends s line.text) ('\n' :: later))
      ∧ Sql.after newlines.ends (.code .start) (groupText current ++ (line.text ++ '\n' :: later))
        = Sql.after newlines.ends (Sql.after newlines.ends s line.text) ('\n' :: later) := by
  obtain ⟨read, led⟩ := read_group newlines current (line.text ++ '\n' :: later)
  have apart : line.text.getLast? = some '-' → ('\n' :: later).head? ≠ some '-' := by
    intro _ same
    cases same
  obtain ⟨reads, leads⟩ :=
    @read_append newlines.ends line.text ('\n' :: later) apart (p.groupReader s)
  rw [read, led, agree.group, reads, leads, alike.tokens, alike.after]
  exact ⟨rfl, rfl⟩

theorem opening_of_stop (proper : line.Proper) (alike : ReadAlike newlines p s line.text)
    (stale : p = .stale)
    : opening (tokens newlines.ends s (textOf (line :: rest))) = [] := by
  have isStop := alike.stop stale
  rw [textOf_cons, (read_line newlines proper s (textOf rest)).1]
  cases first : tokens newlines.ends s line.text with
  | nil => exact absurd first alike.nonempty
  | cons token later =>
      rw [first] at isStop
      cases isStop
      rfl

/-- A kept line at which no phase follows gives a group two statements. -/
theorem holds_stuck (agree : Agree newlines p s current) (kept : ¬ Dropped line.text)
    (alike : ReadAlike newlines p s line.text)
    (stuck : p.advance (tokens newlines.ends s line.text) = none)
    : ¬ HoldsRest newlines p s current (line :: rest) := by
  rintro ⟨holds, _⟩
  have first : ∃ more groups,
      groupsFrom current (line :: rest) = (current ++ line.text :: more) :: groups := by
    rw [groupsFrom, if_neg kept]
    split
    · exact ⟨[], _, rfl⟩
    · obtain ⟨more, groups, split, _⟩ := first_group (current ++ [line.text]) rest
      exact ⟨more, groups, by rw [split, List.append_assoc, List.singleton_append]⟩
  obtain ⟨more, groups, split⟩ := first
  rw [split] at holds
  have single := (holds.1 _ List.mem_cons_self).2
  rw [groupText_append_cons, statements, (read_current agree alike _).1] at single
  exact absurd ((Phase.two_statements agree.shape alike.stop stuck _).trans single) (by decide)

/-- A kept line that does not end within a literal, and at which its group ends or goes on. -/
theorem holds_outside (agree : Agree newlines p s current) (proper : line.Proper)
    (kept : ¬ Dropped line.text)
    (alike : ReadAlike newlines p s line.text)
    (leads : p.advance (tokens newlines.ends s line.text) = some next)
    (outside : (Sql.after newlines.ends s line.text).Outside)
    : ∃ current',
        Agree newlines (if EndsStatement line.text then next.flush else next)
          (Sql.after newlines.ends s line.full) current'
        ∧ (HoldsRest newlines p s current (line :: rest)
          ↔ HoldsRest newlines (if EndsStatement line.text then next.flush else next)
            (Sql.after newlines.ends s line.full) current' rest) := by
  have within := within_after newlines agree.between.within leads
  have notStale := Phase.advance_ne_stale alike.nonempty leads
  have shape := Phase.shape_advance agree.shape leads
  obtain ⟨none, feed⟩ := read_feed newlines within outside notStale
  obtain ⟨gap, between, stays⟩ := read_break newlines within outside proper
  obtain ⟨script, _, full⟩ := read_line newlines proper s (textOf rest)
  obtain ⟨read, led⟩ := read_current agree alike []
  rw [← groupText_concat] at read led
  rw [none, List.append_nil] at read
  rw [feed] at led
  rw [gap, List.nil_append, ← textOf_cons] at script
  rw [← full] at between stays
  have opens : p = .stale → opening (tokens newlines.ends s (textOf (line :: rest))) = [] :=
    opening_of_stop proper alike
  by_cases ends : EndsStatement line.text
  · have closed : Closed newlines.ends (groupText (current ++ [line.text])) := by
      rw [Closed, led]
      trivial
    refine ⟨[], ⟨?_, ?_, ?_⟩, ?_⟩
    · rw [if_pos ends, groupReader_of_outside stays, Phase.flush_groupGap]
      rfl
    · rw [if_pos ends]
      exact Phase.flush_shape next
    · rw [if_pos ends]
      exact Phase.flush_between between stays
    · rw [if_pos ends, HoldsRest, HoldsRest, groupsFrom, if_neg kept, if_pos ends, script,
        ← List.append_assoc, holds_flush newlines shape notStale read closed, ← script]
      exact and_iff_left opens
  · refine ⟨current ++ [line.text], ⟨?_, ?_, ?_⟩, ?_⟩
    · rw [if_neg ends, led, groupReader_of_outside stays]
    · rw [if_neg ends, read]
      exact shape
    · rw [if_neg ends]
      exact between
    · rw [if_neg ends, HoldsRest, HoldsRest, groupsFrom, if_neg kept, if_neg ends, read, script,
        List.append_assoc, ← script]
      exact and_congr_right fun _ => iff_of_true opens (fun stale => absurd stale notStale)

section Literal

variable {mark : Mark}

/-- What has been read of a group behind a line that ends within a literal. -/
theorem read_literal (agree : Agree newlines p s current)
    (alike : ReadAlike newlines p s line.text)
    (inside : Sql.after newlines.ends s line.text = .quoted mark)
    : tokens newlines.ends (.code .start) (groupText (current ++ [line.text]))
        = tokens newlines.ends (.code .start) (groupText current)
          ++ (tokens newlines.ends s line.text ++ quotedTokens ['\n'])
      ∧ Sql.after newlines.ends (.code .start) (groupText (current ++ [line.text]))
        = .quoted mark := by
  have noMark : mark.char ∉ ['\n'] := by
    cases mark <;> decide
  obtain ⟨feed, stays⟩ := @read_quoted newlines.ends ['\n'] mark noMark
  obtain ⟨read, led⟩ := read_current agree alike []
  rw [← groupText_concat, inside] at read led
  rw [feed] at read
  rw [stays] at led
  exact ⟨read, led⟩

/-- A line that ends within a literal, in a line feed, leaves script and group alike. -/
theorem agree_literal (agree : Agree newlines p s current) (proper : line.Proper)
    (alike : ReadAlike newlines p s line.text)
    (leads : p.advance (tokens newlines.ends s line.text) = some .opened)
    (inside : Sql.after newlines.ends s line.text = .quoted mark) (ending : line.ending = ['\n'])
    : Agree newlines .opened (Sql.after newlines.ends s line.full) (current ++ [line.text]) := by
  have noMark : mark.char ∉ ['\n'] := by
    cases mark <;> decide
  obtain ⟨read, led⟩ := read_literal agree alike inside
  have full : Sql.after newlines.ends s line.full = .quoted mark := by
    rw [(read_line newlines proper s []).2.2, inside, ending]
    exact (@read_quoted newlines.ends ['\n'] mark noMark).2
  refine ⟨?_, ?_, ?_⟩
  · rw [led, full]
    rfl
  · rw [read, ← List.append_assoc]
    exact Phase.shape_next (Phase.shape_advance agree.shape leads) rfl
  · rw [full]
    rfl

/-- What a group reads in a literal for the break of a line is a line feed. -/
theorem ending_of_holds (agree : Agree newlines p s current) (proper : line.Proper)
    (alike : ReadAlike newlines p s line.text)
    (leads : p.advance (tokens newlines.ends s line.text) = some .opened)
    (inside : Sql.after newlines.ends s line.text = .quoted mark)
    (holds
      : GroupsHold newlines.ends (groupsFrom (current ++ [line.text]) rest)
          (statementsOf []
            (tokens newlines.ends (.code .start) (groupText current)
              ++ tokens newlines.ends s (textOf (line :: rest)))))
    : line.ending = ['\n'] := by
  obtain ⟨more, groups, split, _⟩ := first_group (current ++ [line.text]) rest
  have reads := (read_current agree alike (groupText more)).1
  have script := (read_line newlines proper s (textOf rest)).1
  rw [← groupText_append_cons, ← List.append_assoc, inside] at reads
  rw [inside, ← textOf_cons] at script
  rw [split, List.append_assoc, List.singleton_append, script, ← List.append_assoc] at holds
  have begins := opening_of_holds holds (Phase.shape_advance agree.shape leads) reads
  rcases proper.ended with pair | ⟨c, breaks, only⟩
  · rw [pair] at begins
    cases (List.cons.inj begins).1
  · rw [only] at begins ⊢
    rw [(Sign.mk.inj (List.cons.inj begins).1).2]

/-- A kept line that ends within a literal goes on in the group as it does in the script exactly if
the group goes on and the break is a line feed.
-/
theorem holds_literal (agree : Agree newlines p s current) (proper : line.Proper)
    (kept : ¬ Dropped line.text) (alike : ReadAlike newlines p s line.text)
    (leads : p.advance (tokens newlines.ends s line.text) = some .opened)
    (inside : Sql.after newlines.ends s line.text = .quoted mark)
    : HoldsRest newlines p s current (line :: rest)
      ↔ ¬ EndsStatement line.text
        ∧ line.ending = ['\n']
        ∧ HoldsRest newlines .opened (Sql.after newlines.ends s line.full)
          (current ++ [line.text]) rest := by
  obtain ⟨read, led⟩ := read_literal agree alike inside
  have script := (read_line newlines proper s (textOf rest)).1
  rw [inside, ← textOf_cons] at script
  by_cases ends : EndsStatement line.text
  · refine iff_of_false (fun both => ?_) (fun all => all.1 ends)
    have holds := both.1
    rw [groupsFrom, if_neg kept, if_pos ends] at holds
    have closed := (holds.1 _ List.mem_cons_self).1
    rw [Closed, led] at closed
    exact closed
  · rw [and_iff_right ends]
    have feeds (ending : line.ending = ['\n'])
        : tokens newlines.ends s (textOf (line :: rest))
          = tokens newlines.ends s line.text
            ++ (quotedTokens ['\n']
              ++ tokens newlines.ends (Sql.after newlines.ends s line.full) (textOf rest)) := by
      rw [script, ending]
      cases mark <;> rfl
    constructor
    · rintro ⟨holds, _⟩
      rw [groupsFrom, if_neg kept, if_neg ends] at holds
      have ending := ending_of_holds agree proper alike leads inside holds
      refine ⟨ending, ?_, fun same => by cases same⟩
      rw [read, List.append_assoc, List.append_assoc, ← feeds ending]
      exact holds
    · rintro ⟨ending, holds, _⟩
      refine ⟨?_, opening_of_stop proper alike⟩
      rw [groupsFrom, if_neg kept, if_neg ends, feeds ending]
      rw [read, List.append_assoc, List.append_assoc] at holds
      exact holds

end Literal

end Kept

/-- The groups of the rest of a script hold what is left of it exactly if it is well laid out, by
induction over its lines.
-/
theorem holdsRest_iff {lines : List ScriptLine} (proper : ∀ line ∈ lines, line.Proper)
    (agree : Agree newlines p s current) (comments : CommentsDropped newlines s lines)
    (closed : (Sql.after newlines.ends s (textOf lines)).Outside)
    : HoldsRest newlines p s current lines ↔ WellLaid newlines p s lines := by
  induction lines generalizing p s current with
  | nil => exact iff_of_true (holds_nil agree closed) trivial
  | cons line rest ih =>
      obtain ⟨here, there⟩ := List.forall_mem_cons.mp proper
      obtain ⟨commented, comments⟩ := comments
      obtain ⟨script, led, full⟩ := read_line newlines here s (textOf rest)
      rw [textOf_cons, led] at closed
      rw [WellLaid]
      by_cases dropped : Dropped line.text
      · rw [if_pos dropped]
        by_cases outside : s.Outside
        · obtain ⟨none, within, stays⟩ := read_dropped newlines agree.between outside here dropped
          obtain ⟨gap, between, outside'⟩ := read_break newlines within stays here
          rw [← full] at between outside'
          rw [and_iff_right outside, ← ih there ⟨?_, agree.shape, between⟩ comments closed,
            HoldsRest, HoldsRest, groupsFrom, if_pos dropped, textOf_cons, script, none, gap]
          · rfl
          · rw [agree.group, groupReader_of_outside outside, groupReader_of_outside outside']
        · obtain ⟨mark, rfl⟩ := Reader.quoted_of_not_outside outside
          exact iff_of_false (dropped_in_literal agree proper dropped) (fun laid => outside laid.1)
      · rw [if_neg dropped]
        obtain alike | ⟨stale, sign, later, first⟩ :=
          read_kept newlines agree.between (fun comment => dropped (commented comment)) dropped
        · cases leads : p.advance (tokens newlines.ends s line.text) with
          | none =>
              exact iff_of_false (holds_stuck agree dropped alike leads) id
          | some next =>
              dsimp only
              by_cases outside : (Sql.after newlines.ends s line.text).Outside
              · rw [if_pos outside]
                obtain ⟨current', agree', holds⟩ :=
                  holds_outside agree here dropped alike leads outside
                rw [holds]
                exact ih there agree' comments closed
              · rw [if_neg outside]
                obtain ⟨mark, inside⟩ := Reader.quoted_of_not_outside outside
                have within := within_after newlines agree.between.within leads
                rw [inside] at within
                obtain rfl : next = .opened := within
                rw [holds_literal agree here dropped alike leads inside]
                refine and_congr_right fun _ => and_congr_right fun feed => ?_
                exact ih there (agree_literal agree here alike leads inside feed) comments closed
        · refine iff_of_false (fun both => ?_) ?_
          · have none := both.2 stale
            rw [textOf_cons, script, first] at none
            cases none
          · rw [stale, first]
            exact id

/-- Where comments end at every break, no line begins within one. -/
theorem commentsDropped_of_breaks {newlines : Newlines}
    (all : ∀ c, isLineBreak c = true → newlines.ends c = true) (script : String)
    : CommentsDropped newlines (.code .start) (scriptLines script) := by
  have leaves {c : Char} (breaks : isLineBreak c = true) (s : Reader)
      : ¬ InComment (Sql.after newlines.ends s [c]) := by
    cases s with
    | code gap =>
        rw [Sql.after, Sql.after, step_blank (isSpace_of_isLineBreak breaks)]
        exact id
    | comment gap => simp [Sql.after, step, all c breaks, InComment]
    | quoted mark =>
        rw [Sql.after, Sql.after, step]
        split <;> exact id
  have between {line : ScriptLine} (proper : line.Proper) (s : Reader)
      : ¬ InComment (Sql.after newlines.ends s line.full) := by
    rw [(read_line newlines proper s []).2.2]
    rcases proper.ended with pair | ⟨c, breaks, only⟩
    · rw [pair]
      exact leaves rfl _
    · rw [only]
      exact leaves breaks _
  have each (lines : List ScriptLine) (proper : ∀ line ∈ lines, line.Proper) (s : Reader)
      (code : ¬ InComment s)
      : CommentsDropped newlines s lines := by
    induction lines generalizing s with
    | nil => trivial
    | cons line rest ih =>
        obtain ⟨here, there⟩ := List.forall_mem_cons.mp proper
        exact ⟨fun comment => absurd comment code, ih there _ (between here s)⟩
  exact each _ (proper_scriptLinesFrom (List.forall_mem_nil _) _) _ id

/-- Two statements on a line. -/
def twoOnALine : String := "DROP TABLE a; DROP TABLE b;"

/-- A script with a comment behind a semicolon, and a literal over two lines that holds a semicolon
and two dashes.
-/
def oneOnALine : String := "DROP TABLE a; -- \x27 old\n;\nINSERT INTO b VALUES (\x27;--\n\x27);"

end Lines

end PettyFlow.Migrations
