import PettyFlow.Migrations.ScriptLines

/-! How a line of a migration script is read in the script and in the group of lines that is being
gathered: how far both are in their statements, and literals that go on over several lines.
-/

namespace PettyFlow.Migrations

open Foundation Sql

/-- The characters that end a comment: the line feed, and of the other breaks those that the
language takes for one.
-/
structure Newlines where
  ends : Char → Bool
  feed : ends '\n' = true
  breaks : ∀ c, ends c = true → isLineBreak c = true

/-- Line feeds alone. -/
def Newlines.feeds : Newlines where
  ends := (· = '\n')
  feed := rfl
  breaks := fun c feed => by
    rw [of_decide_eq_true feed]
    rfl

/-! ### Phases -/

/-- How far the group that is being gathered and the script are in their statements. -/
inductive Phase where
  /-- Neither is within a statement, and the group has none. -/
  | fresh
  /-- Both are within the first statement of the group. -/
  | opened
  /-- The group has a statement that is ended. -/
  | held
  /-- The last group ended within a statement of the script, and the new one has nothing yet. -/
  | stale
deriving DecidableEq

namespace Phase

/-- What a token leads to, unless a second statement begins in a group, or a statement goes on in
another group than it began in.
-/
def next : Phase → Token → Option Phase
  | fresh, .stop => some fresh
  | fresh, .sign _ => some opened
  | opened, .stop => some held
  | opened, .sign _ => some opened
  | held, .stop => some held
  | held, .sign _ => none
  | stale, .stop => some fresh
  | stale, .sign _ => none

def advance (p : Phase) : List Token → Option Phase
  | [] => some p
  | token :: rest => (p.next token).bind (·.advance rest)

/-- What the end of a group leads to. -/
def flush : Phase → Phase
  | fresh => fresh
  | opened => stale
  | held => fresh
  | stale => stale

/-- What stands before a line of the script. -/
def scriptGap : Phase → Gap
  | fresh => .start
  | opened => .parted
  | held => .start
  | stale => .parted

/-- What stands before the same line in its group. -/
def groupGap : Phase → Gap
  | opened => .parted
  | _ => .start

/-- Where a line begins in its group if it begins there in the script. -/
def groupReader (p : Phase) : Reader → Reader
  | .quoted mark => .quoted mark
  | _ => .code p.groupGap

theorem groupReader_code (p : Phase) (gap : Gap) : p.groupReader (.code gap) = .code p.groupGap :=
  rfl

/-- Where a line may begin in the script. -/
def Between (p : Phase) : Reader → Prop
  | .code gap => gap = p.scriptGap
  | .comment gap => gap = p.scriptGap
  | .quoted _ => p = opened

/-- Where a place within a line may be in the script. -/
def Within (p : Phase) : Reader → Prop
  | .code gap => gap.widen = p.scriptGap
  | .comment gap => gap = p.scriptGap
  | .quoted _ => p = opened

/-- What may have been read of a group. -/
def Shape (read : List Token) : Phase → Prop
  | fresh => ended [] read = [] ∧ unfinished [] read = []
  | opened => ended [] read = [] ∧ unfinished [] read ≠ []
  | held => (ended [] read).length = 1 ∧ unfinished [] read = []
  | stale => read = []

variable {p after : Phase} {read tokens : List Token}

theorem shape_next {token : Token} (shape : p.Shape read) (leads : p.next token = some after)
    : after.Shape (read ++ [token]) := by
  cases p with
  | fresh =>
      obtain ⟨none, empty⟩ := shape
      cases token <;> cases leads <;>
        simp [Shape, ended_append, unfinished_append, none, empty, ended, unfinished]
  | opened =>
      obtain ⟨none, filled⟩ := shape
      cases token <;> cases leads <;>
        simp [Shape, ended_append, unfinished_append, none, ended, unfinished, whole_of_ne filled]
  | held =>
      obtain ⟨one, empty⟩ := shape
      cases token <;> cases leads
      simp [Shape, ended_append, unfinished_append, one, empty, ended, unfinished]
  | stale =>
      cases token <;> cases leads
      rw [show read = [] from shape]
      exact ⟨rfl, rfl⟩

theorem shape_advance (shape : p.Shape read) (leads : p.advance tokens = some after)
    : after.Shape (read ++ tokens) := by
  induction tokens generalizing p read with
  | nil =>
      cases leads
      rwa [List.append_nil]
  | cons token rest ih =>
      obtain ⟨middle, first, later⟩ := Option.bind_eq_some_iff.mp leads
      rw [List.append_cons]
      exact ih (shape_next shape first) later

/-- Nothing but a stop leads out of the stale phase, and nothing leads into it. -/
theorem advance_ne_stale (nonempty : tokens ≠ []) (leads : p.advance tokens = some after)
    : after ≠ stale := by
  induction tokens generalizing p with
  | nil => exact absurd rfl nonempty
  | cons token rest ih =>
      obtain ⟨middle, first, later⟩ := Option.bind_eq_some_iff.mp leads
      cases rest with
      | nil =>
          cases later
          cases p <;> cases token <;> cases first <;> decide
      | cons second rest => exact ih (List.cons_ne_nil _ _) later

/-- Where no phase follows, the group has two statements. -/
theorem two_statements (shape : p.Shape read) (stop : p = stale → tokens.head? = some .stop)
    (stuck : p.advance tokens = none) (later : List Token)
    : 2 ≤ (statementsOf [] (read ++ (tokens ++ later))).length := by
  induction tokens generalizing p read with
  | nil => cases stuck
  | cons token rest ih =>
      cases leads : p.next token with
      | some middle =>
          rw [advance, leads, Option.bind_some] at stuck
          have notStale : middle = stale → rest.head? = some .stop := by
            rintro rfl
            cases p <;> cases token <;> cases leads
          have more := ih (shape_next shape leads) notStale stuck
          rwa [List.append_assoc] at more
      | none =>
          cases token with
          | stop => cases p <;> cases leads
          | sign sign =>
              cases p with
              | fresh => cases leads
              | opened => cases leads
              | stale => cases stop rfl
              | held =>
                  rw [statementsOf_append, List.length_append, shape.1, shape.2]
                  have filled := statementsOf_ne_nil (List.cons_ne_nil sign []) (rest ++ later)
                  have one := List.length_pos_iff.mpr filled
                  rw [List.cons_append, statementsOf, List.nil_append]
                  omega

theorem shape_statements (shape : p.Shape read) : (statementsOf [] read).length ≤ 1 := by
  rw [statementsOf_eq]
  cases p with
  | fresh => simp [shape.1, shape.2]
  | opened => simp [shape.1, whole_of_ne shape.2]
  | held => simp [shape.1, shape.2]
  | stale =>
      rw [show read = [] from shape]
      exact Nat.zero_le _

theorem flush_groupGap (p : Phase) : p.flush.groupGap = .start := by
  cases p <;> rfl

theorem flush_shape (p : Phase) : p.flush.Shape [] := by
  cases p with
  | fresh => exact ⟨rfl, rfl⟩
  | opened => rfl
  | held => exact ⟨rfl, rfl⟩
  | stale => rfl

/-- The end of a group does not move the script. -/
theorem flush_between {s : Reader} (between : p.Between s) (outside : s.Outside)
    : p.flush.Between s := by
  cases s with
  | code gap => cases p <;> exact between
  | comment gap => cases p <;> exact between
  | quoted mark => exact outside.elim

/-- A group that ends holds the rest of the script's statements but its own exactly if the script
does not go on with the statement of the group.
-/
theorem flush_iff (shape : p.Shape read) (fresh : p ≠ stale) (rest : List Token)
    (statements : List Statement)
    : statementsOf [] read ++ statements = statementsOf [] (read ++ rest)
      ↔ statements = statementsOf [] rest ∧ (p.flush = stale → opening rest = []) := by
  rw [statementsOf_append, statementsOf_eq]
  cases p with
  | fresh => simp [shape.1, shape.2, flush]
  | held => simp [shape.2, flush]
  | stale => exact absurd rfl fresh
  | opened =>
      rw [shape.1, whole_of_ne shape.2, statementsOf_opening, statementsOf_opening [] rest,
        whole_of_ne (List.append_ne_nil_of_left_ne_nil shape.2 _)]
      simp only [List.nil_append, List.cons_append, List.cons.injEq, flush, forall_const]
      constructor
      · rintro ⟨same, rfl⟩
        have none : opening rest = [] := List.self_eq_append_right.mp same
        rw [none]
        exact ⟨rfl, rfl⟩
      · rintro ⟨rfl, none⟩
        rw [none]
        exact ⟨(List.append_nil _).symm, rfl⟩

end Phase

/-! ### Reading a line -/

/-- The place is in a comment. -/
def InComment : Reader → Prop
  | .comment _ => True
  | _ => False

instance : DecidablePred InComment
  | .comment _ => isTrue trivial
  | .code _ => isFalse id
  | .quoted _ => isFalse id

section Lines

variable (newlines : Newlines)

theorem groupGap_widen (p : Phase) : p.groupGap.widen = p.groupGap := by
  cases p <;> rfl

theorem scriptGap_widen (p : Phase) : p.scriptGap.widen = p.scriptGap := by
  cases p <;> rfl

theorem scriptGap_eq {p : Phase} (current : p ≠ .stale) : p.scriptGap = p.groupGap := by
  cases p with
  | stale => exact absurd rfl current
  | fresh => rfl
  | opened => rfl
  | held => rfl

theorem Phase.Between.within {p : Phase} {s : Reader} (between : p.Between s) : p.Within s := by
  cases s with
  | code gap =>
      rw [show gap = p.scriptGap from between]
      exact scriptGap_widen p
  | comment gap => exact between
  | quoted mark => exact between

/-- One character leads to where the next one may be. -/
theorem within_step {p : Phase} {s : Reader} (within : p.Within s) (c : Char) (dash : Bool)
    {after : Phase}
    (leads : p.advance (step newlines.ends s c dash).1.toList = some after)
    : after.Within (step newlines.ends s c dash).2 := by
  cases s with
  | code gap =>
      rcases @step_code newlines.ends gap c dash with read | read | read | ⟨sign, next, read, led⟩
      · rw [read] at leads ⊢
        cases leads
        exact within
      · rw [read] at leads ⊢
        cases leads
        exact (Gap.widen_widen gap).trans within
      · rw [read] at leads ⊢
        cases p <;> cases leads <;> rfl
      · rw [read] at leads ⊢
        have opened : after = .opened := by
          cases p <;> cases leads <;> rfl
        subst opened
        rcases led with rfl | ⟨mark, rfl⟩
        · rfl
        · rfl
  | comment gap =>
      cases leads
      rw [step]
      split
      · rw [show gap = p.scriptGap from within]
        exact scriptGap_widen p
      · exact within
  | quoted mark =>
      rw [show p = .opened from within] at leads
      cases leads
      rw [step]
      split <;> rfl

theorem advance_append (p : Phase) (first later : List Token)
    : p.advance (first ++ later) = (p.advance first).bind (·.advance later) := by
  induction first generalizing p with
  | nil => rfl
  | cons token rest ih =>
      rw [List.cons_append, Phase.advance, Phase.advance, Option.bind_assoc]
      simp only [ih]

/-- A text leads to where the next character may be. -/
theorem within_after {p : Phase} {s : Reader} (within : p.Within s) {text : List Char}
    {after : Phase} (leads : p.advance (tokens newlines.ends s text) = some after)
    : after.Within (Sql.after newlines.ends s text) := by
  induction text generalizing p s with
  | nil =>
      cases leads
      exact within
  | cons c rest ih =>
      rw [tokens, advance_append] at leads
      obtain ⟨middle, first, later⟩ := Option.bind_eq_some_iff.mp leads
      exact ih (within_step newlines within c _ first) later

/-- The break behind a line that does not end within a literal. -/
theorem read_break {p : Phase} {s : Reader} (within : p.Within s) (outside : s.Outside)
    {line : ScriptLine} (proper : line.Proper)
    : tokens newlines.ends s line.ending = []
      ∧ p.Between (Sql.after newlines.ends s line.ending)
      ∧ (Sql.after newlines.ends s line.ending).Outside := by
  have breaks := proper.breaks
  have nonempty := proper.ending_ne_nil
  generalize line.ending = ending at *
  induction ending generalizing s with
  | nil => exact absurd rfl nonempty
  | cons c rest ih =>
      obtain ⟨here, there⟩ := List.forall_mem_cons.mp breaks
      rw [tokens, Sql.after]
      have led
          : (step newlines.ends s c (rest.head? = some '-')).1 = none
            ∧ p.Between (step newlines.ends s c (rest.head? = some '-')).2
            ∧ (step newlines.ends s c (rest.head? = some '-')).2.Outside := by
        cases s with
        | code gap =>
            rw [step_blank (isSpace_of_isLineBreak here)]
            exact ⟨rfl, within, trivial⟩
        | comment gap =>
            rw [step]
            split
            · exact ⟨rfl, within, trivial⟩
            · exact ⟨rfl, within, trivial⟩
        | quoted mark => exact outside.elim
      obtain ⟨none, between, stays⟩ := led
      dsimp only
      rw [none]
      cases rest with
      | nil => exact ⟨rfl, between, stays⟩
      | cons second rest => exact ih between.within stays there (List.cons_ne_nil _ _)

/-- The line feed behind a line of a group that does not end within a literal. -/
theorem read_feed {p : Phase} {s : Reader} (within : p.Within s) (outside : s.Outside)
    (current : p ≠ .stale)
    : tokens newlines.ends s ['\n'] = [] ∧ Sql.after newlines.ends s ['\n'] = .code p.groupGap := by
  have same := scriptGap_eq current
  cases s with
  | code gap =>
      rw [← same, ← show gap.widen = p.scriptGap from within]
      exact ⟨rfl, rfl⟩
  | comment gap =>
      rw [← same, ← show gap = p.scriptGap from within]
      simp [tokens, Sql.after, step, newlines.feed]
  | quoted mark => exact outside.elim

/-- A dropped line that does not begin within a literal is read as nothing. -/
theorem read_dropped {p : Phase} {s : Reader} (between : p.Between s) (outside : s.Outside)
    {line : ScriptLine} (proper : line.Proper) (dropped : Dropped line.text)
    : tokens newlines.ends s line.text = []
      ∧ p.Within (Sql.after newlines.ends s line.text)
      ∧ (Sql.after newlines.ends s line.text).Outside := by
  have inside {text : List Char} (unbroken : ∀ c ∈ text, isLineBreak c = false)
      : ∀ c ∈ text, newlines.ends c = false := by
    intro c member
    by_contra ended
    have breaks := newlines.breaks c (eq_true_of_ne_false ended)
    rw [unbroken c member] at breaks
    cases breaks
  cases s with
  | quoted mark => exact outside.elim
  | comment gap =>
      obtain ⟨none, led⟩ := @read_comment newlines.ends line.text (inside proper.unbroken) gap
      rw [led]
      exact ⟨none, between, trivial⟩
  | code gap =>
      have wide : gap.widen = gap := by
        rw [show gap = p.scriptGap from between]
        exact scriptGap_widen p
      rcases dropped_iff.mp dropped with blank | ⟨blanks, rest, split, blank⟩
      · obtain ⟨none, led⟩ := @read_blanks newlines.ends line.text blank gap wide
        rw [led]
        exact ⟨none, between.within, trivial⟩
      · obtain ⟨none, led⟩ := @read_blanks newlines.ends blanks blank gap wide
        have apart : blanks.getLast? = some '-' → ('-' :: '-' :: rest).head? ≠ some '-' :=
          fun last => absurd (blank _ (List.mem_of_getLast? last)) (by decide)
        obtain ⟨read, leads⟩ := @read_append newlines.ends blanks _ apart (.code gap)
        have unbroken : ∀ c ∈ '-' :: rest, isLineBreak c = false := by
          intro c member
          exact proper.unbroken c (by rw [split]; simp [List.mem_cons.mp member])
        obtain ⟨comment, stays⟩ :=
          @read_comment newlines.ends ('-' :: rest) (inside unbroken) gap
        obtain ⟨opens, opened⟩ := @read_dashes newlines.ends rest gap wide
        rw [split, read, leads, none, led, opens, opened, comment, stays]
        exact ⟨rfl, between, trivial⟩

/-- A line is read alike in the script and in its group. -/
structure ReadAlike (p : Phase) (s : Reader) (line : List Char) : Prop where
  tokens : Sql.tokens newlines.ends (p.groupReader s) line = Sql.tokens newlines.ends s line
  after : Sql.after newlines.ends (p.groupReader s) line = Sql.after newlines.ends s line
  nonempty : Sql.tokens newlines.ends s line ≠ []
  stop : p = .stale → (Sql.tokens newlines.ends s line).head? = some .stop

/-- A kept line is read alike in the script and in its group, unless the group has nothing yet of
the statement that the script goes on with.
-/
theorem read_kept {p : Phase} {s : Reader} (between : p.Between s) (code : ¬ InComment s)
    {line : List Char} (kept : ¬ Dropped line)
    : ReadAlike newlines p s line
      ∨ (p = .stale ∧ ∃ sign rest, tokens newlines.ends s line = .sign sign :: rest) := by
  obtain ⟨blanks, c, rest, split, blank, filled, noComment⟩ := kept_shape kept
  cases s with
  | comment gap => exact absurd trivial code
  | quoted mark =>
      have opened : p = .opened := between
      subst opened
      left
      refine ⟨rfl, rfl, ?_, fun stale => by cases stale⟩
      rw [split]
      cases blanks <;> exact List.cons_ne_nil _ _
  | code gap =>
      obtain rfl : gap = p.scriptGap := between
      have apart : blanks.getLast? = some '-' → (c :: rest).head? ≠ some '-' :=
        fun last => absurd (blank _ (List.mem_of_getLast? last)) (by decide)
      -- Behind the blanks stands the first character, whatever gap is there
      have reads (gap : Gap) (wide : gap.widen = gap)
          : tokens newlines.ends (.code gap) line = tokens newlines.ends (.code gap) (c :: rest)
            ∧ Sql.after newlines.ends (.code gap) line
              = Sql.after newlines.ends (.code gap) (c :: rest) := by
        obtain ⟨none, led⟩ := @read_blanks newlines.ends blanks blank gap wide
        obtain ⟨read, leads⟩ := @read_append newlines.ends blanks _ apart (.code gap)
        rw [split, read, leads, none, led]
        exact ⟨rfl, rfl⟩
      obtain ⟨script, scriptLed⟩ := reads _ (scriptGap_widen p)
      obtain ⟨group, groupLed⟩ := reads _ (groupGap_widen p)
      by_cases stop : c = ';'
      · left
        subst stop
        refine ⟨?_, ?_, ?_, ?_⟩
        · rw [Phase.groupReader_code, script, group]
          rfl
        · rw [Phase.groupReader_code, scriptLed, groupLed]
          rfl
        · rw [script]
          exact List.cons_ne_nil _ _
        · rw [script]
          exact fun _ => rfl
      · obtain ⟨sign, later, first⟩ :=
          @read_sign newlines.ends c rest noComment stop filled p.scriptGap
        by_cases current : p = .stale
        · exact .inr ⟨current, sign, later, script.trans first⟩
        · left
          refine ⟨?_, ?_, ?_, fun stale => absurd stale current⟩
          · rw [Phase.groupReader_code, script, group, scriptGap_eq current]
          · rw [Phase.groupReader_code, scriptLed, groupLed, scriptGap_eq current]
          · rw [script, first]
            exact List.cons_ne_nil _ _

/-! ### Literals over several lines -/

theorem opening_quoted (text : List Char) (later : List Token)
    : opening (quotedTokens text ++ later) = text.map (⟨false, ·⟩) ++ opening later := by
  induction text with
  | nil => rfl
  | cons c rest ih => exact congrArg (_ :: ·) ih

/-- Two texts that are alike up to what ends them, be it a mark or a break, are ended alike. -/
theorem split_ended {ended : Char → Prop} {front front' rest rest' : List Char} {c c' : Char}
    (free : ∀ x ∈ front, ¬ ended x) (free' : ∀ x ∈ front', ¬ ended x) (here : ended c)
    (here' : ended c') (same : front ++ c :: rest = front' ++ c' :: rest')
    : front = front' ∧ c = c' := by
  induction front generalizing front' with
  | nil =>
      cases front' with
      | nil => exact ⟨rfl, (List.cons.inj same).1⟩
      | cons x front' =>
          obtain ⟨rfl, _⟩ := List.cons.inj same
          exact absurd here (free' _ List.mem_cons_self)
  | cons x front ih =>
      cases front' with
      | nil =>
          obtain ⟨rfl, _⟩ := List.cons.inj same
          exact absurd here' (free _ List.mem_cons_self)
      | cons y front' =>
          obtain ⟨rfl, tails⟩ := List.cons.inj same
          obtain ⟨rfl, last⟩ := ih (fun z member => free z (List.mem_cons_of_mem _ member))
            (fun z member => free' z (List.mem_cons_of_mem _ member)) tails
          exact ⟨rfl, last⟩

theorem isLineBreak_mark (mark : Mark) : isLineBreak mark.char = false := by
  cases mark <;> rfl

/-- Whether a line is dropped that has a mark is decided before the mark. -/
theorem dropped_front {front back : List Char} {mark : Mark}
    (dropped : Dropped (front ++ mark.char :: back)) (back' : List Char)
    : Dropped (front ++ mark.char :: back') := by
  rcases dropped_iff.mp dropped with blank | ⟨blanks, tail, comment, blank⟩
  · have space := blank mark.char (by simp)
    rw [mark.not_isSpace] at space
    cases space
  · rcases List.append_eq_append_iff.mp comment with ⟨more, longer, begins⟩ | ⟨more, longer, begins⟩
    · cases more with
      | nil => exact absurd (List.cons.inj begins).1 mark.char_ne_dash
      | cons c more =>
          have space := blank mark.char (by rw [longer, (List.cons.inj begins).1]; simp)
          rw [mark.not_isSpace] at space
          cases space
    · -- The dashes stand before the mark
      cases more with
      | nil => exact absurd (List.cons.inj begins).1.symm mark.char_ne_dash
      | cons c more =>
          obtain ⟨isDash, begins⟩ := List.cons.inj begins
          cases more with
          | nil => exact absurd (List.cons.inj begins).1.symm mark.char_ne_dash
          | cons d more =>
              obtain ⟨isDash', _⟩ := List.cons.inj begins
              subst longer isDash isDash'
              exact dropped_iff.mpr (.inr ⟨blanks, more ++ mark.char :: back', by simp, blank⟩)

/-- What a literal begins with that goes on in a line: the line up to the end of the literal, or
all of it and the break.
-/
theorem opening_line {line : List Char} (unbroken : ∀ c ∈ line, isLineBreak c = false) {c : Char}
    (breaks : isLineBreak c = true) (mark : Mark) (rest : List Char)
    : ∃ front last later,
        (opening (tokens newlines.ends (.quoted mark) (line ++ c :: rest))).map Sign.char
          = front ++ last :: later
        ∧ (∀ x ∈ front, ¬ (x = mark.char ∨ isLineBreak x = true))
        ∧ ((last = mark.char ∧ ∃ back, line = front ++ mark.char :: back)
          ∨ (last = c ∧ line = front)) := by
  have chars (text : List Char)
      : (text.map (fun c => (⟨false, c⟩ : Sign))).map Sign.char = text := by
    simp [Function.comp_def]
  by_cases inside : mark.char ∈ line
  · obtain ⟨front, back, split, before⟩ := List.eq_append_cons_of_mem inside
    refine ⟨front, mark.char,
      (opening (tokens newlines.ends (.code .joined) (back ++ c :: rest))).map Sign.char, ?_, ?_,
      .inl ⟨rfl, back, split⟩⟩
    · have read := @read_quoted_end newlines.ends front (back ++ c :: rest) mark before
      rw [split, List.append_assoc, List.cons_append, read, opening_quoted, List.map_append, chars]
      simp
    · rintro x member (rfl | broken)
      · exact before member
      · have free := unbroken x (by rw [split]; exact List.mem_append_left _ member)
        rw [free] at broken
        cases broken
  · have apart : mark.char ≠ c := by
      rintro rfl
      rw [isLineBreak_mark] at breaks
      cases breaks
    have outside : mark.char ∉ line ++ [c] := by simp [inside, apart]
    have cut : (line ++ [c]).getLast? = some '-' → rest.head? ≠ some '-' := by
      intro last
      rw [List.getLast?_concat, Option.some.injEq] at last
      rw [last] at breaks
      cases breaks
    obtain ⟨quoted, _⟩ := @read_quoted newlines.ends _ mark outside
    obtain ⟨read, _⟩ := @read_append newlines.ends (line ++ [c]) rest cut (.quoted mark)
    refine ⟨line, c,
      (opening (tokens newlines.ends (Sql.after newlines.ends (.quoted mark) (line ++ [c]))
        rest)).map Sign.char, ?_, ?_, .inr ⟨rfl, rfl⟩⟩
    · rw [List.append_cons, read, quoted, opening_quoted, List.map_append, chars, List.append_assoc]
      rfl
    · rintro x member (rfl | broken)
      · exact inside member
      · rw [unbroken x member] at broken
        cases broken

/-- A line that begins within a literal is not dropped if a kept line could stand for it. -/
theorem kept_of_opening {line line' : List Char} {c c' : Char} {mark : Mark}
    {rest rest' : List Char} (unbroken : ∀ c ∈ line, isLineBreak c = false)
    (unbroken' : ∀ c ∈ line', isLineBreak c = false) (breaks : isLineBreak c = true)
    (breaks' : isLineBreak c' = true)
    (same
      : opening (tokens newlines.ends (.quoted mark) (line ++ c :: rest))
        = opening (tokens newlines.ends (.quoted mark) (line' ++ c' :: rest')))
    (kept : ¬ Dropped line')
    : ¬ Dropped line := by
  obtain ⟨front, last, later, read, free, ended⟩ := opening_line newlines unbroken breaks mark rest
  obtain ⟨front', last', later', read', free', ended'⟩ :=
    opening_line newlines unbroken' breaks' mark rest'
  rw [same, read'] at read
  have markBreaks (x : Char) (is : x = mark.char) (breaks : isLineBreak x = true) : False := by
    rw [is, isLineBreak_mark] at breaks
    cases breaks
  have isEnd' : last' = mark.char ∨ isLineBreak last' = true := by
    rcases ended' with ⟨isMark, _⟩ | ⟨rfl, _⟩
    · exact .inl isMark
    · exact .inr breaks'
  have isEnd : last = mark.char ∨ isLineBreak last = true := by
    rcases ended with ⟨isMark, _⟩ | ⟨rfl, _⟩
    · exact .inl isMark
    · exact .inr breaks
  obtain ⟨rfl, rfl⟩ := split_ended free' free isEnd' isEnd read
  intro dropped
  rcases ended with ⟨isMark, back, split⟩ | ⟨rfl, whole⟩
  · rcases ended' with ⟨_, back', split'⟩ | ⟨rfl, _⟩
    · rw [split] at dropped
      rw [split'] at kept
      exact kept (dropped_front dropped back')
    · exact markBreaks _ isMark breaks'
  · rcases ended' with ⟨isMark, _⟩ | ⟨rfl, whole'⟩
    · exact markBreaks _ isMark breaks
    · exact kept (whole' ▸ whole ▸ dropped)

end Lines

end PettyFlow.Migrations
