import PettyFlow.Foundation.Texts

/-! Reading SQL text: literals, quoted identifiers and comments, and the statements between
semicolons.
-/

namespace Foundation

namespace Sql

/-- What stands around a literal or a quoted identifier. -/
inductive Mark where
  | single
  | double
deriving DecidableEq

def Mark.char : Mark → Char
  | .single => '\x27'
  | .double => '\x22'

def mark? (c : Char) : Option Mark :=
  if c = Mark.single.char then
    some .single
  else if c = Mark.double.char then
    some .double
  else
    none

/-- What stands before a place in code: the beginning of a statement, a character of it, or blanks
behind one.
-/
inductive Gap where
  | start
  | joined
  | parted
deriving DecidableEq

def Gap.widen : Gap → Gap
  | .start => .start
  | _ => .parted

/-- Where a place in a text is. -/
inductive Reader where
  | code (gap : Gap)
  | comment (gap : Gap)
  | quoted (mark : Mark)
deriving DecidableEq

/-- The text may end here. -/
def Reader.Outside : Reader → Prop
  | .quoted _ => False
  | _ => True

instance : DecidablePred Reader.Outside
  | .code _ => isTrue trivial
  | .comment _ => isTrue trivial
  | .quoted _ => isFalse id

theorem Reader.quoted_of_not_outside {r : Reader} (inside : ¬ r.Outside)
    : ∃ mark, r = .quoted mark := by
  cases r with
  | code gap => exact absurd trivial inside
  | comment gap => exact absurd trivial inside
  | quoted mark => exact ⟨mark, rfl⟩

/-- A character of a statement, and whether blanks or a comment part it from the one before. -/
structure Sign where
  parted : Bool
  char : Char
deriving DecidableEq

inductive Token where
  | stop
  | sign (sign : Sign)
deriving DecidableEq

/-- A statement, as its characters. Blanks around it do not count, nor how many blanks there are
between two of its characters unless they are quoted.
-/
abbrev Statement := List Sign

/-! ### Reading -/

section Reading

-- The characters at which a comment ends
variable (ends : Char → Bool)

/-- What a character is read as, and where it leads; a dash behind a dash opens a comment. -/
def step (r : Reader) (c : Char) (dash : Bool) : Option Token × Reader :=
  match r with
  | .code gap =>
      if c = '-' ∧ dash then
        (none, .comment gap.widen)
      else if c = ';' then
        (some .stop, .code .start)
      else if isSpace c then
        (none, .code gap.widen)
      else
        (some (.sign ⟨gap = .parted, c⟩),
          match mark? c with
          | some mark => .quoted mark
          | none => .code .joined)
  | .comment gap => (none, if ends c then .code gap else .comment gap)
  | .quoted mark =>
      (some (.sign ⟨false, c⟩), if c = mark.char then .code .joined else .quoted mark)

/-- What a text is read as from a place. -/
def tokens (r : Reader) : List Char → List Token
  | [] => []
  | c :: rest =>
      let (token, next) := step ends r c (rest.head? = some '-')
      token.toList ++ tokens next rest

/-- Where a text leads from a place. -/
def after (r : Reader) : List Char → Reader
  | [] => r
  | c :: rest => after (step ends r c (rest.head? = some '-')).2 rest

end Reading

/-! ### Statements -/

/-- A statement, if there is any of it. -/
def whole (pending : Statement) : List Statement := if pending = [] then [] else [pending]

/-- The statements of tokens behind one that is unfinished. -/
def statementsOf (pending : Statement) : List Token → List Statement
  | [] => whole pending
  | .stop :: rest => whole pending ++ statementsOf [] rest
  | .sign sign :: rest => statementsOf (pending ++ [sign]) rest

/-- The statements that end among tokens. -/
def ended (pending : Statement) : List Token → List Statement
  | [] => []
  | .stop :: rest => whole pending ++ ended [] rest
  | .sign sign :: rest => ended (pending ++ [sign]) rest

/-- The statement that tokens leave unfinished. -/
def unfinished (pending : Statement) : List Token → Statement
  | [] => pending
  | .stop :: rest => unfinished [] rest
  | .sign sign :: rest => unfinished (pending ++ [sign]) rest

/-- The characters before the first stop. -/
def opening : List Token → Statement
  | .sign sign :: rest => sign :: opening rest
  | _ => []

section Text

variable (ends : Char → Bool)

/-- The statements of a text. -/
def statements (text : List Char) : List Statement :=
  statementsOf [] (tokens ends (.code .start) text)

/-- Every literal and quoted identifier of a text is closed. -/
def Closed (text : List Char) : Prop := (after ends (.code .start) text).Outside

instance (text : List Char) : Decidable (Closed ends text) :=
  inferInstanceAs (Decidable (Reader.Outside _))

end Text

/-! ### Laws of reading -/

theorem Gap.widen_widen (gap : Gap) : gap.widen.widen = gap.widen := by
  cases gap <;> rfl

theorem Mark.char_ne_dash (mark : Mark) : mark.char ≠ '-' := by
  cases mark <;> decide

theorem Mark.not_isSpace (mark : Mark) : isSpace mark.char = false := by
  cases mark <;> decide

theorem Mark.char_ne_stop (mark : Mark) : mark.char ≠ ';' := by
  cases mark <;> decide

section Laws

variable {ends : Char → Bool}

/-- Only a dash is read otherwise before a dash. -/
theorem step_of_ne {c : Char} (other : c ≠ '-') (r : Reader) (dash : Bool)
    : step ends r c dash = step ends r c false := by
  cases r <;> simp [step, other]

theorem step_blank {c : Char} (blank : isSpace c = true) (gap : Gap) (dash : Bool)
    : step ends (.code gap) c dash = (none, .code gap.widen) := by
  have noDash : c ≠ '-' := fun same => absurd blank (by rw [same]; decide)
  have noStop : c ≠ ';' := fun same => absurd blank (by rw [same]; decide)
  simp [step, noDash, noStop, blank]

theorem step_stop (gap : Gap) (dash : Bool)
    : step ends (.code gap) ';' dash = (some .stop, .code .start) :=
  rfl

/-- A character of code opens a comment, is a blank or a stop, or belongs to a statement. -/
theorem step_code (gap : Gap) (c : Char) (dash : Bool)
    : step ends (.code gap) c dash = (none, .comment gap.widen)
      ∨ step ends (.code gap) c dash = (none, .code gap.widen)
      ∨ step ends (.code gap) c dash = (some .stop, .code .start)
      ∨ ∃ sign next,
          step ends (.code gap) c dash = (some (.sign sign), next)
          ∧ (next = .code .joined ∨ ∃ mark, next = .quoted mark) := by
  by_cases comment : c = '-' ∧ dash = true
  · exact .inl (by rw [step, if_pos comment])
  by_cases stop : c = ';'
  · exact .inr (.inr (.inl (stop ▸ step_stop gap dash)))
  by_cases blank : isSpace c = true
  · exact .inr (.inl (step_blank blank gap dash))
  · refine .inr (.inr (.inr ⟨_, _, by rw [step, if_neg comment, if_neg stop, if_neg blank], ?_⟩))
    cases mark? c with
    | none => exact .inl rfl
    | some mark => exact .inr ⟨mark, rfl⟩

/-- A text is read in two parts if the cut does not part two dashes. -/
theorem read_append {first later : List Char}
    (apart : first.getLast? = some '-' → later.head? ≠ some '-') (r : Reader)
    : tokens ends r (first ++ later) = tokens ends r first ++ tokens ends (after ends r first) later
      ∧ after ends r (first ++ later) = after ends (after ends r first) later := by
  induction first generalizing r with
  | nil => exact ⟨rfl, rfl⟩
  | cons c rest ih =>
      have same
          : step ends r c ((rest ++ later).head? = some '-')
            = step ends r c (rest.head? = some '-') := by
        cases rest with
        | cons next tail => rfl
        | nil =>
            by_cases dash : c = '-'
            · have none : ¬ later.head? = some '-' := apart (by rw [dash]; rfl)
              simp [none]
            · rw [step_of_ne dash, step_of_ne dash r (decide (([] : List Char).head? = some '-'))]
      have tail : rest.getLast? = some '-' → later.head? ≠ some '-' := by
        intro last
        apply apart
        rw [List.getLast?_cons, last, Option.getD_some]
      obtain ⟨read, led⟩ := ih tail (step ends r c (rest.head? = some '-')).2
      rw [List.cons_append, tokens, tokens, after, after, same]
      dsimp only
      rw [read, led, List.append_assoc]
      exact ⟨rfl, rfl⟩

/-- Blanks of code are read as nothing. -/
theorem read_blanks {text : List Char} (blank : ∀ c ∈ text, isSpace c = true) {gap : Gap}
    (wide : gap.widen = gap)
    : tokens ends (.code gap) text = [] ∧ after ends (.code gap) text = .code gap := by
  induction text with
  | nil => exact ⟨rfl, rfl⟩
  | cons c rest ih =>
      obtain ⟨here, there⟩ := List.forall_mem_cons.mp blank
      rw [tokens, after, step_blank here, wide]
      exact ih there

/-- A character of code that is neither a blank nor a semicolon and opens no comment. -/
theorem read_sign {c : Char} {rest : List Char} (dash : ¬ (c = '-' ∧ rest.head? = some '-'))
    (stop : c ≠ ';') (filled : isSpace c = false) (gap : Gap)
    : ∃ sign later, tokens ends (.code gap) (c :: rest) = .sign sign :: later := by
  refine ⟨⟨gap = .parted, c⟩, tokens ends (step ends (.code gap) c (rest.head? = some '-')).2 rest,
    ?_⟩
  rw [tokens]
  simp [step, dash, stop, filled]

/-- Two dashes open a comment. -/
theorem read_dashes (rest : List Char) {gap : Gap} (wide : gap.widen = gap)
    : tokens ends (.code gap) ('-' :: '-' :: rest) = tokens ends (.comment gap) ('-' :: rest)
      ∧ after ends (.code gap) ('-' :: '-' :: rest) = after ends (.comment gap) ('-' :: rest) := by
  constructor <;> simp [tokens, after, step, wide]

/-- A comment is read as nothing up to its end. -/
theorem read_comment {text : List Char} (open' : ∀ c ∈ text, ends c = false) (gap : Gap)
    : tokens ends (.comment gap) text = [] ∧ after ends (.comment gap) text = .comment gap := by
  induction text with
  | nil => exact ⟨rfl, rfl⟩
  | cons c rest ih =>
      obtain ⟨here, there⟩ := List.forall_mem_cons.mp open'
      obtain ⟨none, led⟩ := ih there
      simp [tokens, after, step, here, none, led]

/-- Quoted characters, as they are. -/
def quotedTokens (text : List Char) : List Token := text.map (fun c => .sign ⟨false, c⟩)

/-- A literal is read as it is up to its end. -/
theorem read_quoted {text : List Char} {mark : Mark} (inside : mark.char ∉ text)
    : tokens ends (.quoted mark) text = quotedTokens text
      ∧ after ends (.quoted mark) text = .quoted mark := by
  induction text with
  | nil => exact ⟨rfl, rfl⟩
  | cons c rest ih =>
      obtain ⟨here, there⟩ := not_or.mp (fun member => inside (List.mem_cons.mpr member))
      obtain ⟨read, led⟩ := ih there
      simp [tokens, after, step, Ne.symm here, read, led, quotedTokens]

/-- The end of a literal is read with it. -/
theorem read_quoted_end {text rest : List Char} {mark : Mark} (inside : mark.char ∉ text)
    : tokens ends (.quoted mark) (text ++ mark.char :: rest)
      = quotedTokens (text ++ [mark.char]) ++ tokens ends (.code .joined) rest := by
  induction text with
  | nil => simp [tokens, step, quotedTokens]
  | cons c text ih =>
      obtain ⟨here, there⟩ := not_or.mp (fun member => inside (List.mem_cons.mpr member))
      rw [List.cons_append, tokens]
      simp [step, Ne.symm here, ih there, quotedTokens]

/-- Blanks and semicolons are read as stops and do not leave or enter a literal. -/
theorem read_loose {text : List Char} (loose : ∀ c ∈ text, isSpace c = true ∨ c = ';') (r : Reader)
    : (r.Outside → ∀ token ∈ tokens ends r text, token = .stop)
      ∧ ((after ends r text).Outside ↔ r.Outside) := by
  induction text generalizing r with
  | nil => exact ⟨fun _ => nofun, Iff.rfl⟩
  | cons c rest ih =>
      obtain ⟨here, there⟩ := List.forall_mem_cons.mp loose
      rw [tokens, after]
      cases r with
      | code gap =>
          rcases here with blank | rfl
          · rw [step_blank blank]
            exact ih there (.code gap.widen)
          · rw [step_stop]
            obtain ⟨stops, led⟩ := ih there (.code .start)
            exact ⟨fun _ => List.forall_mem_cons.mpr ⟨rfl, stops trivial⟩, led⟩
      | comment gap =>
          rw [step]
          by_cases ended : ends c = true
          · rw [if_pos ended]
            exact ih there (.code gap)
          · rw [if_neg ended]
            exact ih there (.comment gap)
      | quoted mark =>
          have inside : c ≠ mark.char := by
            rintro rfl
            rcases here with blank | stop
            · rw [mark.not_isSpace] at blank
              cases blank
            · exact mark.char_ne_stop stop
          rw [step, if_neg inside]
          exact ⟨fun outside => outside.elim, (ih there (.quoted mark)).2⟩

/-! ### Laws of statements -/

@[simp] theorem whole_nil : whole [] = [] := rfl

theorem whole_of_ne {pending : Statement} (some : pending ≠ []) : whole pending = [pending] :=
  if_neg some

theorem statementsOf_append (pending : Statement) (first later : List Token)
    : statementsOf pending (first ++ later)
      = ended pending first ++ statementsOf (unfinished pending first) later := by
  induction first generalizing pending with
  | nil => rfl
  | cons token rest ih =>
      cases token with
      | stop => simp [statementsOf, ended, unfinished, ih]
      | sign sign => simp [statementsOf, ended, unfinished, ih]

theorem statementsOf_eq (pending : Statement) (tokens : List Token)
    : statementsOf pending tokens = ended pending tokens ++ whole (unfinished pending tokens) := by
  have split := statementsOf_append pending tokens []
  rwa [List.append_nil] at split

theorem ended_append (pending : Statement) (first later : List Token)
    : ended pending (first ++ later)
      = ended pending first ++ ended (unfinished pending first) later := by
  induction first generalizing pending with
  | nil => rfl
  | cons token rest ih =>
      cases token with
      | stop => simp [ended, unfinished, ih]
      | sign sign => simp [ended, unfinished, ih]

theorem unfinished_append (pending : Statement) (first later : List Token)
    : unfinished pending (first ++ later) = unfinished (unfinished pending first) later := by
  induction first generalizing pending with
  | nil => rfl
  | cons token rest ih =>
      cases token with
      | stop => exact ih []
      | sign sign => exact ih (pending ++ [sign])

theorem statementsOf_ne_nil {pending : Statement} (some : pending ≠ []) (tokens : List Token)
    : statementsOf pending tokens ≠ [] := by
  induction tokens generalizing pending with
  | nil => simp [statementsOf, whole_of_ne some]
  | cons token rest ih =>
      cases token with
      | stop => simp [statementsOf, whole_of_ne some]
      | sign sign => exact ih (by simp)

theorem statementsOf_stops {tokens : List Token} (stops : ∀ token ∈ tokens, token = .stop)
    (pending : Statement)
    : statementsOf pending tokens = whole pending := by
  induction tokens generalizing pending with
  | nil => rfl
  | cons token rest ih =>
      obtain ⟨rfl, later⟩ := List.forall_mem_cons.mp stops
      rw [statementsOf, ih later, whole_nil, List.append_nil]

/-- The statements behind the first stop. -/
def behind : List Token → List Statement
  | [] => []
  | .stop :: rest => statementsOf [] rest
  | .sign _ :: rest => behind rest

/-- An unfinished statement goes on up to the first stop. -/
theorem statementsOf_opening (pending : Statement) (tokens : List Token)
    : statementsOf pending tokens = whole (pending ++ opening tokens) ++ behind tokens := by
  induction tokens generalizing pending with
  | nil => simp [statementsOf, opening, behind]
  | cons token rest ih =>
      cases token with
      | stop => simp [statementsOf, opening, behind]
      | sign sign => simp [statementsOf, opening, behind, ih]

/-- Blanks before a text, and blanks and semicolons behind it, do not matter. -/
theorem read_around {front text back : List Char} (blank : ∀ c ∈ front, isSpace c = true)
    (loose : ∀ c ∈ back, isSpace c = true ∨ c = ';')
    : (Closed ends (front ++ text ++ back) ↔ Closed ends text)
      ∧ (Closed ends text → statements ends (front ++ text ++ back) = statements ends text) := by
  obtain ⟨none, start⟩ := @read_blanks ends front blank .start rfl
  have frontApart : front.getLast? = some '-' → (text ++ back).head? ≠ some '-' :=
    fun last => absurd (blank _ (List.mem_of_getLast? last)) (by decide)
  have backApart : text.getLast? = some '-' → back.head? ≠ some '-' := by
    intro _ first
    rcases loose _ (List.mem_of_head? first) with space | stop
    · exact absurd space (by decide)
    · exact absurd stop (by decide)
  obtain ⟨readFront, ledFront⟩ := @read_append ends front (text ++ back) frontApart (.code .start)
  obtain ⟨readBack, ledBack⟩ := @read_append ends text back backApart (.code .start)
  obtain ⟨stops, outside⟩ := @read_loose ends back loose (after ends (.code .start) text)
  rw [none, start, List.nil_append, readBack] at readFront
  rw [start, ledBack] at ledFront
  constructor
  · rw [Closed, List.append_assoc, ledFront, outside, Closed]
  · intro closed
    rw [statements, List.append_assoc, readFront, statementsOf_append,
      statementsOf_stops (stops closed), ← statementsOf_eq, statements]

end Laws

end Sql

end Foundation
