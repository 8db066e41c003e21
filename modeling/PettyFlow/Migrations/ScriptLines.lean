import PettyFlow.Foundation.SqlText
import PettyFlow.Migrations.Engine

/-! The lines of a migration script, and the groups of lines that are executed together, compared
with the statements that the script spells.
-/

namespace PettyFlow.Migrations

open Foundation

/-! ### Lines and their breaks -/

/-- A line of a script and the break behind it. -/
structure ScriptLine where
  text : List Char
  ending : List Char
deriving DecidableEq

namespace ScriptLine

def full (line : ScriptLine) : List Char := line.text ++ line.ending

/-- The line has no break in it and one behind it. -/
structure Proper (line : ScriptLine) : Prop where
  unbroken : ∀ c ∈ line.text, isLineBreak c = false
  ended : line.ending = ['\r', '\n'] ∨ ∃ c, isLineBreak c = true ∧ line.ending = [c]

theorem Proper.breaks {line : ScriptLine} (proper : line.Proper)
    : ∀ c ∈ line.ending, isLineBreak c = true := by
  rcases proper.ended with pair | ⟨c, single, only⟩
  · rw [pair]
    exact List.forall_mem_cons.mpr ⟨rfl, List.forall_mem_singleton.mpr rfl⟩
  · rw [only]
    exact List.forall_mem_singleton.mpr single

theorem Proper.ending_ne_nil {line : ScriptLine} (proper : line.Proper) : line.ending ≠ [] := by
  rcases proper.ended with pair | ⟨c, single, only⟩
  · rw [pair]
    exact List.cons_ne_nil _ _
  · rw [only]
    exact List.cons_ne_nil _ _

end ScriptLine

theorem ne_of_isLineBreak {c other : Char} (breaks : isLineBreak c = true)
    (plain : isLineBreak other = false)
    : c ≠ other := by
  rintro rfl
  rw [breaks] at plain
  cases plain

/-- The lines of a text with their breaks. A line that is not ended is given a line feed. -/
def scriptLinesFrom (line : List Char) : List Char → List ScriptLine
  | [] => if line = [] then [] else [⟨line.reverse, ['\n']⟩]
  | '\r' :: '\n' :: rest => ⟨line.reverse, ['\r', '\n']⟩ :: scriptLinesFrom [] rest
  | c :: rest =>
      if isLineBreak c then
        ⟨line.reverse, [c]⟩ :: scriptLinesFrom [] rest
      else
        scriptLinesFrom (c :: line) rest

def scriptLines (script : String) : List ScriptLine := scriptLinesFrom [] script.toList

def textOf (lines : List ScriptLine) : List Char := lines.flatMap ScriptLine.full

theorem splitLinesFrom_eq (line text : List Char)
    : splitLinesFrom line text = (scriptLinesFrom line text).map (String.ofList ·.text) := by
  induction line, text using scriptLinesFrom.induct with
  | case1 => rfl
  | case2 line some => simp [splitLinesFrom, scriptLinesFrom, some]
  | case3 line rest ih => simp [splitLinesFrom, scriptLinesFrom, ih]
  | case4 line c rest noPair breaks ih =>
      rw [splitLinesFrom, scriptLinesFrom, if_pos breaks, if_pos breaks, ih]
      · rfl
      · exact noPair
      · exact noPair
  | case5 line c rest noPair goesOn ih =>
      rw [splitLinesFrom, scriptLinesFrom, if_neg goesOn, if_neg goesOn, ih]
      · exact noPair
      · exact noPair

/-- The lines make up the text, perhaps with a line feed behind it. -/
theorem textOf_scriptLinesFrom (line text : List Char)
    : ∃ feed,
        (feed = [] ∨ feed = ['\n'])
        ∧ textOf (scriptLinesFrom line text) = line.reverse ++ (text ++ feed) := by
  induction line, text using scriptLinesFrom.induct with
  | case1 => exact ⟨[], .inl rfl, rfl⟩
  | case2 line some =>
      refine ⟨['\n'], .inr rfl, ?_⟩
      simp [scriptLinesFrom, some, textOf, ScriptLine.full]
  | case3 line rest ih =>
      obtain ⟨feed, short, whole⟩ := ih
      refine ⟨feed, short, ?_⟩
      rw [scriptLinesFrom, textOf, List.flatMap_cons, ← textOf, whole]
      simp [ScriptLine.full]
  | case4 line c rest noPair breaks ih =>
      obtain ⟨feed, short, whole⟩ := ih
      refine ⟨feed, short, ?_⟩
      rw [scriptLinesFrom, if_pos breaks, textOf, List.flatMap_cons, ← textOf, whole]
      · simp [ScriptLine.full]
      · exact noPair
  | case5 line c rest noPair goesOn ih =>
      obtain ⟨feed, short, whole⟩ := ih
      refine ⟨feed, short, ?_⟩
      rw [scriptLinesFrom, if_neg goesOn, whole]
      · simp
      · exact noPair

theorem proper_scriptLinesFrom {line : List Char} (unbroken : ∀ c ∈ line, isLineBreak c = false)
    (text : List Char)
    : ∀ found ∈ scriptLinesFrom line text, found.Proper := by
  have here : ∀ c ∈ line.reverse, isLineBreak c = false :=
    fun c member => unbroken c (List.mem_reverse.mp member)
  induction line, text using scriptLinesFrom.induct with
  | case1 => exact nofun
  | case2 line some =>
      rw [scriptLinesFrom, if_neg some]
      exact List.forall_mem_singleton.mpr ⟨here, .inr ⟨'\n', by decide, rfl⟩⟩
  | case3 line rest ih =>
      rw [scriptLinesFrom]
      exact List.forall_mem_cons.mpr ⟨⟨here, .inl rfl⟩, ih nofun nofun⟩
  | case4 line c rest noPair breaks ih =>
      rw [scriptLinesFrom, if_pos breaks]
      · exact List.forall_mem_cons.mpr ⟨⟨here, .inr ⟨c, breaks, rfl⟩⟩, ih nofun nofun⟩
      · exact noPair
  | case5 line c rest noPair goesOn ih =>
      have grown : ∀ d ∈ c :: line, isLineBreak d = false :=
        List.forall_mem_cons.mpr ⟨eq_false_of_ne_true goesOn, unbroken⟩
      rw [scriptLinesFrom, if_neg goesOn]
      · exact ih grown (fun d member => grown d (List.mem_reverse.mp member))
      · exact noPair

theorem isSpace_of_isLineBreak {c : Char} (breaks : isLineBreak c = true) : isSpace c = true := by
  rw [isLineBreak, List.contains_iff_mem] at breaks
  simp only [List.mem_cons, List.not_mem_nil, or_false] at breaks
  unfold isSpace
  rcases breaks with code | code | code | code | code | code | code | code | code | code <;>
    simp [code]

/-! ### What the splitter makes of a line -/

/-- The line is blank or begins as a comment. -/
def Dropped (line : List Char) : Prop :=
  "--".toList.isPrefixOf (strip (String.ofList line)).toList = true
  ∨ (strip (String.ofList line)).toList = []

instance : DecidablePred Dropped := fun _ => inferInstanceAs (Decidable (_ ∨ _))

/-- The line has a semicolon at its end. -/
def EndsStatement (line : List Char) : Prop :=
  (strip (String.ofList line)).toList.getLast? = some ';'

instance : DecidablePred EndsStatement := fun _ => inferInstanceAs (Decidable (_ = _))

theorem dropped_iff {line : List Char}
    : Dropped line
      ↔ (∀ c ∈ line, isSpace c = true)
        ∨ ∃ blanks rest, line = blanks ++ '-' :: '-' :: rest ∧ ∀ c ∈ blanks, isSpace c = true := by
  constructor
  · intro dropped
    obtain ⟨front, back, split, frontBlank, backBlank⟩ := strip_split (String.ofList line)
    rw [String.toList_ofList] at split
    rcases dropped with comment | empty
    · obtain ⟨rest, begins⟩ := List.isPrefixOf_iff_prefix.mp comment
      rw [← begins] at split
      exact .inr ⟨front, rest ++ back, by simpa using split, frontBlank⟩
    · rw [empty, List.nil_append] at split
      refine .inl fun c member => ?_
      rw [split] at member
      rcases List.mem_append.mp member with first | last
      · exact frontBlank c first
      · exact backBlank c last
  · rintro (blank | ⟨blanks, rest, split, blank⟩)
    · right
      rw [toList_strip, String.toList_ofList, List.dropWhile_eq_nil_iff.mpr blank]
      rfl
    · left
      have trimmed := @strip_around (String.ofList line) blanks ['-', '-'] rest
        (by rw [String.toList_ofList, split]; rfl) (List.cons_ne_nil _ _)
        (fun c first => by cases first; rfl) (fun c last => by cases last; rfl)
      rw [trimmed, List.dropWhile_eq_nil_iff.mpr blank]
      rfl

/-- A line that is not dropped has code behind its blanks, and no comment. -/
theorem kept_shape {line : List Char} (kept : ¬ Dropped line)
    : ∃ blanks c rest,
        line = blanks ++ c :: rest
        ∧ (∀ b ∈ blanks, isSpace b = true)
        ∧ isSpace c = false
        ∧ ¬ (c = '-' ∧ rest.head? = some '-') := by
  have split := (List.takeWhile_append_dropWhile (p := isSpace) (l := line)).symm
  have blank : ∀ b ∈ line.takeWhile isSpace, isSpace b = true :=
    fun b member => List.mem_takeWhile_imp member
  cases code : line.dropWhile isSpace with
  | nil =>
      rw [code, List.append_nil] at split
      exact absurd (dropped_iff.mpr (.inl (split ▸ blank))) kept
  | cons c rest =>
      rw [code] at split
      have first := List.head?_dropWhile_not isSpace line
      rw [code] at first
      refine ⟨line.takeWhile isSpace, c, rest, split, blank, by simpa using first, ?_⟩
      rintro ⟨rfl, second⟩
      obtain ⟨tail, rfl⟩ : ∃ tail, rest = '-' :: tail := by
        cases rest with
        | nil => cases second
        | cons next tail => exact ⟨tail, by rw [Option.some.inj second]⟩
      exact kept (dropped_iff.mpr (.inr ⟨_, tail, split, blank⟩))

/-! ### Groups of lines -/

/-- The groups of lines that are executed together, some lines of the first one being read. -/
def groupsFrom (current : List (List Char)) : List ScriptLine → List (List (List Char))
  | [] => [current]
  | line :: rest =>
      if Dropped line.text then
        groupsFrom current rest
      else if EndsStatement line.text then
        (current ++ [line.text]) :: groupsFrom [] rest
      else
        groupsFrom (current ++ [line.text]) rest

def groupText (group : List (List Char)) : List Char := group.flatMap (· ++ ['\n'])

/-- The text that is executed for a group. -/
def executedText (group : List (List Char)) : String :=
  cleanStatement (joinedLines (group.map String.ofList))

theorem statementsFrom_cons (current : List String) (line : List Char) (rest : List String)
    : statementsFrom current (String.ofList line :: rest)
      = if Dropped line then
          statementsFrom current rest
        else if EndsStatement line then
          joinedLines (current ++ [String.ofList line]) :: statementsFrom [] rest
        else
          statementsFrom (current ++ [String.ofList line]) rest :=
  rfl

theorem joinedLines_nil : joinedLines [] = "" := by decide

theorem filter_statementsFrom (current : List (List Char)) (lines : List ScriptLine)
    : (statementsFrom (current.map String.ofList)
          (lines.map (String.ofList ·.text))).filter (· ≠ "")
      = ((groupsFrom current lines).map
          (fun group => joinedLines (group.map String.ofList))).filter (· ≠ "") := by
  induction lines generalizing current with
  | nil =>
      rw [List.map_nil, statementsFrom, groupsFrom]
      cases current with
      | nil => simp [joinedLines_nil]
      | cons first rest => rfl
  | cons line rest ih =>
      rw [List.map_cons, statementsFrom_cons, groupsFrom]
      have grown
          : current.map String.ofList ++ [String.ofList line.text]
            = (current ++ [line.text]).map String.ofList := by
        simp
      by_cases dropped : Dropped line.text
      · rw [if_pos dropped, if_pos dropped]
        exact ih current
      · rw [if_neg dropped, if_neg dropped]
        by_cases ends : EndsStatement line.text
        · rw [if_pos ends, if_pos ends, grown, List.map_cons, List.filter_cons, List.filter_cons]
          have later := ih []
          rw [List.map_nil] at later
          rw [later]
        · rw [if_neg ends, if_neg ends, grown]
          exact ih _

theorem cleanStatement_empty : cleanStatement "" = "" := by decide

/-- The executed texts are those of the groups that have one. -/
theorem scriptStatements_eq (script : String)
    : scriptStatements script
      = ((groupsFrom [] (scriptLines script)).map executedText).filter (· ≠ "") := by
  have pass (texts : List String)
      : ((texts.filter (· ≠ "")).map cleanStatement).filter (· ≠ "")
        = (texts.map cleanStatement).filter (· ≠ "") := by
    induction texts with
    | nil => rfl
    | cons text rest ih =>
        by_cases empty : text = ""
        · subst empty
          simpa [cleanStatement_empty] using ih
        · rw [List.filter_cons_of_pos (by simpa using empty), List.map_cons, List.map_cons,
            List.filter_cons, List.filter_cons, ih]
  have lines := filter_statementsFrom [] (scriptLines script)
  rw [List.map_nil, scriptLines, ← splitLinesFrom_eq, ← splitLines] at lines
  rw [scriptStatements, lines, pass, List.map_map]
  rfl

theorem groupText_eq {group : List (List Char)} (some : group ≠ [])
    : groupText group = ("\n".intercalate (group.map String.ofList)).toList ++ ['\n'] := by
  rw [String.toList_intercalate, List.map_map]
  have same : group.map (String.toList ∘ String.ofList) = group := by
    simp [Function.comp_def]
  rw [same]
  induction group with
  | nil => exact absurd rfl some
  | cons line rest ih =>
      cases rest with
      | nil => simp [groupText]
      | cons next rest =>
          have later := ih (List.cons_ne_nil _ _) (by simp [Function.comp_def])
          rw [groupText, List.flatMap_cons, ← groupText, later, List.intercalate_cons_cons]
          simp

/-- What is executed for a group is its text without blanks around it, and without blanks and
semicolons at its end.
-/
theorem executedText_around (group : List (List Char))
    : ∃ front back,
        groupText group = front ++ (executedText group).toList ++ back
        ∧ (∀ c ∈ front, isSpace c = true)
        ∧ ∀ c ∈ back, isSpace c = true ∨ c = ';' := by
  by_cases some : group = []
  · subst some
    exact ⟨[], [], by decide, nofun, nofun⟩
  · rw [groupText_eq some, executedText, joinedLines]
    generalize "\n".intercalate (group.map String.ofList) = joined
    obtain ⟨front, back, outer, frontBlank, backBlank⟩ := strip_split joined
    generalize strip joined = statement at *
    obtain ⟨front', back', inner, frontBlank', backBlank'⟩ :=
      strip_split (String.ofList (statement.toList.rdropWhile (· = ';')))
    obtain ⟨semicolons, cut, only⟩
        : ∃ semicolons,
            statement.toList
              = front' ++ ((cleanStatement statement).toList ++ back') ++ semicolons
            ∧ ∀ c ∈ semicolons, c = ';' := by
      refine ⟨statement.toList.rtakeWhile (· = ';'), ?_, fun c member => ?_⟩
      · rw [String.toList_ofList] at inner
        exact (List.rdropWhile_append_rtakeWhile ..).symm.trans (congrArg (· ++ _) inner)
      · simpa using List.mem_rtakeWhile_imp member
    refine ⟨front ++ front', back' ++ (semicolons ++ (back ++ ['\n'])), ?_, ?_, ?_⟩
    · rw [outer, cut]
      simp only [List.append_assoc]
    · exact List.forall_mem_append.mpr ⟨frontBlank, frontBlank'⟩
    · intro c member
      rcases List.mem_append.mp member with here | member
      · exact .inl (backBlank' c here)
      rcases List.mem_append.mp member with here | member
      · exact .inr (only c here)
      rcases List.mem_append.mp member with here | here
      · exact .inl (backBlank c here)
      · rw [List.mem_singleton.mp here]
        exact .inl (by decide)

/-! ### Exact execution -/

section Execution

variable (ends : Char → Bool)

/-- What is executed are the statements of the script in their order, each by itself. -/
def ExecutesExactly (script : String) : Prop :=
  (∀ text ∈ scriptStatements script,
    Sql.Closed ends text.toList ∧ (Sql.statements ends text.toList).length ≤ 1)
  ∧ (scriptStatements script).flatMap (Sql.statements ends ·.toList)
    = Sql.statements ends script.toList

instance (script : String) : Decidable (ExecutesExactly ends script) :=
  inferInstanceAs (Decidable (_ ∧ _))

/-- Each group holds one statement at most, and the groups hold given statements in all. -/
def GroupsHold (groups : List (List (List Char))) (statements : List Sql.Statement) : Prop :=
  (∀ group ∈ groups,
    Sql.Closed ends (groupText group) ∧ (Sql.statements ends (groupText group)).length ≤ 1)
  ∧ groups.flatMap (fun group => Sql.statements ends (groupText group)) = statements

theorem closed_empty : Sql.Closed ends [] := trivial

/-- What is executed for a group holds the same statements as the group. -/
theorem executedText_reads (group : List (List Char))
    : (Sql.Closed ends (executedText group).toList ↔ Sql.Closed ends (groupText group))
      ∧ (Sql.Closed ends (groupText group)
          → Sql.statements ends (executedText group).toList
            = Sql.statements ends (groupText group)) := by
  obtain ⟨front, back, split, blank, loose⟩ := executedText_around group
  generalize (executedText group).toList = text at *
  rw [split]
  obtain ⟨closed, same⟩ := Sql.read_around blank loose
  exact ⟨closed.symm, fun whole => (same (closed.mp whole)).symm⟩

/-- A script is executed exactly if its groups hold its statements one by one. -/
theorem executesExactly_iff_groups (script : String)
    : ExecutesExactly ends script
      ↔ GroupsHold ends (groupsFrom [] (scriptLines script))
          (Sql.statements ends script.toList) := by
  have texts (groups : List (List (List Char)))
      : (∀ text ∈ (groups.map executedText).filter (· ≠ ""),
            Sql.Closed ends text.toList ∧ (Sql.statements ends text.toList).length ≤ 1)
          ↔ ∀ group ∈ groups,
              Sql.Closed ends (executedText group).toList
              ∧ (Sql.statements ends (executedText group).toList).length ≤ 1 := by
    simp only [List.mem_filter, List.mem_map, decide_eq_true_eq, and_imp, forall_exists_index,
      forall_apply_eq_imp_iff₂]
    refine forall₂_congr fun group _ => ⟨fun holds => ?_, fun holds _ => holds⟩
    by_cases empty : executedText group = ""
    · rw [empty]
      exact ⟨closed_empty ends, Nat.zero_le _⟩
    · exact holds empty
  have flat (groups : List (List (List Char)))
      : ((groups.map executedText).filter (· ≠ "")).flatMap (Sql.statements ends ·.toList)
        = groups.flatMap (fun group => Sql.statements ends (executedText group).toList) := by
    induction groups with
    | nil => rfl
    | cons group rest ih =>
        rw [List.map_cons, List.flatMap_cons, ← ih]
        by_cases empty : executedText group = ""
        · rw [List.filter_cons_of_neg (by simpa using empty), empty]
          rfl
        · rw [List.filter_cons_of_pos (by simpa using empty), List.flatMap_cons]
  have each (group : List (List Char))
      : (Sql.Closed ends (executedText group).toList
          ∧ (Sql.statements ends (executedText group).toList).length ≤ 1)
        ↔ Sql.Closed ends (groupText group)
          ∧ (Sql.statements ends (groupText group)).length ≤ 1 := by
    obtain ⟨closed, same⟩ := executedText_reads ends group
    rw [closed]
    exact and_congr_right fun whole => by rw [same whole]
  rw [ExecutesExactly, scriptStatements_eq, texts, flat, GroupsHold]
  simp only [each]
  refine and_congr_right fun all => ?_
  rw [List.flatMap_congr fun group member =>
    (executedText_reads ends group).2 (all group member).1]

end Execution

end PettyFlow.Migrations
