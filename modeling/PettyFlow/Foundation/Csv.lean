import Mathlib

/-! Tables as comma-separated values: a writer that quotes the fields that need it, and a reader that
allows the special characters within quotes only. Reading undoes writing.
-/

namespace Foundation.Csv

abbrev Row := List (List Char)

/-! ### Writing -/

/-- A character that may stand within quotes only. -/
def IsSpecial (c : Char) : Prop := c = ',' ∨ c = '"' ∨ c = '\r' ∨ c = '\n'

instance (c : Char) : Decidable (IsSpecial c) := by
  unfold IsSpecial
  infer_instance

/-- A text with its quotes doubled. -/
def doubled (text : List Char) : List Char :=
  text.flatMap (fun c => if c = '"' then ['"', '"'] else [c])

/-- A field is quoted if it has a special character, or if it is empty and its row's only one. -/
def writeField (only : Bool) (text : List Char) : List Char :=
  if (∃ c ∈ text, IsSpecial c) ∨ (only = true ∧ text = []) then
    '"' :: (doubled text ++ ['"'])
  else
    text

/-- Fields with commas between them, up to the end of the line. -/
def writeFields (only : Bool) : Row → List Char
  | [] => ['\r', '\n']
  | [text] => writeField only text ++ ['\r', '\n']
  | text :: following :: rest =>
      writeField only text ++ ',' :: writeFields only (following :: rest)

def writeRow (row : Row) : List Char := writeFields (row.length = 1) row

def write (rows : List Row) : List Char := rows.flatMap writeRow

/-! ### Reading -/

/-- Where the reader is: before a field, in one without quotes, within quotes, after a quote, or
between the two characters that end a line.
-/
inductive Place where
  | start
  | plain
  | quoted
  | closed
  | lineEnd
deriving DecidableEq

/-- Read rows, from the fields of the row and the part of the field that are already read. -/
def readRows : Place → List Char → Row → List Char → Option (List Row)
  | place, _, row, [] => if place = .start ∧ row = [] then some [] else none
  | .quoted, field, row, c :: rest =>
      if c = '"' then readRows .closed field row rest else readRows .quoted (field ++ [c]) row rest
  | .lineEnd, field, row, c :: rest =>
      if c = '\n' then (readRows .start [] [] rest).map (List.cons (row ++ [field])) else none
  | place, field, row, c :: rest =>
      if c = ',' then
        readRows .start [] (row ++ [field]) rest
      else if c = '\r' then
        readRows .lineEnd field row rest
      else if c = '"' then
        if place = .start then
          readRows .quoted [] row rest
        else if place = .closed then
          readRows .quoted (field ++ ['"']) row rest
        else
          none
      else if c = '\n' ∨ place = .closed then
        none
      else
        readRows .plain (field ++ [c]) row rest

def read (text : List Char) : Option (List Row) := readRows .start [] [] text

/-! ### Round trip -/

section RoundTrip

variable {place : Place}

theorem readRows_comma (outside : place ≠ .quoted ∧ place ≠ .lineEnd) (field : List Char)
    (row : Row) (rest : List Char)
    : readRows place field row (',' :: rest) = readRows .start [] (row ++ [field]) rest := by
  cases place with
  | quoted => exact absurd rfl outside.1
  | lineEnd => exact absurd rfl outside.2
  | start | plain | closed => rfl

theorem readRows_lineEnd (outside : place ≠ .quoted ∧ place ≠ .lineEnd) (field : List Char)
    (row : Row) (rest : List Char)
    : readRows place field row ('\r' :: '\n' :: rest)
      = (readRows .start [] [] rest).map (List.cons (row ++ [field])) := by
  cases place with
  | quoted => exact absurd rfl outside.1
  | lineEnd => exact absurd rfl outside.2
  | start | plain | closed => rfl

/-- A text without special characters is read as it is. -/
theorem readRows_plain {text : List Char} (clean : ∀ c ∈ text, ¬ IsSpecial c)
    (outside : place = .start ∨ place = .plain) (field : List Char) (row : Row) (rest : List Char)
    : ∃ next, (next ≠ .quoted ∧ next ≠ .lineEnd)
        ∧ readRows place field row (text ++ rest) = readRows next (field ++ text) row rest := by
  induction text generalizing place field with
  | nil =>
      refine ⟨place, ?_, by simp⟩
      rcases outside with rfl | rfl
      · decide
      · decide
  | cons c text ih =>
      obtain ⟨here, later⟩ := List.forall_mem_cons.mp clean
      obtain ⟨next, other, same⟩ := ih later (Or.inr rfl) (field ++ [c])
      refine ⟨next, other, ?_⟩
      simp only [IsSpecial, not_or] at here
      have step : readRows place field row (c :: (text ++ rest))
          = readRows .plain (field ++ [c]) row (text ++ rest) := by
        rcases outside with rfl | rfl
        · simp [readRows, here]
        · simp [readRows, here]
      rw [List.cons_append, step, same, List.append_assoc, List.singleton_append]

/-- A text within quotes is read up to the quote that is not doubled. -/
theorem readRows_quoted (text field : List Char) (row : Row) (rest : List Char)
    : readRows .quoted field row (doubled text ++ '"' :: rest)
      = readRows .closed (field ++ text) row rest := by
  induction text generalizing field with
  | nil => simp [doubled, readRows]
  | cons c text ih =>
      rw [doubled, List.flatMap_cons, ← doubled, List.append_assoc]
      by_cases quote : c = '"'
      · rw [if_pos quote, quote]
        have step : readRows .quoted field row ('"' :: '"' :: (doubled text ++ '"' :: rest))
            = readRows .quoted (field ++ ['"']) row (doubled text ++ '"' :: rest) := rfl
        rw [List.cons_append, List.singleton_append, step, ih, List.append_assoc,
          List.singleton_append]
      · rw [if_neg quote, List.singleton_append, readRows, if_neg quote, ih, List.append_assoc,
          List.singleton_append]

theorem readRows_field (only : Bool) (text : List Char) (row : Row) (rest : List Char)
    : ∃ next, (next ≠ .quoted ∧ next ≠ .lineEnd)
        ∧ readRows .start [] row (writeField only text ++ rest) = readRows next text row rest := by
  rw [writeField]
  split
  · refine ⟨.closed, by decide, ?_⟩
    have opened : readRows .start [] row ('"' :: (doubled text ++ '"' :: rest))
        = readRows .quoted [] row (doubled text ++ '"' :: rest) := rfl
    rw [List.cons_append, List.append_assoc, List.singleton_append, opened, readRows_quoted,
      List.nil_append]
  · rename_i plain
    rw [not_or] at plain
    exact readRows_plain (fun c member special => plain.1 ⟨c, member, special⟩) (Or.inl rfl) []
      row rest

/-- A written row is read as one row, by induction over its fields. -/
theorem readRows_fields (only : Bool) {fields : Row} (some : fields ≠ []) (row : Row)
    (rest : List Char)
    : readRows .start [] row (writeFields only fields ++ rest)
      = (readRows .start [] [] rest).map (List.cons (row ++ fields)) := by
  induction fields generalizing row with
  | nil => exact absurd rfl some
  | cons text later ih =>
      cases later with
      | nil =>
          obtain ⟨next, outside, same⟩ := readRows_field only text row ('\r' :: '\n' :: rest)
          rw [writeFields, List.append_assoc]
          exact same.trans (readRows_lineEnd outside ..)
      | cons following later =>
          obtain ⟨next, outside, same⟩ :=
            readRows_field only text row (',' :: (writeFields only (following :: later) ++ rest))
          rw [writeFields, List.append_assoc, List.cons_append, same, readRows_comma outside,
            ih (List.cons_ne_nil _ _), List.append_assoc, List.singleton_append]

/-- Every table whose rows have fields is read back from its text, by induction over its rows. -/
theorem read_write {rows : List Row} (some : ∀ row ∈ rows, row ≠ [])
    : read (write rows) = Option.some rows := by
  induction rows with
  | nil => rfl
  | cons row rows ih =>
      obtain ⟨here, later⟩ := List.forall_mem_cons.mp some
      rw [read, write, List.flatMap_cons, ← write, writeRow, readRows_fields _ here, ← read,
        ih later]
      rfl

end RoundTrip

end Foundation.Csv
