import PettyFlow.Foundation.CharTables
import PettyFlow.Foundation.JsonRoundTrip
import PettyFlow.Foundation.Uuid

/-! Identifiers read from text, as tolerantly as the source language reads them. -/

namespace Foundation

/-! ### Texts -/

/-- Remove a word wherever it occurs, from left to right. The number says how many characters of an
occurrence are still to be skipped.
-/
def removeAll (word : List Char) : Nat → List Char → List Char
  | _, [] => []
  | skip + 1, _ :: rest => removeAll word skip rest
  | 0, c :: rest =>
      if word <+: c :: rest then
        removeAll word (word.length - 1) rest
      else
        c :: removeAll word 0 rest

/-- Remove the characters of a kind at both ends. -/
def stripBy (p : Char → Bool) (text : List Char) : List Char :=
  ((text.dropWhile p).reverse.dropWhile p).reverse

theorem removeAll_of_not_mem {first : Char} {word text : List Char} (absent : first ∉ text)
    : removeAll (first :: word) 0 text = text := by
  induction text with
  | nil => rfl
  | cons c rest ih =>
      have here := List.ne_of_not_mem_cons absent
      have later := List.not_mem_of_not_mem_cons absent
      have other : ¬ first :: word <+: c :: rest := by
        intro starts
        exact here (List.cons_prefix_cons.mp starts).1
      rw [removeAll, if_neg other, ih later]

theorem stripBy_of_none {p : Char → Bool} {text : List Char} (none : ∀ c ∈ text, p c = false)
    : stripBy p text = text := by
  have untouched (text : List Char) (none : ∀ c ∈ text, p c = false) : text.dropWhile p = text := by
    cases text with
    | nil => rfl
    | cons c rest => exact List.dropWhile_cons_of_neg (by simp [none c List.mem_cons_self])
  rw [stripBy, untouched text none,
    untouched _ (fun c member => none c (List.mem_reverse.mp member)), List.reverse_reverse]

/-! ### Integers in base sixteen -/

/-- A blank of ASCII. -/
def isAsciiSpace (c : Char) : Bool := (0x09 ≤ c.toNat && c.toNat ≤ 0x0D) || c.toNat = 0x20

/-- A text with its blanks and decimal digits in ASCII, and without other characters beyond. -/
def toAscii (tables : CharTables) (c : Char) : Char :=
  if c.toNat < 127 then
    c
  else if isSpace c then
    ' '
  else
    ((tables.decimal? c).map Nat.digitChar).getD '?'

/-- Read digits with single underscores between them, and what follows. -/
def readDigits : Nat → Bool → List Char → Option (Nat × List Char)
  | value, underscore, [] => if underscore then none else some (value, [])
  | value, underscore, c :: rest =>
      match Json.hexValue c with
      | some digit => readDigits (16 * value + digit) false rest
      | none =>
          if underscore then
            none
          else if c = '_' then
            readDigits value true rest
          else
            some (value, c :: rest)

theorem readDigits_append (width n value : Nat) (rest : List Char)
    : readDigits value false (hexDigits width n ++ rest)
      = readDigits (16 ^ width * value + n % 16 ^ width) false rest := by
  induction width generalizing n rest with
  | zero => simp [hexDigits, Nat.mod_one]
  | succ width ih =>
      have last := Json.hexValue_hexDigit (Nat.mod_lt n (by decide : 0 < 16))
      rw [hexDigits, List.append_assoc, ih, List.singleton_append, readDigits, last]
      have regroup : 16 * (16 ^ width * value + n / 16 % 16 ^ width) + n % 16
          = 16 ^ (width + 1) * value + n % 16 ^ (width + 1) := by
        rw [Nat.pow_succ', Nat.mod_mul]
        ring
      dsimp only
      rw [regroup]

/-- Digits that begin with a digit, and after which only blanks come. -/
def readNumber (text : List Char) : Option Nat :=
  if (text.head?.bind Json.hexValue).isSome then
    match readDigits 0 false text with
    | some (value, rest) => if rest.all isAsciiSpace then some value else none
    | none => none
  else
    none

/-- What follows a prefix that says that the base is sixteen. -/
def dropPrefix : List Char → List Char
  | '0' :: x :: rest =>
      if x = 'x' ∨ x = 'X' then
        match rest with
        | '_' :: rest => rest
        | rest => rest
      else
        '0' :: x :: rest
  | text => text

/-- The integer that a text spells in base sixteen. -/
def intBase16 (tables : CharTables) (text : List Char) : Option Int :=
  match (text.map (toAscii tables)).dropWhile isAsciiSpace with
  | '-' :: rest => (readNumber (dropPrefix rest)).map (fun value => -Int.ofNat value)
  | '+' :: rest => (readNumber (dropPrefix rest)).map Int.ofNat
  | rest => (readNumber (dropPrefix rest)).map Int.ofNat

/-- What a hexadecimal digit is, and is not. -/
structure PlainDigit (c : Char) : Prop where
  digit : (Json.hexValue c).isSome = true
  ascii : c.toNat < 127
  space : isAsciiSpace c = false
  other : c ≠ '-' ∧ c ≠ '+' ∧ c ≠ 'x' ∧ c ≠ 'X' ∧ c ≠ 'u' ∧ c ≠ '{' ∧ c ≠ '}'

instance (c : Char) : Decidable (PlainDigit c) :=
  decidable_of_iff
    ((Json.hexValue c).isSome = true ∧ c.toNat < 127 ∧ isAsciiSpace c = false
      ∧ (c ≠ '-' ∧ c ≠ '+' ∧ c ≠ 'x' ∧ c ≠ 'X' ∧ c ≠ 'u' ∧ c ≠ '{' ∧ c ≠ '}'))
    ⟨fun plain => ⟨plain.1, plain.2.1, plain.2.2.1, plain.2.2.2⟩,
      fun plain => ⟨plain.digit, plain.ascii, plain.space, plain.other⟩⟩

theorem plainDigit_hexDigit {n : Nat} (small : n < 16) : PlainDigit (hexDigit n) := by
  have each : ∀ n < 16, PlainDigit (hexDigit n) := by decide
  exact each n small

theorem plainDigit_of_mem {width n : Nat} {c : Char} (member : c ∈ hexDigits width n)
    : PlainDigit c := by
  induction width generalizing n with
  | zero => cases member
  | succ width ih =>
      rcases List.mem_append.mp member with earlier | last
      · exact ih earlier
      · rw [List.mem_singleton.mp last]
        exact plainDigit_hexDigit (Nat.mod_lt _ (by decide))

theorem dropPrefix_of_plain {c d : Char} (plain : PlainDigit d) (rest : List Char)
    : dropPrefix (c :: d :: rest) = c :: d :: rest := by
  unfold dropPrefix
  split
  · rename_i same
    cases same
    rw [if_neg (not_or.mpr ⟨plain.other.2.2.1, plain.other.2.2.2.1⟩)]
  · rfl

/-- Plain digits are read as they are. -/
theorem intBase16_of_plain (tables : CharTables) {c d : Char} {rest : List Char}
    (plain : ∀ other ∈ c :: d :: rest, PlainDigit other)
    : intBase16 tables (c :: d :: rest)
      = (readNumber (c :: d :: rest)).map Int.ofNat := by
  have first := plain c List.mem_cons_self
  have second := plain d (List.mem_cons_of_mem _ List.mem_cons_self)
  have mapped : (c :: d :: rest).map (toAscii tables) = c :: d :: rest := by
    rw [List.map_congr_left (g := id), List.map_id]
    intro other member
    exact if_pos (plain other member).ascii
  rw [intBase16, mapped, List.dropWhile_cons_of_neg (by simp [first.space])]
  split
  · rename_i same
    exact absurd (List.cons.inj same).1 first.other.1
  · rename_i same
    exact absurd (List.cons.inj same).1 first.other.2.1
  · rw [dropPrefix_of_plain second]

/-- Digits are read back, from at least two of them. -/
theorem intBase16_hexDigits (tables : CharTables) (width : Nat) {n : Nat}
    (small : n < 16 ^ (width + 2))
    : intBase16 tables (hexDigits (width + 2) n) = some (n : Int) := by
  have read : readDigits 0 false (hexDigits (width + 2) n) = some (n, []) := by
    have append := readDigits_append (width + 2) n 0 []
    rwa [List.append_nil, Nat.mul_zero, Nat.zero_add, Nat.mod_eq_of_lt small] at append
  have plain : ∀ c ∈ hexDigits (width + 2) n, PlainDigit c := fun _ => plainDigit_of_mem
  have long := hexDigits_length (width + 2) n
  generalize hexDigits (width + 2) n = digits at read plain long
  cases digits with
  | nil => cases long
  | cons c digits =>
      cases digits with
      | nil => cases long
      | cons d rest =>
          have head : ((c :: d :: rest).head?.bind Json.hexValue).isSome = true :=
            (plain c List.mem_cons_self).digit
          rw [intBase16_of_plain tables plain, readNumber, if_pos head, read]
          rfl

inductive UuidError where
  | badlyFormed
  | invalidLiteral (literal : String)
  | outOfRange
deriving DecidableEq

namespace Uuid

def ofText (tables : CharTables) (text : String) : Except UuidError Uuid :=
  let hex := removeAll "uuid:".toList 0 (removeAll "urn:".toList 0 text.toList)
  let hex := (stripBy (fun c => c = '{' ∨ c = '}') hex).filter (fun c => c ≠ '-')
  if hex.length ≠ 32 then
    .error .badlyFormed
  else
    match intBase16 tables hex with
    | none => .error (.invalidLiteral (String.ofList hex))
    | some int =>
        if 0 ≤ int ∧ int < 2 ^ 128 then
          .ok ⟨BitVec.ofInt 128 int⟩
        else
          .error .outOfRange

theorem plainDigit_of_mem_digits {u : Uuid} {c : Char} (member : c ∈ u.digits) : PlainDigit c :=
  plainDigit_of_mem member

/-- The characters of the usual text are digits and dashes. -/
theorem mem_text {u : Uuid} {c : Char} (member : c ∈ u.text.toList) : c = '-' ∨ PlainDigit c := by
  have part {count first : Nat} (within : c ∈ (u.digits.drop first).take count) : PlainDigit c :=
    plainDigit_of_mem_digits (List.mem_of_mem_drop (List.mem_of_mem_take within))
  rw [text, String.toList_ofList] at member
  simp only [List.mem_append, List.mem_cons] at member
  rcases member with first | dash | second | dash | third | dash | fourth | dash | last
  · exact Or.inr (plainDigit_of_mem_digits (List.mem_of_mem_take first))
  · exact Or.inl dash
  · exact Or.inr (part second)
  · exact Or.inl dash
  · exact Or.inr (part third)
  · exact Or.inl dash
  · exact Or.inr (part fourth)
  · exact Or.inl dash
  · exact Or.inr (plainDigit_of_mem_digits (List.mem_of_mem_drop last))

theorem filter_text (u : Uuid) : u.text.toList.filter (fun c => c ≠ '-') = u.digits := by
  have kept {part : List Char} (within : part ⊆ u.digits)
      : part.filter (fun c => c ≠ '-') = part :=
    List.filter_eq_self.mpr
      (fun c member => decide_eq_true (plainDigit_of_mem_digits (within member)).other.1)
  have group (first : Nat) : (u.digits.drop first).take 4 ⊆ u.digits :=
    List.Subset.trans (List.take_subset ..) (List.drop_subset ..)
  have regroup (n m : Nat) (l : List Char)
      : (l.drop n).take m ++ l.drop (n + m) = l.drop n := by
    rw [← List.drop_drop, List.take_append_drop]
  rw [text, String.toList_ofList]
  simp only [List.filter_append, List.filter_cons, kept (List.take_subset ..), kept (group _),
    kept (List.drop_subset ..)]
  simp only [ne_eq, not_true_eq_false, decide_false, Bool.false_eq_true, if_false]
  rw [regroup 16 4, regroup 12 4, regroup 8 4, List.take_append_drop]

/-- An identifier is read back from its usual text. -/
theorem ofText_text (tables : CharTables) (u : Uuid) : ofText tables u.text = .ok u := by
  have absent {c : Char} (dash : c ≠ '-') (plain : ¬ PlainDigit c) : c ∉ u.text.toList :=
    fun member => (mem_text member).elim dash plain
  have small : u.int.toNat < 16 ^ (30 + 2) := by
    have := u.int.isLt
    simpa using this
  unfold ofText
  rw [show "uuid:".toList = 'u' :: "uid:".toList from rfl,
    show "urn:".toList = 'u' :: "rn:".toList from rfl,
    removeAll_of_not_mem (absent (by decide) (by decide)),
    removeAll_of_not_mem (absent (by decide) (by decide))]
  dsimp only
  rw [stripBy_of_none, filter_text, if_neg (by simp), digits, intBase16_hexDigits tables 30 small]
  · have bounded : (0 : Int) ≤ u.int.toNat ∧ (u.int.toNat : Int) < 2 ^ 128 := by
      have := u.int.isLt
      omega
    dsimp only
    rw [if_pos bounded, BitVec.ofInt_natCast, BitVec.ofNat_toNat, BitVec.setWidth_eq]
  · intro c member
    have brace : c ≠ '{' ∧ c ≠ '}' := by
      rcases mem_text member with rfl | plain
      · decide
      · exact plain.other.2.2.2.2.2
    simp [brace]

end Uuid

end Foundation
