import PettyFlow.Foundation.JsonRoundTrip

/-! Texts of the source language, in which halves of characters may stand alone, and the JSON
values whose texts are such. They are read with the limits of the interpreter.
-/

namespace Foundation

/-- A code point: a character, or one of the 2048 halves that begin at U+D800. -/
inductive CodePoint where
  | char (c : Char)
  | half (n : Fin 0x800)
deriving DecidableEq

abbrev WideText := List CodePoint

namespace WideText

def ofChars (text : List Char) : WideText := text.map .char

/-- The characters of a text that can be encoded: one without halves. -/
def chars? (text : WideText) : Option (List Char) :=
  text.mapM (fun
    | .char c => some c
    | .half _ => none)

def isAscii (text : WideText) : Bool :=
  text.all (fun
    | .char c => c.toNat < 128
    | .half _ => false)

@[simp] theorem chars?_ofChars (text : List Char) : (ofChars text).chars? = some text := by
  induction text with
  | nil => rfl
  | cons c rest ih =>
      unfold chars? ofChars at ih ⊢
      rw [List.map_cons, List.mapM_cons, ih]
      rfl

@[simp] theorem isAscii_ofChars (text : List Char)
    : (ofChars text).isAscii = text.all (fun c => c.toNat < 128) := by
  rw [isAscii, ofChars, List.all_map]
  rfl

theorem ofChars_injective {text other : List Char} (same : ofChars text = ofChars other)
    : text = other :=
  List.map_injective_iff.mpr (fun _ _ => CodePoint.char.inj) same

/-- The code point of a number. -/
def ofCode (code : Nat) : CodePoint :=
  if half : 0xD800 ≤ code ∧ code < 0xE000 then
    .half ⟨code - 0xD800, by omega⟩
  else
    .char (Char.ofNat code)

/-- The text of codes, in which two neighbouring halves of a character are joined. -/
def joinCodes : List Nat → WideText
  | [] => []
  | high :: low :: rest =>
      if 0xD800 ≤ high ∧ high < 0xDC00 ∧ 0xDC00 ≤ low ∧ low < 0xE000 then
        .char (Char.ofNat (0x10000 + (high - 0xD800) * 0x400 + (low - 0xDC00)))
          :: joinCodes rest
      else
        ofCode high :: joinCodes (low :: rest)
  | [code] => [ofCode code]

/-- Codes that are joined to characters alone are joined to the same text. -/
theorem joinCodes_of_chars {codes : List Nat} {text : List Char}
    (joined : Json.joinCodes codes = some text)
    : joinCodes codes = ofChars text := by
  induction codes using joinCodes.induct generalizing text with
  | case1 =>
      cases joined
      rfl
  | case2 high low rest pair ih =>
      rw [Json.joinCodes, if_pos pair] at joined
      obtain ⟨chars, later, same⟩ := Option.bind_eq_some_iff.mp joined
      cases same
      rw [joinCodes, if_pos pair, ih later]
      rfl
  | case3 high low rest noPair ih =>
      rw [Json.joinCodes, if_neg noPair] at joined
      split at joined
      · cases joined
      · rename_i whole
        obtain ⟨chars, later, same⟩ := Option.bind_eq_some_iff.mp joined
        cases same
        rw [joinCodes, if_neg noPair, ih later, ofCode, dif_neg whole]
        rfl
  | case4 code =>
      rw [Json.joinCodes] at joined
      split at joined
      · cases joined
      · rename_i whole
        cases joined
        rw [joinCodes, ofCode, dif_neg whole]
        rfl

end WideText

/-- A JSON value whose texts may hold halves of characters. -/
inductive WideJson where
  | null
  | bool (value : Bool)
  | int (value : Int)
  | float (text : String)
  | str (value : WideText)
  | arr (elements : List WideJson)
  | obj (members : List (WideText × WideJson))

/-- How many digits an integer may have, and how deep values may be nested; nothing where there
is no limit.
-/
structure ReaderLimits where
  digits : Option Nat
  depth : Option Nat

namespace WideJson

/-- A scalar that is no text. -/
def ofScalar : Json → WideJson
  | .bool value => .bool value
  | .int n => .int n
  | .float text => .float text
  | _ => .null

/-- The reader of values whose texts may hold halves, within limits. -/
def reader (limits : ReaderLimits) : JsonReader WideText WideJson where
  join codes := some (WideText.joinCodes codes)
  scalar := ofScalar
  str := .str
  arr := .arr
  obj := .obj
  digits := limits.digits
  depth := limits.depth

/-- The value that a text spells, or nothing where it spells none or goes beyond a limit. -/
def loads (limits : ReaderLimits) (text : String) : Option WideJson := (reader limits).loads text

/-- The member of a name in an object that was read: of those that were written, the last. -/
def latest? (name : String) : WideJson → Option WideJson
  | obj members => members.reverse.lookup (WideText.ofChars name.toList)
  | _ => none

end WideJson

namespace Json

mutual

/-- The same value among those whose texts may hold halves. -/
def widen : Json → WideJson
  | null => .null
  | bool value => .bool value
  | int n => .int n
  | float text => .float text
  | str text => .str (.ofChars text.toList)
  | arr elements => .arr (widenElements elements)
  | obj members => .obj (widenMembers members)

def widenElements : List Json → List WideJson
  | [] => []
  | value :: rest => value.widen :: widenElements rest

def widenMembers : List (String × Json) → List (WideText × WideJson)
  | [] => []
  | (name, value) :: rest => (.ofChars name.toList, value.widen) :: widenMembers rest

end

end Json

namespace WideJson

def unlimited : ReaderLimits := ⟨none, none⟩

theorem reader_enter : (reader unlimited).enter = some (reader unlimited) := rfl

theorem scanString_of_narrow {text rest : List Char} {value : String}
    (scanned : Json.reader.scanString text = some (value, rest))
    : (reader unlimited).scanString text = some (.ofChars value.toList, rest) := by
  obtain ⟨⟨codes, left⟩, found, scanned⟩ := Option.bind_eq_some_iff.mp scanned
  obtain ⟨value, joined, same⟩ := Option.bind_eq_some_iff.mp scanned
  cases same
  obtain ⟨chars, narrow, rfl⟩ := Option.map_eq_some_iff.mp joined
  rw [JsonReader.scanString, found, String.toList_ofList, ← WideText.joinCodes_of_chars narrow]
  rfl

theorem scanNumber_of_narrow {sign text rest : List Char} {value : Json}
    (scanned : Json.scanNumber sign text = some (value, rest))
    : (reader unlimited).scanNumber sign text = some (value.widen, rest) := by
  have scalar : (∃ n, value = .int n) ∨ ∃ text, value = .float text := by
    unfold Json.scanNumber at scanned
    dsimp only at scanned
    split at scanned
    · split at scanned
      · cases scanned
        exact Or.inl ⟨_, rfl⟩
      · cases scanned
        exact Or.inr ⟨_, rfl⟩
    · cases scanned
  unfold JsonReader.scanNumber
  rw [scanned]
  rcases scalar with ⟨n, rfl⟩ | ⟨text, rfl⟩
  · exact if_pos nofun
  · rfl

theorem literal_of_narrow {word : String} {value found : Json} {text rest : List Char}
    (same : ofScalar value = value.widen)
    (scanned : Json.reader.literal word value text = some (found, rest))
    : (reader unlimited).literal word value text = some (found.widen, rest) := by
  obtain ⟨⟨_, _⟩, known, same'⟩ := Option.map_eq_some_iff.mp scanned
  cases same'
  rw [JsonReader.literal, known, Option.map_some]
  unfold Json.literal at known
  split at known
  · cases known
    exact congrArg (fun value => some (value, _)) same
  · cases known

/-- What the narrow reader reads with some fuel is read alike. -/
structure ReadsNarrow (fuel : Nat) : Prop where
  value {text rest : List Char} {value : Json}
    (scanned : Json.reader.scanValue fuel text = some (value, rest))
    : (reader unlimited).scanValue fuel text = some (value.widen, rest)
  elements {text rest : List Char} {values : List Json}
    (scanned : Json.reader.scanElements fuel text = some (values, rest))
    : (reader unlimited).scanElements fuel text = some (Json.widenElements values, rest)
  members {text rest : List Char} {members : List (String × Json)}
    (scanned : Json.reader.scanMembers fuel text = some (members, rest))
    : (reader unlimited).scanMembers fuel text = some (Json.widenMembers members, rest)

namespace ReadsNarrow

variable {fuel : Nat} {text rest : List Char}

theorem value_succ (reads : ReadsNarrow fuel) {value : Json}
    (scanned : Json.reader.scanValue (fuel + 1) text = some (value, rest))
    : (reader unlimited).scanValue (fuel + 1) text = some (value.widen, rest) := by
  unfold JsonReader.scanValue at scanned
  split at scanned
  · obtain ⟨⟨found, left⟩, quoted, same⟩ := Option.map_eq_some_iff.mp scanned
    cases same
    rw [JsonReader.scanValue, scanString_of_narrow quoted]
    rfl
  · -- An array: no level is used up, as there is no limit
    rw [Json.reader_enter, Option.bind_eq_bind, Option.bind_some] at scanned
    rw [JsonReader.scanValue, reader_enter, Option.bind_eq_bind, Option.bind_some]
    split at scanned
    · cases scanned
      rfl
    · -- The text goes on with something else than the closing bracket
      obtain ⟨⟨found, left⟩, read, same⟩ := Option.map_eq_some_iff.mp scanned
      cases same
      simp only [reads.elements read]
      rfl
  · rw [Json.reader_enter, Option.bind_eq_bind, Option.bind_some] at scanned
    rw [JsonReader.scanValue, reader_enter, Option.bind_eq_bind, Option.bind_some]
    split at scanned
    · cases scanned
      rfl
    · -- The text goes on with something else than the closing bracket
      obtain ⟨⟨found, left⟩, read, same⟩ := Option.map_eq_some_iff.mp scanned
      cases same
      simp only [reads.members read]
      rfl
  · exact literal_of_narrow rfl scanned
  · exact literal_of_narrow rfl scanned
  · exact literal_of_narrow rfl scanned
  · exact literal_of_narrow rfl scanned
  · exact literal_of_narrow rfl scanned
  · exact literal_of_narrow rfl scanned
  · rename_i other
    rw [Json.reader_scanNumber] at scanned
    rw [JsonReader.scanValue]
    · exact scanNumber_of_narrow scanned
    · exact other
  · rw [Json.reader_scanNumber] at scanned
    rw [JsonReader.scanValue]
    · exact scanNumber_of_narrow scanned
    all_goals assumption

theorem elements_succ (reads : ReadsNarrow fuel) {values : List Json}
    (scanned : Json.reader.scanElements (fuel + 1) text = some (values, rest))
    : (reader unlimited).scanElements (fuel + 1) text
      = some (Json.widenElements values, rest) := by
  unfold JsonReader.scanElements at scanned
  obtain ⟨⟨value, left⟩, first, scanned⟩ := Option.bind_eq_some_iff.mp scanned
  have wideFirst := reads.value first
  dsimp only at scanned
  split at scanned
  · rename_i closing
    cases scanned
    simp only [JsonReader.scanElements, wideFirst, closing, bind, Option.bind]
    rfl
  · rename_i comma
    obtain ⟨⟨others, left⟩, later, same⟩ := Option.bind_eq_some_iff.mp scanned
    cases same
    simp only [JsonReader.scanElements, wideFirst, comma, reads.elements later, bind, Option.bind]
    rfl
  · cases scanned

theorem members_succ (reads : ReadsNarrow fuel) {members : List (String × Json)}
    (scanned : Json.reader.scanMembers (fuel + 1) text = some (members, rest))
    : (reader unlimited).scanMembers (fuel + 1) text
      = some (Json.widenMembers members, rest) := by
  unfold JsonReader.scanMembers at scanned
  split at scanned
  · cases scanned
  · rename_i _ _ text same
    cases same
    obtain ⟨⟨name, afterName⟩, named, scanned⟩ := Option.bind_eq_some_iff.mp scanned
    have wideName := scanString_of_narrow named
    dsimp only at scanned
    split at scanned
    · rename_i colon
      obtain ⟨⟨first, afterFirst⟩, read, scanned⟩ := Option.bind_eq_some_iff.mp scanned
      have wideFirst := reads.value read
      dsimp only at scanned
      split at scanned
      · rename_i closing
        cases scanned
        simp only [JsonReader.scanMembers, wideName, colon, wideFirst, closing, bind, Option.bind]
        rfl
      · rename_i comma
        obtain ⟨⟨others, left⟩, later, same⟩ := Option.bind_eq_some_iff.mp scanned
        cases same
        simp only [JsonReader.scanMembers, wideName, colon, wideFirst, comma, reads.members later,
          bind, Option.bind]
        rfl
      · cases scanned
    · cases scanned
  · cases scanned

end ReadsNarrow

/-- The three parts of the reader agree, by induction on the fuel. -/
theorem readsNarrow (fuel : Nat) : ReadsNarrow fuel := by
  induction fuel with
  | zero => constructor <;> intro _ _ _ scanned <;> cases scanned
  | succ fuel ih => exact ⟨ih.value_succ, ih.elements_succ, ih.members_succ⟩

theorem loads_of_narrow {text : String} {value : Json} (read : Json.loads text = some value)
    : loads unlimited text = some value.widen := by
  obtain ⟨⟨found, rest⟩, scanned, read⟩ := Option.bind_eq_some_iff.mp read
  unfold loads JsonReader.loads
  dsimp only at scanned read ⊢
  rw [(readsNarrow _).value scanned]
  dsimp only [bind, Option.bind]
  split at read
  · rename_i ended
    cases read
    rw [if_pos ended]
  · cases read

/-- A member is found under its name, whichever of the two kinds of text the name is of. -/
theorem lookup_widenMembers (name : String) (members : List (String × Json))
    : (Json.widenMembers members).lookup (.ofChars name.toList)
      = (members.lookup name).map Json.widen := by
  induction members with
  | nil => rfl
  | cons member rest ih =>
      obtain ⟨key, value⟩ := member
      rw [Json.widenMembers, List.lookup_cons, List.lookup_cons]
      by_cases same : name = key
      · subst same
        simp
      · have apart : WideText.ofChars name.toList ≠ .ofChars key.toList :=
          fun texts => same (String.toList_injective (WideText.ofChars_injective texts))
        rw [beq_false_of_ne same, beq_false_of_ne apart]
        exact ih

theorem widenMembers_append (members others : List (String × Json))
    : Json.widenMembers (members ++ others)
      = Json.widenMembers members ++ Json.widenMembers others := by
  induction members with
  | nil => rfl
  | cons member rest ih => simp [Json.widenMembers, ih]

theorem widenMembers_reverse (members : List (String × Json))
    : Json.widenMembers members.reverse = (Json.widenMembers members).reverse := by
  induction members with
  | nil => rfl
  | cons member rest ih => simp [widenMembers_append, Json.widenMembers, ih]

theorem latest?_widen (name : String) (value : Json)
    : value.widen.latest? name = (value.latest? name).map Json.widen := by
  cases value with
  | obj members =>
      have found := lookup_widenMembers name members.reverse
      rw [widenMembers_reverse] at found
      exact found
  | _ => rfl

end WideJson

end Foundation
