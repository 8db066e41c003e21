import Mathlib
import PettyFlow.Foundation.SortedMap
import PettyFlow.Foundation.Uuid
import PettyFlow.Foundation.Values

/-! Structured values as they cross the wire: the JSON data model with ordered members, and
the text that it is written as, with members in the order of their names.
-/

namespace Foundation

/-- A JSON value. A float is kept as the text that spells it. -/
inductive Json where
  | null
  | bool (value : Bool)
  | int (value : Int)
  | float (text : String)
  | str (value : String)
  | arr (elements : List Json)
  | obj (members : List (String × Json))

namespace Json

/-- The member of a name; a value that is no object has none. -/
def member? (name : String) : Json → Option Json
  | obj members => members.lookup name
  | _ => none

@[simp] theorem member?_obj (name : String) (members : List (String × Json))
    : (obj members).member? name = members.lookup name := rfl

/-- The text, if the value is one. -/
def str? : Json → Option String
  | str text => some text
  | _ => none

/-- The integer, if the value is one. -/
def int? : Json → Option Int
  | int n => some n
  | _ => none

/-- The text or nothing, if the value is one of these. -/
def strOrNull? : Json → Option (Option String)
  | null => some none
  | str text => some (some text)
  | _ => none

def ofStrOrNull : Option String → Json
  | none => null
  | some text => str text

@[simp] theorem strOrNull?_of (text : Option String)
    : (ofStrOrNull text).strOrNull? = some text := by
  cases text <;> rfl

/-- An object of texts, in the order of their names. -/
def ofTexts (texts : SortedMap String String) : Json :=
  obj (texts.entries.map (fun entry => (entry.1, str entry.2)))

/-- The texts of an object, if it has nothing else. -/
def texts? : Json → Option (SortedMap String String)
  | obj members =>
      (members.mapM (fun member : String × Json => member.2.str?.map (member.1, ·))).map
        SortedMap.ofEntries
  | _ => none

mutual

/-- The same value with the members of every object in the order of their names. -/
def sortKeys : Json → Json
  | arr elements => arr (sortElements elements)
  | obj members => obj (sortMembers members)
  | value => value

def sortElements : List Json → List Json
  | [] => []
  | value :: rest => value.sortKeys :: sortElements rest

def sortMembers : List (String × Json) → List (String × Json)
  | [] => []
  | (name, value) :: rest => SortedMap.place name value.sortKeys (sortMembers rest)

end

@[simp] theorem sortKeys_null : null.sortKeys = null := rfl

@[simp] theorem sortKeys_int (n : Int) : (int n).sortKeys = int n := rfl

@[simp] theorem sortKeys_str (text : String) : (str text).sortKeys = str text := rfl

@[simp] theorem sortKeys_ofStrOrNull (text : Option String)
    : (ofStrOrNull text).sortKeys = ofStrOrNull text := by
  cases text <;> rfl

theorem sortMembers_lookup (name : String) (members : List (String × Json))
    : (sortMembers members).lookup name = (members.lookup name).map sortKeys := by
  induction members with
  | nil => rfl
  | cons head rest ih =>
      obtain ⟨key, value⟩ := head
      rw [sortMembers, SortedMap.place_lookup, SortedMap.lookup_entry, ih]
      split <;> rfl

@[simp] theorem member?_sortKeys (name : String) (value : Json)
    : value.sortKeys.member? name = (value.member? name).map sortKeys := by
  cases value with
  | obj members =>
      rw [sortKeys]
      exact sortMembers_lookup name members
  | _ => rfl

/-- An object of texts is sorted already, by induction over its entries. -/
@[simp] theorem sortKeys_ofTexts (texts : SortedMap String String)
    : (ofTexts texts).sortKeys = ofTexts texts := by
  have sorted (entries : List (String × String))
      (ascending : entries.Pairwise (fun a b => a.1 < b.1))
      : sortMembers (entries.map (fun entry => (entry.1, str entry.2)))
        = entries.map (fun entry => (entry.1, str entry.2)) := by
    induction entries with
    | nil => rfl
    | cons head rest ih =>
        obtain ⟨above, tail⟩ := List.pairwise_cons.mp ascending
        rw [List.map_cons, sortMembers, ih tail, sortKeys_str]
        cases rest with
        | nil => rfl
        | cons next rest =>
            have first := above next List.mem_cons_self
            simp [SortedMap.place, first, not_lt_of_gt first]
  rw [ofTexts, sortKeys, sorted texts.entries texts.sorted]

/-- An object of texts is read back. -/
@[simp] theorem texts?_ofTexts (texts : SortedMap String String)
    : (ofTexts texts).texts? = some texts := by
  have read (entries : List (String × String))
      : (entries.map (fun entry => (entry.1, str entry.2))).mapM
          (fun member : String × Json => member.2.str?.map (member.1, ·))
        = some entries := by
    induction entries with
    | nil => rfl
    | cons head rest ih =>
        rw [List.map_cons, List.mapM_cons, ih]
        rfl
  rw [ofTexts, texts?, read, Option.map_some, SortedMap.ofEntries_entries]

/-- The digits that escape a code unit. -/
def escapeUnit (unit : Nat) : List Char := '\\' :: 'u' :: hexDigits 4 unit

/-- The letter of a character's short escape. -/
def shortEscape (c : Char) : Option Char :=
  match c.toNat with
  | 0x22 => some '"'
  | 0x5C => some '\\'
  | 0x0A => some 'n'
  | 0x0D => some 'r'
  | 0x09 => some 't'
  | 0x0C => some 'f'
  | 0x08 => some 'b'
  | _ => none

/-- A character in a text: itself when it is printable ASCII, else escaped, by two code
units beyond the first plane.
-/
def escapeChar (c : Char) : List Char :=
  match shortEscape c with
  | some letter => ['\\', letter]
  | none =>
      if 0x20 ≤ c.toNat ∧ c.toNat ≤ 0x7E then [c]
      else if c.toNat < 0x10000 then escapeUnit c.toNat
      else
        escapeUnit (0xD800 + (c.toNat - 0x10000) / 0x400)
          ++ escapeUnit (0xDC00 + (c.toNat - 0x10000) % 0x400)

def quote (text : String) : List Char :=
  '"' :: (text.toList.flatMap escapeChar ++ ['"'])

/-- What stands between elements and after names: nothing but the marks, or a blank after
each of them.
-/
inductive Separators where
  | compact
  | spaced

def Separators.blank : Separators → List Char
  | .compact => []
  | .spaced => [' ']

mutual

/-- The text of a value. -/
def print (separators : Separators) : Json → List Char
  | null => "null".toList
  | bool true => "true".toList
  | bool false => "false".toList
  | int n => (toString n).toList
  | float text => text.toList
  | str text => quote text
  | arr [] => "[]".toList
  | arr (first :: rest) => '[' :: (first.print separators ++ printElements separators rest)
  | obj [] => "{}".toList
  | obj ((name, first) :: rest) =>
      '{' :: (quote name ++ ':' :: (separators.blank ++ (first.print separators
        ++ printMembers separators rest)))

/-- The elements after the first, each behind a comma, and the closing bracket. -/
def printElements (separators : Separators) : List Json → List Char
  | [] => [']']
  | value :: rest =>
      ',' :: (separators.blank ++ (value.print separators ++ printElements separators rest))

/-- The members after the first, each behind a comma, and the closing brace. -/
def printMembers (separators : Separators) : List (String × Json) → List Char
  | [] => ['}']
  | (name, value) :: rest =>
      ',' :: (separators.blank ++ (quote name ++ ':' :: (separators.blank
        ++ (value.print separators ++ printMembers separators rest))))

end

/-- The text of a value with sorted names, whatever the size of its integers. -/
def text (separators : Separators) (value : Json) : String :=
  String.ofList (value.sortKeys.print separators)

mutual

/-- Every integer of a value can be written in decimal. -/
def printable : Json → Bool
  | null | bool _ | float _ | str _ => true
  | int n => HasDecimal n
  | arr elements => printableElements elements
  | obj members => printableMembers members

def printableElements : List Json → Bool
  | [] => true
  | value :: rest => value.printable && printableElements rest

def printableMembers : List (String × Json) → Bool
  | [] => true
  | (_, value) :: rest => value.printable && printableMembers rest

end

/-- The text of a value with sorted names; an integer that is too large to write raises. -/
def dumps (separators : Separators) (value : Json) : Option String :=
  if value.printable then some (value.text separators) else none

theorem dumps_of_printable (separators : Separators) {value : Json}
    (printable : value.printable = true)
    : value.dumps separators = some (value.text separators) :=
  if_pos printable

@[simp] theorem printable_obj (members : List (String × Json))
    : (obj members).printable = true ↔ ∀ member ∈ members, member.2.printable = true := by
  rw [printable]
  induction members with
  | nil => simp [printableMembers]
  | cons head rest ih =>
      rw [printableMembers, Bool.and_eq_true, ih, List.forall_mem_cons]

@[simp] theorem printable_int (n : Int) : (int n).printable = true ↔ HasDecimal n := by
  rw [printable, decide_eq_true_iff]

@[simp] theorem printable_null : null.printable = true := rfl

@[simp] theorem printable_str (text : String) : (str text).printable = true := rfl

@[simp] theorem printable_ofStrOrNull (text : Option String)
    : (ofStrOrNull text).printable = true := by
  cases text <;> simp [ofStrOrNull]

@[simp] theorem printable_ofTexts (texts : SortedMap String String)
    : (ofTexts texts).printable = true := by
  rw [ofTexts, printable_obj]
  intro member inside
  obtain ⟨entry, _, rfl⟩ := List.mem_map.mp inside
  rfl

example
    : text .compact
        (obj [("status", str "größe 😀"), ("id", int (-12)), ("items", arr [null, bool true])])
      = "\x7b\"id\":-12,\"items\":[null,true],\"status\":\"gr\\u00f6\\u00dfe \\ud83d\\ude00\"\x7d" := by
  decide

end Json

end Foundation
