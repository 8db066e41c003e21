import Mathlib

/-! Byte strings: the UTF-8 encoding of texts, the decimal text of integers, and which ASCII
bytes occur in them.
-/

namespace Foundation

abbrev Bytes := List UInt8

def utf8 (text : String) : Bytes := text.toList.flatMap String.utf8EncodeChar

@[simp] theorem utf8_append (first second : String)
    : utf8 (first ++ second) = utf8 first ++ utf8 second := by
  simp [utf8]

private theorem utf8_toByteArray (text : String)
    : (utf8 text).toByteArray = text.toList.utf8Encode := rfl

theorem utf8_injective {first second : String} (same : utf8 first = utf8 second)
    : first = second := by
  have bytes := congrArg List.toByteArray same
  rw [utf8_toByteArray, utf8_toByteArray, String.utf8Encode_toList, String.utf8Encode_toList]
    at bytes
  exact String.toByteArray_inj.mp bytes

/-- A text whose encoding begins with that of another begins with the other text. -/
theorem utf8_prefix {first whole : String} {rest : Bytes}
    (split : utf8 whole = utf8 first ++ rest)
    : ∃ second, whole = first ++ second ∧ rest = utf8 second := by
  have bytes := congrArg List.toByteArray split.symm
  rw [List.toByteArray_append, utf8_toByteArray, utf8_toByteArray] at bytes
  obtain ⟨tail, chars⟩ := List.isPrefix_of_utf8Encode_append_eq_utf8Encode _ bytes
  have joined : whole = first ++ String.ofList tail := by
    rw [← String.toList_inj, String.toList_append, String.toList_ofList, chars]
  refine ⟨String.ofList tail, joined, ?_⟩
  rw [joined, utf8_append] at split
  exact (List.append_cancel_left split).symm

/-- The text that bytes encode, if they encode one. -/
def decodeUtf8 (bytes : Bytes) : Option String := String.fromUTF8? bytes.toByteArray

@[simp] theorem decodeUtf8_utf8 (text : String) : decodeUtf8 (utf8 text) = some text := by
  have encoded : (utf8 text).toByteArray = text.toByteArray := by
    rw [utf8_toByteArray, String.utf8Encode_toList]
  have valid : (utf8 text).toByteArray.IsValidUTF8 := encoded ▸ text.isValidUTF8
  have back : String.fromUTF8 (utf8 text).toByteArray valid = text :=
    String.toByteArray_inj.mp encoded
  rw [decodeUtf8, String.fromUTF8?, dif_pos valid, back]

/-- A byte below 128 occurs in the encoding of its own character only, because every byte of
a longer encoding is at least 128.
-/
theorem mem_utf8EncodeChar {c : Char} {b : UInt8} (ascii : b.toNat < 128)
    : b ∈ String.utf8EncodeChar c ↔ c.toNat = b.toNat := by
  unfold String.utf8EncodeChar Char.toNat
  dsimp only
  split
  · simp only [List.mem_singleton, ← UInt8.toNat_inj, UInt8.toNat_ofNat']
    omega
  · split
    · simp only [List.mem_cons, ← UInt8.toNat_inj, UInt8.toNat_ofNat', List.not_mem_nil, or_false]
      omega
    · split
      all_goals
        simp only [List.mem_cons, ← UInt8.toNat_inj, UInt8.toNat_ofNat', List.not_mem_nil,
          or_false]
        omega

/-- An ASCII character is in a text exactly when its byte is in the encoding. -/
theorem mem_utf8 {text : String} {b : UInt8} {c : Char} (ascii : b.toNat < 128)
    (code : c.toNat = b.toNat)
    : b ∈ utf8 text ↔ c ∈ text.toList := by
  unfold utf8
  rw [List.mem_flatMap]
  constructor
  · rintro ⟨d, member, inside⟩
    have same : d = c :=
      Char.toNat_inj.mp (((mem_utf8EncodeChar ascii).mp inside).trans code.symm)
    exact same ▸ member
  · exact fun member => ⟨c, member, (mem_utf8EncodeChar ascii).mpr code⟩

/-- The decimal text of an integer as bytes. -/
def decimal (n : Int) : Bytes := utf8 (toString n)

theorem decimal_injective {a b : Int} (same : decimal a = decimal b) : a = b :=
  Int.repr_injective (utf8_injective same)

private theorem natRepr_isDigit {n : Nat} {c : Char} (member : c ∈ n.repr.toList)
    : c.isDigit = true := by
  rw [Nat.repr, String.toList_ofList] at member
  exact Nat.isDigit_of_mem_toDigits (by decide) (by decide) member

/-- A decimal text consists of digits after an optional sign. -/
theorem mem_repr {n : Int} {c : Char} (member : c ∈ (toString n).toList)
    : c.isDigit = true ∨ c = '-' := by
  cases n with
  | ofNat n => exact Or.inl (natRepr_isDigit member)
  | negSucc n =>
      change c ∈ ("-" ++ n.succ.repr).toList at member
      rw [String.toList_append, List.mem_append] at member
      rcases member with sign | digit
      · exact Or.inr (List.mem_singleton.mp sign)
      · exact Or.inl (natRepr_isDigit digit)

theorem not_mem_decimal {n : Int} {b : UInt8} {c : Char} (ascii : b.toNat < 128)
    (code : c.toNat = b.toNat) (noDigit : c.isDigit = false) (noSign : c ≠ '-')
    : b ∉ decimal n := by
  intro member
  rcases mem_repr ((mem_utf8 ascii code).mp member) with digit | sign
  · rw [noDigit] at digit
    cases digit
  · exact noSign sign

theorem decimal_ne_nil (n : Int) : decimal n ≠ [] := by
  intro empty
  have blank : n.repr = "" := utf8_injective empty
  cases n with
  | ofNat n => exact Nat.repr_ne_empty blank
  | negSucc n => exact Nat.repr_ne_empty (String.append_eq_empty_iff.mp blank).2

end Foundation
