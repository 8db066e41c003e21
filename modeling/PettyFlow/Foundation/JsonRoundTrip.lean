import PettyFlow.Foundation.JsonText

/-! Reading undoes writing: a value whose floats are written as floats are is read back from its
text with sorted names, so that distinct sorted values have distinct texts.
-/

namespace Foundation.Json

theorem hexValue_hexDigit {n : Nat} (small : n < 16) : hexValue (hexDigit n) = some n := by
  have each : ∀ n < 16, hexValue (hexDigit n) = some n := by decide
  exact each n small

theorem hexDigits_four (n : Nat)
    : hexDigits 4 n
      = [hexDigit (n / 16 / 16 / 16 % 16), hexDigit (n / 16 / 16 % 16), hexDigit (n / 16 % 16),
        hexDigit (n % 16)] := rfl

/-- Four digits are read back as the code unit. -/
theorem unitOf_hexDigits {unit : Nat} (small : unit < 0x10000)
    : unitOf (hexDigit (unit / 16 / 16 / 16 % 16)) (hexDigit (unit / 16 / 16 % 16))
        (hexDigit (unit / 16 % 16)) (hexDigit (unit % 16))
      = some unit := by
  have value
      : 0x1000 * (unit / 16 / 16 / 16 % 16) + 0x100 * (unit / 16 / 16 % 16)
          + 0x10 * (unit / 16 % 16) + unit % 16
        = unit := by
    omega
  unfold unitOf
  rw [hexValue_hexDigit (Nat.mod_lt _ (by decide)), hexValue_hexDigit (Nat.mod_lt _ (by decide)),
    hexValue_hexDigit (Nat.mod_lt _ (by decide)), hexValue_hexDigit (Nat.mod_lt _ (by decide))]
  exact congrArg some value

/-- Put codes in front of what was scanned. -/
def prepend (codes : List Nat) (scanned : Option (List Nat × List Char))
    : Option (List Nat × List Char) :=
  scanned.map (fun (later, rest) => (codes ++ later, rest))

theorem scanCodes_escapeUnit {unit : Nat} (small : unit < 0x10000) (rest : List Char)
    : scanCodes (escapeUnit unit ++ rest) = prepend [unit] (scanCodes rest) := by
  unfold escapeUnit
  rw [hexDigits_four, List.cons_append, List.cons_append, List.cons_append, List.cons_append,
    List.cons_append, List.cons_append, List.nil_append, scanCodes, unitOf_hexDigits small]
  cases scanCodes rest <;> rfl

/-- The codes of a character: its own, or those of its two halves. -/
def codesOf (c : Char) : List Nat :=
  if c.toNat < 0x10000 then
    [c.toNat]
  else
    [0xD800 + (c.toNat - 0x10000) / 0x400, 0xDC00 + (c.toNat - 0x10000) % 0x400]

theorem char_bounds (c : Char) : c.toNat < 0xD800 ∨ 0xDFFF < c.toNat ∧ c.toNat < 0x110000 :=
  c.valid

/-- A short escape is scanned as the code of its character. -/
theorem scanCodes_shortEscape {c letter : Char} (short : shortEscape c = some letter)
    (rest : List Char)
    : scanCodes ('\\' :: letter :: rest) = prepend [c.toNat] (scanCodes rest) := by
  unfold shortEscape at short
  split at short <;> rename_i code <;> cases short <;> rw [code] <;>
    cases later : scanCodes rest <;> simp [scanCodes, unescape, prepend, later]

/-- Other printable characters are scanned as they are. -/
theorem scanCodes_plain {c : Char} (printable : 0x20 ≤ c.toNat) (long : shortEscape c = none)
    (rest : List Char)
    : scanCodes (c :: rest) = prepend [c.toNat] (scanCodes rest) := by
  have quote : c ≠ '"' := by
    rintro rfl
    cases long
  have backslash : c ≠ '\\' := by
    rintro rfl
    cases long
  have high : ¬ c.toNat < 0x20 := by omega
  cases later : scanCodes rest <;> simp [scanCodes, backslash, prepend, high, later]

/-- An escaped character is scanned as its codes, by cases over its escapes. -/
theorem scanCodes_escapeChar (c : Char) (rest : List Char)
    : scanCodes (escapeChar c ++ rest) = prepend (codesOf c) (scanCodes rest) := by
  have single (small : c.toNat < 0x10000) : codesOf c = [c.toNat] := if_pos small
  have valid := char_bounds c
  unfold escapeChar
  cases short : shortEscape c with
  | some letter =>
      have small : c.toNat < 0x10000 := by
        unfold shortEscape at short
        split at short <;> first | omega | cases short
      rw [single small]
      exact scanCodes_shortEscape short rest
  | none =>
      dsimp only
      split
      · rename_i printable
        rw [single (by omega)]
        exact scanCodes_plain printable.1 short rest
      split
      · rename_i small
        rw [single small]
        exact scanCodes_escapeUnit small rest
      · -- A character beyond the basic plane is written as two halves
        rename_i large
        rw [List.append_assoc, scanCodes_escapeUnit (by omega), scanCodes_escapeUnit (by omega),
          codesOf, if_neg large]
        cases scanCodes rest <;> rfl

/-- The codes of a character are joined to it. -/
theorem joinCodes_codesOf (c : Char) (codes : List Nat)
    : joinCodes (codesOf c ++ codes) = (joinCodes codes).map (c :: ·) := by
  have valid := char_bounds c
  have back : Char.ofNat c.toNat = c := Char.ofNat_toNat c
  unfold codesOf
  split
  · have whole : ¬ (0xD800 ≤ c.toNat ∧ c.toNat < 0xE000) := by omega
    cases codes with
    | nil => simp [joinCodes, whole, back]
    | cons code rest =>
        -- The code of a whole character is never the first half of a pair
        have noHalf : ¬ (0xD800 ≤ c.toNat ∧ c.toNat < 0xDC00 ∧ 0xDC00 ≤ code ∧ code < 0xE000) := by
          omega
        cases later : joinCodes (code :: rest) <;>
          simp [joinCodes, whole, noHalf, back, later]
  · rename_i large
    have halves
        : 0xD800 ≤ 0xD800 + (c.toNat - 0x10000) / 0x400
          ∧ 0xD800 + (c.toNat - 0x10000) / 0x400 < 0xDC00
          ∧ 0xDC00 ≤ 0xDC00 + (c.toNat - 0x10000) % 0x400
          ∧ 0xDC00 + (c.toNat - 0x10000) % 0x400 < 0xE000 := by
      omega
    have code
        : 0x10000 + (0xD800 + (c.toNat - 0x10000) / 0x400 - 0xD800) * 0x400
            + (0xDC00 + (c.toNat - 0x10000) % 0x400 - 0xDC00)
          = c.toNat := by
      omega
    rw [List.cons_append, List.cons_append, List.nil_append, joinCodes, if_pos halves, code, back]
    cases joinCodes codes <;> rfl

/-- The codes of a text are its characters' codes, by induction over the characters. -/
theorem scanCodes_escaped (chars rest : List Char)
    : scanCodes (chars.flatMap escapeChar ++ '"' :: rest)
      = some (chars.flatMap codesOf, rest) := by
  induction chars with
  | nil => rfl
  | cons c later ih =>
      rw [List.flatMap_cons, List.append_assoc, scanCodes_escapeChar, ih, List.flatMap_cons]
      rfl

theorem joinCodes_codes (chars : List Char)
    : joinCodes (chars.flatMap codesOf) = some chars := by
  induction chars with
  | nil => rfl
  | cons c later ih =>
      rw [List.flatMap_cons, joinCodes_codesOf, ih]
      rfl

theorem scanString_escaped (text : String) (rest : List Char)
    : reader.scanString (text.toList.flatMap escapeChar ++ '"' :: rest) = some (text, rest) := by
  have joined : reader.join (text.toList.flatMap codesOf) = some text := by
    change (joinCodes (text.toList.flatMap codesOf)).map String.ofList = _
    rw [joinCodes_codes, Option.map_some, String.ofList_toList]
  unfold JsonReader.scanString
  rw [scanCodes_escaped]
  exact congrArg (fun joined => joined.bind (fun text => some (text, rest))) joined

theorem reader_enter : reader.enter = some reader := rfl

@[simp] theorem reader_scanNumber (sign text : List Char)
    : reader.scanNumber sign text = scanNumber sign text := by
  unfold JsonReader.scanNumber
  cases scanNumber sign text with
  | none => rfl
  | some scanned =>
      obtain ⟨value, rest⟩ := scanned
      cases value with
      | int n => exact if_pos nofun
      | _ => rfl

/-- No digit, fraction or exponent follows, so that a number ends here. -/
def EndsNumber (rest : List Char) : Prop :=
  ∀ c ∈ rest.head?, c.isDigit = false ∧ c ≠ '.' ∧ c ≠ 'e' ∧ c ≠ 'E'

/-- The decimal text of a natural number is read back as its value. -/
theorem scanNumber_toDigits (sign : List Char) (n : Nat) {rest : List Char}
    (ends : EndsNumber rest)
    : scanNumber sign (Nat.toDigits 10 n ++ rest)
      = some (int (if sign = [] then n else -n), rest) := by
  have allDigits : ∀ c ∈ Nat.toDigits 10 n, c.isDigit = true :=
    fun c member => Nat.isDigit_of_mem_toDigits (by decide) (by decide) member
  have noMore : rest.takeWhile Char.isDigit = [] ∧ rest.dropWhile Char.isDigit = rest := by
    cases rest with
    | nil => exact ⟨rfl, rfl⟩
    | cons c later =>
        have stop := (ends c rfl).1
        simp [stop]
  have noFraction : scanFraction rest = [] := by
    unfold scanFraction
    split
    · exact absurd rfl (ends '.' rfl).2.1
    · rfl
  have noExponent : scanExponent rest = [] := by
    unfold scanExponent
    split <;> first | rfl | exact absurd rfl (ends _ rfl).2.2.1 | exact absurd rfl (ends _ rfl).2.2.2
  unfold scanNumber
  rw [List.takeWhile_append_of_pos allDigits, List.dropWhile_append_of_pos allDigits,
    noMore.1, noMore.2, List.append_nil]
  simp [noFraction, noExponent, Nat.ofDigitChars_ten_toDigits]

/-- The text of an integer is a sequence of digits, behind a sign when it is negative. -/
theorem int_text (n : Int)
    : (∃ m : Nat, n = m ∧ (toString n).toList = Nat.toDigits 10 m)
      ∨ ∃ m : Nat, n = -m ∧ (toString n).toList = '-' :: Nat.toDigits 10 m := by
  cases n with
  | ofNat m =>
      refine Or.inl ⟨m, rfl, ?_⟩
      change m.repr.toList = _
      rw [Nat.repr, String.toList_ofList]
  | negSucc m =>
      refine Or.inr ⟨m + 1, rfl, ?_⟩
      change ("-" ++ (m + 1).repr).toList = _
      simp [Nat.repr]

/-- A sequence of digits begins with a digit, which is none of the other marks. -/
theorem toDigits_head (m : Nat)
    : ∃ c rest, Nat.toDigits 10 m = c :: rest ∧ c.isDigit = true := by
  cases digits : Nat.toDigits 10 m with
  | nil => exact absurd digits Nat.toDigits_ne_nil
  | cons c rest =>
      refine ⟨c, rest, rfl, Nat.isDigit_of_mem_toDigits (b := 10) (n := m) (by decide) (by decide) ?_⟩
      rw [digits]
      exact List.mem_cons_self

theorem digit_marks {c : Char} (digit : c.isDigit = true)
    : isBlankMark c = false
      ∧ c ∉ ['"', '[', ']', '{', '}', 'n', 't', 'f', 'N', 'I', '-', ',', ':'] := by
  have excluded (mark : Char) (other : mark.isDigit = false) : c ≠ mark := by
    rintro rfl
    rw [other] at digit
    cases digit
  simp only [isBlankMark, List.mem_cons, List.not_mem_nil, or_false, not_or, Bool.or_eq_false_iff,
    decide_eq_false_iff_not]
  refine ⟨⟨⟨⟨?_, ?_⟩, ?_⟩, ?_⟩, ?_⟩
  all_goals first
    | exact excluded _ rfl
    | exact ⟨excluded _ rfl, excluded _ rfl, excluded _ rfl, excluded _ rfl, excluded _ rfl,
        excluded _ rfl, excluded _ rfl, excluded _ rfl, excluded _ rfl, excluded _ rfl,
        excluded _ rfl, excluded _ rfl, excluded _ rfl⟩

/-- Nothing, or a point and digits. -/
def IsFraction (text : List Char) : Prop :=
  text = [] ∨ ∃ digits, digits ≠ [] ∧ (∀ c ∈ digits, c.isDigit = true) ∧ text = '.' :: digits

/-- Nothing, or the mark of an exponent, its sign if there is one, and digits. -/
def IsExponent (text : List Char) : Prop :=
  text = []
  ∨ ∃ sign digits,
      (sign = [] ∨ sign = ['+'] ∨ sign = ['-'])
      ∧ digits ≠ []
      ∧ (∀ c ∈ digits, c.isDigit = true)
      ∧ text = 'e' :: (sign ++ digits)

/-- How floats are written: with a fraction, an exponent or both, or as one of three words. -/
inductive FloatText : String → Prop where
  | word {text : String} (known : text = "NaN" ∨ text = "Infinity" ∨ text = "-Infinity")
    : FloatText text
  | number {sign fraction exponent : List Char} (whole : Nat) (signed : sign = [] ∨ sign = ['-'])
      (isFraction : IsFraction fraction) (isExponent : IsExponent exponent)
      (marked : ¬ (fraction = [] ∧ exponent = []))
    : FloatText (String.ofList (sign ++ Nat.toDigits 10 whole ++ fraction ++ exponent))

theorem takeWhile_digits {digits rest : List Char} (all : ∀ c ∈ digits, c.isDigit = true)
    (stops : ∀ c ∈ rest.head?, c.isDigit = false)
    : (digits ++ rest).takeWhile Char.isDigit = digits
      ∧ (digits ++ rest).dropWhile Char.isDigit = rest := by
  rw [List.takeWhile_append_of_pos all, List.dropWhile_append_of_pos all]
  cases rest with
  | nil => exact ⟨List.append_nil _, rfl⟩
  | cons c later => simp [stops c rfl]

/-- A fraction is scanned up to what is no digit. -/
theorem scanFraction_append {fraction rest : List Char} (isFraction : IsFraction fraction)
    (stops : ∀ c ∈ rest.head?, c.isDigit = false ∧ c ≠ '.')
    : scanFraction (fraction ++ rest) = fraction := by
  rcases isFraction with rfl | ⟨digits, some, all, rfl⟩
  · cases rest with
    | nil => rfl
    | cons c later =>
        have other := (stops c rfl).2
        simp [scanFraction, other]
  · obtain ⟨d, more, rfl⟩ := List.exists_cons_of_ne_nil some
    have taken := (takeWhile_digits all (fun c member => (stops c member).1)).1
    rw [List.cons_append, scanFraction, taken]

/-- An exponent is scanned up to what is no digit, by cases over its sign. -/
theorem scanExponent_append {exponent rest : List Char} (isExponent : IsExponent exponent)
    (stops : ∀ c ∈ rest.head?, c.isDigit = false ∧ c ≠ 'e' ∧ c ≠ 'E')
    : scanExponent (exponent ++ rest) = exponent := by
  rcases isExponent with rfl | ⟨sign, digits, signed, some, all, rfl⟩
  · rw [List.nil_append]
    unfold scanExponent
    split <;> first | rfl | exact absurd rfl (stops _ rfl).2.1 | exact absurd rfl (stops _ rfl).2.2
  · obtain ⟨d, more, rfl⟩ := List.exists_cons_of_ne_nil some
    have taken := (takeWhile_digits all (fun c member => (stops c member).1)).1
    rcases signed with rfl | rfl | rfl
    · -- A digit is no sign, so the exponent has none
      have digit := all d List.mem_cons_self
      have noPlus : d ≠ '+' := by
        rintro rfl
        cases digit
      have noMinus : d ≠ '-' := by
        rintro rfl
        cases digit
      rw [List.nil_append, List.cons_append] at *
      rw [List.cons_append, scanExponent, taken]
      · rfl
      · simp [noPlus]
      · simp [noMinus]
    · rw [List.cons_append, List.append_assoc, List.singleton_append, scanExponent, taken]
      rfl
    · rw [List.cons_append, List.append_assoc, List.singleton_append, scanExponent, taken]
      rfl

theorem fraction_head {fraction rest : List Char} {P : Char → Prop}
    (isFraction : IsFraction fraction) (point : P '.') (later : ∀ c ∈ rest.head?, P c)
    : ∀ c ∈ (fraction ++ rest).head?, P c := by
  rcases isFraction with rfl | ⟨digits, _, _, rfl⟩
  · exact later
  · rintro c ⟨⟩
    exact point

theorem exponent_head {exponent rest : List Char} {P : Char → Prop}
    (isExponent : IsExponent exponent) (mark : P 'e') (later : ∀ c ∈ rest.head?, P c)
    : ∀ c ∈ (exponent ++ rest).head?, P c := by
  rcases isExponent with rfl | ⟨sign, digits, _, _, _, rfl⟩
  · exact later
  · rintro c ⟨⟩
    exact mark

/-- A number with a fraction or an exponent is scanned as a float: its parts are scanned one
after the other, each up to the mark of the next.
-/
theorem scanNumber_float {sign fraction exponent rest : List Char} (whole : Nat)
    (isFraction : IsFraction fraction) (isExponent : IsExponent exponent)
    (marked : ¬ (fraction = [] ∧ exponent = [])) (ends : EndsNumber rest)
    : scanNumber sign (Nat.toDigits 10 whole ++ (fraction ++ (exponent ++ rest)))
      = some
          (float (String.ofList (sign ++ Nat.toDigits 10 whole ++ fraction ++ exponent)), rest) := by
  have allDigits : ∀ c ∈ Nat.toDigits 10 whole, c.isDigit = true :=
    fun c member => Nat.isDigit_of_mem_toDigits (by decide) (by decide) member
  -- Each part ends where the next one begins, which is no digit
  have afterExponent : ∀ c ∈ rest.head?, c.isDigit = false ∧ c ≠ 'e' ∧ c ≠ 'E' :=
    fun c member => ⟨(ends c member).1, (ends c member).2.2⟩
  have afterFraction : ∀ c ∈ (exponent ++ rest).head?, c.isDigit = false ∧ c ≠ '.' :=
    exponent_head isExponent (by decide) (fun c member => ⟨(ends c member).1, (ends c member).2.1⟩)
  have afterWhole : ∀ c ∈ (fraction ++ (exponent ++ rest)).head?, c.isDigit = false :=
    fraction_head isFraction (by decide) (fun c member => (afterFraction c member).1)
  obtain ⟨taken, dropped⟩ := takeWhile_digits allDigits afterWhole
  unfold scanNumber
  simp only [taken, dropped, Nat.ofDigitChars_ten_toDigits, if_true,
    scanFraction_append isFraction afterFraction, List.drop_left,
    scanExponent_append isExponent afterExponent, if_neg marked]

/-- How the text of a float begins. -/
theorem floatText_head {text : String} (isFloat : FloatText text)
    : ∃ c rest, text.toList = c :: rest ∧ isBlankMark c = false ∧ c ≠ ']' := by
  cases isFloat with
  | word known =>
      rcases known with rfl | rfl | rfl
      · exact ⟨'N', "aN".toList, by decide, rfl, by decide⟩
      · exact ⟨'I', "nfinity".toList, by decide, rfl, by decide⟩
      · exact ⟨'-', "Infinity".toList, by decide, rfl, by decide⟩
  | @number sign fraction exponent whole signed isFraction isExponent marked =>
      rw [String.toList_ofList]
      rcases signed with rfl | rfl
      · obtain ⟨c, rest, digits, digit⟩ := toDigits_head whole
        obtain ⟨noBlank, noMark⟩ := digit_marks digit
        refine ⟨c, rest ++ fraction ++ exponent, by simp [digits], noBlank, ?_⟩
        rintro rfl
        exact noMark (by decide)
      · exact ⟨'-', Nat.toDigits 10 whole ++ fraction ++ exponent, by simp, rfl, by decide⟩

theorem scanValue_float (fuel : Nat) {text : String} (isFloat : FloatText text) {rest : List Char}
    (ends : EndsNumber rest)
    : reader.scanValue (fuel + 1) (text.toList ++ rest) = some (float text, rest) := by
  cases isFloat with
  | word known => rcases known with rfl | rfl | rfl <;> rfl
  | @number sign fraction exponent whole signed isFraction isExponent marked =>
      have number := @scanNumber_float sign fraction exponent rest whole isFraction isExponent
        marked ends
      obtain ⟨c, later, digits, digit⟩ := toDigits_head whole
      have noMark := (digit_marks digit).2
      simp only [List.mem_cons, List.not_mem_nil, or_false, not_or] at noMark
      rw [String.toList_ofList, List.append_assoc, List.append_assoc, List.append_assoc]
      rw [digits, List.cons_append] at number ⊢
      rcases signed with rfl | rfl
      · rw [List.nil_append] at number ⊢
        unfold JsonReader.scanValue
        -- No word begins with a digit, so the text is taken for a number
        split <;> simp_all
      · rw [List.singleton_append]
        unfold JsonReader.scanValue
        split <;> simp_all

mutual

/-- There is no float in the value. -/
def Plain : Json → Prop
  | float _ => False
  | arr elements => PlainElements elements
  | obj members => PlainMembers members
  | _ => True

def PlainElements : List Json → Prop
  | [] => True
  | value :: rest => value.Plain ∧ PlainElements rest

def PlainMembers : List (String × Json) → Prop
  | [] => True
  | (_, value) :: rest => value.Plain ∧ PlainMembers rest

end

mutual

/-- The texts of the floats in the value satisfy a predicate. -/
def FloatsIn (P : String → Prop) : Json → Prop
  | float text => P text
  | arr elements => ElementFloatsIn P elements
  | obj members => MemberFloatsIn P members
  | _ => True

def ElementFloatsIn (P : String → Prop) : List Json → Prop
  | [] => True
  | value :: rest => value.FloatsIn P ∧ ElementFloatsIn P rest

def MemberFloatsIn (P : String → Prop) : List (String × Json) → Prop
  | [] => True
  | (_, value) :: rest => value.FloatsIn P ∧ MemberFloatsIn P rest

end

/-- The floats in the value are written as floats are. -/
def Readable (value : Json) : Prop := value.FloatsIn FloatText

mutual

/-- A value without floats meets every condition on them. -/
theorem Plain.floatsIn {P : String → Prop} : {value : Json} → value.Plain → value.FloatsIn P
  | null, _ | bool _, _ | int _, _ | str _, _ => trivial
  | float _, plain => plain.elim
  | arr elements, plain => @plainElements_floatsIn P elements plain
  | obj members, plain => @plainMembers_floatsIn P members plain

theorem plainElements_floatsIn {P : String → Prop}
    : {elements : List Json} → PlainElements elements → ElementFloatsIn P elements
  | [], _ => trivial
  | _ :: _, plain => ⟨plain.1.floatsIn, plainElements_floatsIn plain.2⟩

theorem plainMembers_floatsIn {P : String → Prop}
    : {members : List (String × Json)} → PlainMembers members → MemberFloatsIn P members
  | [], _ => trivial
  | (_, _) :: _, plain => ⟨plain.1.floatsIn, plainMembers_floatsIn plain.2⟩

end

theorem Plain.readable {value : Json} (plain : value.Plain) : value.Readable := plain.floatsIn

/-- How the text of a value begins: with no blank, and with no closing bracket. -/
theorem print_head (separators : Separators) {value : Json} (readable : value.Readable)
    : ∃ c rest,
        value.print separators = c :: rest ∧ isBlankMark c = false ∧ c ≠ ']' := by
  cases value with
  | null => exact ⟨'n', "ull".toList, by rw [print]; rfl, rfl, by decide⟩
  | bool value =>
      cases value with
      | true => exact ⟨'t', "rue".toList, by rw [print]; rfl, rfl, by decide⟩
      | false => exact ⟨'f', "alse".toList, by rw [print]; rfl, rfl, by decide⟩
  | int n =>
      rcases int_text n with ⟨m, _, text⟩ | ⟨m, _, text⟩
      · obtain ⟨c, rest, digits, digit⟩ := toDigits_head m
        obtain ⟨noBlank, noMark⟩ := digit_marks digit
        refine ⟨c, rest, by rw [print, text, digits], noBlank, ?_⟩
        rintro rfl
        exact noMark (by decide)
      · exact ⟨'-', _, by rw [print, text], rfl, by decide⟩
  | float text =>
      obtain ⟨c, rest, head, noBlank, noBracket⟩ := floatText_head readable
      exact ⟨c, rest, by rw [print, head], noBlank, noBracket⟩
  | str text => exact ⟨'"', _, by rw [print]; rfl, rfl, by decide⟩
  | arr elements =>
      cases elements with
      | nil => exact ⟨'[', [']'], by rw [print]; rfl, rfl, by decide⟩
      | cons first rest => exact ⟨'[', _, by rw [print], rfl, by decide⟩
  | obj members =>
      cases members with
      | nil => exact ⟨'{', ['}'], by rw [print]; rfl, rfl, by decide⟩
      | cons first rest => exact ⟨'{', _, by rw [print], rfl, by decide⟩

theorem skipSpace_cons {c : Char} (noBlank : isBlankMark c = false) (rest : List Char)
    : skipSpace (c :: rest) = c :: rest := by
  simp [skipSpace, noBlank]

theorem skipSpace_blank (separators : Separators) (text : List Char)
    : skipSpace (separators.blank ++ text) = skipSpace text := by
  cases separators <;> simp [skipSpace, Separators.blank, isBlankMark]

theorem skipSpace_print (separators : Separators) {value : Json} (readable : value.Readable)
    (rest : List Char)
    : skipSpace (value.print separators ++ rest) = value.print separators ++ rest := by
  obtain ⟨c, later, text, noBlank, _⟩ := print_head separators readable
  rw [text, List.cons_append, skipSpace_cons noBlank]

theorem scanValue_int (fuel : Nat) (n : Int) {rest : List Char} (ends : EndsNumber rest)
    : reader.scanValue (fuel + 1) ((toString n).toList ++ rest) = some (int n, rest) := by
  rcases int_text n with ⟨m, rfl, text⟩ | ⟨m, rfl, text⟩
  · have number := scanNumber_toDigits [] m ends
    obtain ⟨c, later, digits, digit⟩ := toDigits_head m
    have noMark := (digit_marks digit).2
    simp only [List.mem_cons, List.not_mem_nil, or_false, not_or] at noMark
    rw [digits, List.cons_append] at number
    rw [text, digits, List.cons_append]
    unfold JsonReader.scanValue
    split <;> simp_all
  · have number := scanNumber_toDigits ['-'] m ends
    obtain ⟨c, later, digits, digit⟩ := toDigits_head m
    have noMark := (digit_marks digit).2
    simp only [List.mem_cons, List.not_mem_nil, or_false, not_or] at noMark
    rw [digits, List.cons_append] at number
    rw [text, digits, List.cons_append, List.cons_append]
    unfold JsonReader.scanValue
    split <;> simp_all

theorem endsNumber_cons {c : Char} (rest : List Char)
    (mark : c.isDigit = false ∧ c ≠ '.' ∧ c ≠ 'e' ∧ c ≠ 'E')
    : EndsNumber (c :: rest) := by
  rintro d ⟨⟩
  exact mark

theorem endsNumber_elements (separators : Separators) (elements : List Json) (rest : List Char)
    : EndsNumber (printElements separators elements ++ rest) := by
  cases elements with
  | nil =>
      rw [printElements]
      exact endsNumber_cons _ (by decide)
  | cons value more =>
      rw [printElements]
      exact endsNumber_cons _ (by decide)

theorem endsNumber_members (separators : Separators) (members : List (String × Json))
    (rest : List Char)
    : EndsNumber (printMembers separators members ++ rest) := by
  cases members with
  | nil =>
      rw [printMembers]
      exact endsNumber_cons _ (by decide)
  | cons value more =>
      rw [printMembers]
      exact endsNumber_cons _ (by decide)

/-- With the fuel `fuel`, every value whose text is no longer is read back. -/
def ReadsValues (separators : Separators) (fuel : Nat) : Prop :=
  ∀ value rest,
    Readable value
    → EndsNumber rest
    → (value.print separators).length ≤ fuel
    → reader.scanValue fuel (value.print separators ++ rest) = some (value, rest)

def ReadsElements (separators : Separators) (fuel : Nat) : Prop :=
  ∀ value more rest,
    Readable value
    → ElementFloatsIn FloatText more
    → (value.print separators ++ printElements separators more).length ≤ fuel
    → reader.scanElements fuel (value.print separators ++ (printElements separators more ++ rest))
      = some (value :: more, rest)

def ReadsMembers (separators : Separators) (fuel : Nat) : Prop :=
  ∀ name value more rest,
    Readable value
    → MemberFloatsIn FloatText more
    → (quote name ++ (value.print separators ++ printMembers separators more)).length ≤ fuel
    → reader.scanMembers fuel (quote name ++ ':' :: (separators.blank ++ (value.print separators
          ++ (printMembers separators more ++ rest))))
      = some ((name, value) :: more, rest)

theorem readsElements_succ {separators : Separators} {fuel : Nat}
    (values : ReadsValues separators fuel) (elements : ReadsElements separators fuel)
    : ReadsElements separators (fuel + 1) := by
  intro value more rest readable readableMore short
  rw [List.length_append] at short
  cases more with
  | nil =>
      have first := values value (']' :: rest) readable (endsNumber_cons _ (by decide))
        (by rw [printElements, List.length_singleton] at short; omega)
      rw [printElements, JsonReader.scanElements, List.singleton_append, first]
      rfl
  | cons next more =>
      have first := values value (printElements separators (next :: more) ++ rest) readable
        (endsNumber_elements _ _ _)
        (by rw [printElements, List.length_cons] at short; omega)
      -- One unit of fuel less is left for the rest, which is shorter by a character at least
      have later := elements next more rest readableMore.1 readableMore.2 (by
        rw [printElements, List.length_cons, List.length_append] at short
        omega)
      have skipped
          : skipSpace (separators.blank ++ (next.print separators
                ++ (printElements separators more ++ rest)))
            = next.print separators ++ (printElements separators more ++ rest) := by
        rw [skipSpace_blank, skipSpace_print separators readableMore.1]
      rw [JsonReader.scanElements, first]
      simp only [printElements, List.cons_append, List.append_assoc, Option.bind_eq_bind,
        Option.bind_some, skipSpace_cons (show isBlankMark ',' = false from rfl), skipped, later]
      rfl

theorem readsMembers_succ {separators : Separators} {fuel : Nat}
    (values : ReadsValues separators fuel) (members : ReadsMembers separators fuel)
    : ReadsMembers separators (fuel + 1) := by
  intro name value more rest readable readableMore short
  rw [List.length_append, List.length_append] at short
  have named : 0 < (quote name).length := by simp [quote]
  have string (rest : List Char)
      : quote name ++ rest = '"' :: (name.toList.flatMap escapeChar ++ '"' :: rest) := by
    simp [quote]
  have skipped (rest : List Char)
      : skipSpace (separators.blank ++ (value.print separators ++ rest))
        = value.print separators ++ rest := by
    rw [skipSpace_blank, skipSpace_print separators readable]
  cases more with
  | nil =>
      have first := values value ('}' :: rest) readable (endsNumber_cons _ (by decide))
        (by rw [printMembers, List.length_singleton] at short; omega)
      rw [string, JsonReader.scanMembers, scanString_escaped]
      simp only [printMembers, List.singleton_append, Option.bind_eq_bind,
        Option.bind_some, skipSpace_cons (show isBlankMark ':' = false from rfl), skipped, first]
      rfl
  | cons next more =>
      -- A comma follows: the value is read with this fuel, the other members with one less
      obtain ⟨nextName, next⟩ := next
      have first := values value (printMembers separators ((nextName, next) :: more) ++ rest)
        readable (endsNumber_members _ _ _)
        (by rw [printMembers, List.length_cons] at short; omega)
      have later := members nextName next more rest readableMore.1 readableMore.2 (by
        simp only [printMembers, List.length_cons, List.length_append] at short ⊢
        omega)
      have second
          : skipSpace (separators.blank ++ (quote nextName ++ ':' :: (separators.blank
                ++ (next.print separators ++ (printMembers separators more ++ rest)))))
            = quote nextName ++ ':' :: (separators.blank ++ (next.print separators
                ++ (printMembers separators more ++ rest))) := by
        rw [skipSpace_blank]
        exact skipSpace_cons rfl _
      rw [string, JsonReader.scanMembers, scanString_escaped]
      simp only [printMembers, List.cons_append, List.append_assoc, Option.bind_eq_bind,
        Option.bind_some, skipSpace_cons (show isBlankMark ':' = false from rfl), skipped] at first ⊢
      simp only [first, Option.bind_some, skipSpace_cons (show isBlankMark ',' = false from rfl),
        second, later]
      rfl

theorem readsValues_succ {separators : Separators} {fuel : Nat}
    (elements : ReadsElements separators fuel) (members : ReadsMembers separators fuel)
    : ReadsValues separators (fuel + 1) := by
  intro value rest readable ends short
  cases value with
  | null => rw [print]; rfl
  | bool value => cases value <;> (rw [print]; rfl)
  | int n =>
      rw [print]
      exact scanValue_int fuel n ends
  | float text =>
      rw [print]
      exact scanValue_float fuel readable ends
  | str text =>
      have string
          : quote text ++ rest = '"' :: (text.toList.flatMap escapeChar ++ '"' :: rest) := by
        simp [quote]
      rw [print, string, JsonReader.scanValue, scanString_escaped]
      rfl
  | arr values =>
      cases values with
      | nil => rw [print]; rfl
      | cons first more =>
          rw [print, List.length_cons] at short
          have inside := elements first more rest readable.1 readable.2 (by omega)
          obtain ⟨c, later, text, noBlank, noBracket⟩ :=
            print_head separators readable.1
          rw [print, List.cons_append, JsonReader.scanValue, List.append_assoc,
            skipSpace_print separators readable.1]
          rw [text, List.cons_append] at inside ⊢
          split
          · rename_i bracket
            exact absurd (List.cons.inj bracket).1 noBracket
          · rw [reader_enter, Option.bind_eq_bind, Option.bind_some, inside]
            rfl
  | obj values =>
      cases values with
      | nil => rw [print]; rfl
      | cons first more =>
          obtain ⟨name, first⟩ := first
          have inside := members name first more rest readable.1 readable.2 (by
            simp only [print, List.length_cons, List.length_append] at short ⊢
            omega)
          have opened (rest : List Char) : skipSpace (quote name ++ rest) = quote name ++ rest :=
            skipSpace_cons rfl _
          rw [print, List.cons_append, JsonReader.scanValue]
          simp only [List.append_assoc, List.cons_append, opened]
          rw [quote, List.cons_append] at inside ⊢
          -- The text begins with a quote, so it is not taken for an empty object
          exact congrArg (Option.map _) inside

/-- Reading with enough fuel undoes writing, by induction on the fuel. -/
theorem reads (separators : Separators) (fuel : Nat)
    : ReadsValues separators fuel ∧ ReadsElements separators fuel
      ∧ ReadsMembers separators fuel := by
  induction fuel with
  | zero =>
      refine ⟨?_, ?_, ?_⟩
      · intro value rest readable _ short
        obtain ⟨c, later, text, _⟩ := print_head separators readable
        rw [text, List.length_cons] at short
        omega
      · intro value more rest readable _ short
        obtain ⟨c, later, text, _⟩ := print_head separators readable
        rw [text, List.cons_append, List.length_cons] at short
        omega
      · intro name value more rest _ _ short
        rw [quote, List.cons_append, List.length_cons] at short
        omega
  | succ fuel ih =>
      obtain ⟨values, elements, members⟩ := ih
      exact ⟨readsValues_succ elements members, readsElements_succ values elements,
        readsMembers_succ values members⟩

/-- A value is read back from its text. -/
theorem loads_print_readable (separators : Separators) {value : Json} (readable : value.Readable)
    : loads (String.ofList (value.print separators)) = some value := by
  have scanned := (reads separators ((value.print separators).length + 1)).1 value [] readable
    nofun (by omega)
  have start := skipSpace_print separators readable []
  rw [List.append_nil] at scanned start
  unfold loads JsonReader.loads
  rw [String.toList_ofList]
  dsimp only
  rw [start, scanned]
  rfl

/-- A value without floats is read back from its text. -/
theorem loads_print (separators : Separators) {value : Json} (plain : value.Plain)
    : loads (String.ofList (value.print separators)) = some value :=
  loads_print_readable separators plain.readable

theorem plainMembers_iff (members : List (String × Json))
    : PlainMembers members ↔ ∀ member ∈ members, member.2.Plain := by
  induction members with
  | nil => simp [PlainMembers]
  | cons head rest ih => simp [PlainMembers, ih]

theorem plainElements_iff (elements : List Json)
    : PlainElements elements ↔ ∀ value ∈ elements, value.Plain := by
  induction elements with
  | nil => simp [PlainElements]
  | cons head rest ih => simp [PlainElements, ih]

theorem memberFloatsIn_iff {P : String → Prop} (members : List (String × Json))
    : MemberFloatsIn P members ↔ ∀ member ∈ members, member.2.FloatsIn P := by
  induction members with
  | nil => simp [MemberFloatsIn]
  | cons head rest ih => simp [MemberFloatsIn, ih]

mutual

/-- Sorting the names puts no other float into a value. -/
theorem sortKeys_floatsIn {P : String → Prop}
    : (value : Json) → value.FloatsIn P → value.sortKeys.FloatsIn P
  | null, _ | bool _, _ | int _, _ | str _, _ => trivial
  | float _, floats => floats
  | arr elements, floats => by
      rw [sortKeys]
      exact sortElements_floatsIn elements floats
  | obj members, floats => by
      rw [sortKeys]
      exact sortMembers_floatsIn members floats

theorem sortElements_floatsIn {P : String → Prop}
    : (elements : List Json)
      → ElementFloatsIn P elements → ElementFloatsIn P (sortElements elements)
  | [], _ => by
      rw [sortElements]
      trivial
  | value :: rest, floats => by
      rw [sortElements]
      exact ⟨sortKeys_floatsIn value floats.1, sortElements_floatsIn rest floats.2⟩

theorem sortMembers_floatsIn {P : String → Prop}
    : (members : List (String × Json))
      → MemberFloatsIn P members → MemberFloatsIn P (sortMembers members)
  | [], _ => by
      rw [sortMembers]
      trivial
  | (name, value) :: rest, floats => by
      rw [sortMembers, memberFloatsIn_iff]
      intro member placed
      rcases SortedMap.place_mem _ _ _ placed with rfl | old
      · exact sortKeys_floatsIn value floats.1
      · exact (memberFloatsIn_iff _).mp (sortMembers_floatsIn rest floats.2) member old

end

theorem sortMembers_sorted (members : List (String × Json))
    : (sortMembers members).Pairwise (fun a b => a.1 < b.1) := by
  induction members with
  | nil => simp [sortMembers]
  | cons head rest ih =>
      rw [sortMembers]
      exact SortedMap.place_sorted _ _ _ ih

/-- In an object with sorted names every name has one member. -/
theorem latest?_sortKeys (name : String) (value : Json)
    : value.sortKeys.latest? name = (value.member? name).map sortKeys := by
  cases value with
  | obj members =>
      rw [← member?_sortKeys, sortKeys]
      exact SortedMap.lookup_reverse (sortMembers_sorted members) name
  | _ => rfl

/-- A value is read back with sorted names. -/
theorem loads_text_readable (separators : Separators) {value : Json} (readable : value.Readable)
    : loads (text separators value) = some value.sortKeys :=
  loads_print_readable separators (sortKeys_floatsIn value readable)

/-- A value without floats is read back with sorted names. -/
theorem loads_text (separators : Separators) {value : Json} (plain : value.Plain)
    : loads (text separators value) = some value.sortKeys :=
  loads_text_readable separators plain.readable

/-- Only values that agree up to the order of names share a text. -/
theorem text_injective (separators : Separators) {value other : Json} (plain : value.Plain)
    (otherPlain : other.Plain) (same : text separators value = text separators other)
    : value.sortKeys = other.sortKeys := by
  have read := loads_text separators plain
  rw [same, loads_text separators otherPlain] at read
  exact (Option.some.inj read).symm

end Foundation.Json
