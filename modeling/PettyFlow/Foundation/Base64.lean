import PettyFlow.Foundation.Bytes

/-! Base64: three bytes written as four digits of six bits each, with padding at the end, and
read by a scanner that passes over what is no digit. The alphabet that is safe in URLs has other
characters for its last two digits.
-/

namespace Foundation.Base64

/-- The character of a digit. -/
def digit (n : Nat) : Char :=
  if n < 26 then Char.ofNat (n + 65)
  else if n < 52 then Char.ofNat (n + 71)
  else if n < 62 then Char.ofNat (n - 4)
  else if n = 62 then '+'
  else '/'

/-- The digit of a character. -/
def value? (c : Char) : Option Nat :=
  if 'A' ≤ c ∧ c ≤ 'Z' then some (c.toNat - 65)
  else if 'a' ≤ c ∧ c ≤ 'z' then some (c.toNat - 71)
  else if '0' ≤ c ∧ c ≤ '9' then some (c.toNat + 4)
  else if c = '+' then some 62
  else if c = '/' then some 63
  else none

/-- The digits of bytes: those of whole groups of three, then those of the bytes left over. -/
def digits : Bytes → List Nat
  | [] => []
  | [a] => [a.toNat / 4, a.toNat % 4 * 16]
  | [a, b] => [a.toNat / 4, a.toNat % 4 * 16 + b.toNat / 16, b.toNat % 16 * 4]
  | a :: b :: c :: rest =>
      a.toNat / 4 :: (a.toNat % 4 * 16 + b.toNat / 16) :: (b.toNat % 16 * 4 + c.toNat / 64)
        :: c.toNat % 64 :: digits rest

/-- The marks that fill up the last group of so many digits. -/
def padding (count : Nat) : List Char := List.replicate ((4 - count % 4) % 4) '='

/-- The text of bytes. -/
def encode (bytes : Bytes) : List Char :=
  (digits bytes).map digit ++ padding (digits bytes).length

/-- The bytes that are complete in a group of at most four digits. -/
def wholeBytes : List Nat → Bytes
  | [p, q] => [UInt8.ofNat (p * 4 + q / 16)]
  | [p, q, r] => [UInt8.ofNat (p * 4 + q / 16), UInt8.ofNat (q % 16 * 16 + r / 4)]
  | [p, q, r, s] =>
      [
        UInt8.ofNat (p * 4 + q / 16),
        UInt8.ofNat (q % 16 * 16 + r / 4),
        UInt8.ofNat (r % 4 * 64 + s)
      ]
  | _ => []

/-- What is read, with the digits pending in the group under way and the marks seen since the
last of them. Marks that fill up a group end the reading, and a group left open is refused.
-/
def scan : List Nat → Nat → List Char → Option Bytes
  | pending, _, [] => if pending = [] then some [] else none
  | pending, pads, c :: rest =>
      if c = '=' then
        if pending.length < 2 then scan pending pads rest
        else if pending.length + pads + 1 < 4 then scan pending (pads + 1) rest
        else some (wholeBytes pending)
      else
        match value? c with
        | none => scan pending pads rest
        | some n =>
            if pending.length = 3 then
              (scan [] 0 rest).map (wholeBytes (pending ++ [n]) ++ ·)
            else
              scan (pending ++ [n]) 0 rest

/-- The bytes of a text; texts beyond ASCII are refused. -/
def decode (text : List Char) : Option Bytes :=
  if text.all (fun c => c.toNat < 128) then scan [] 0 text else none

def toUrlSafe (c : Char) : Char :=
  if c = '+' then '-' else if c = '/' then '_' else c

def fromUrlSafe (c : Char) : Char :=
  if c = '-' then '+' else if c = '_' then '/' else c

def urlsafeEncode (bytes : Bytes) : List Char := (encode bytes).map toUrlSafe

def urlsafeDecode (text : List Char) : Option Bytes := decode (text.map fromUrlSafe)

example : String.ofList (encode (utf8 "Many hands")) = "TWFueSBoYW5kcw==" := by decide

example : (decode "TWFu eSBo\nYW5kcw==TWFu".toList).isSome = true := by decide

theorem digits_lt {bytes : Bytes} {n : Nat} (member : n ∈ digits bytes) : n < 64 := by
  induction bytes using digits.induct with
  | case1 => cases member
  | case2 a =>
      have bound := a.toNat_lt
      simp only [digits, List.mem_cons, List.not_mem_nil, or_false] at member
      omega
  | case3 a b =>
      have bound := a.toNat_lt
      have boundB := b.toNat_lt
      simp only [digits, List.mem_cons, List.not_mem_nil, or_false] at member
      omega
  | case4 a b c rest ih =>
      have bound := a.toNat_lt
      have boundB := b.toNat_lt
      have boundC := c.toNat_lt
      simp only [digits, List.mem_cons] at member
      rcases member with here | here | here | here | later
      · omega
      · omega
      · omega
      · omega
      · exact ih later

/-- What holds of the characters of all digits holds of the digits of bytes. -/
theorem digits_forall {P : Char → Prop} (each : ∀ n < 64, P (digit n)) (bytes : Bytes)
    : ∀ c ∈ (digits bytes).map digit, P c := by
  intro c member
  obtain ⟨n, inside, rfl⟩ := List.mem_map.mp member
  exact each n (digits_lt inside)

theorem value?_digit {n : Nat} (small : n < 64) : value? (digit n) = some n := by
  have each : ∀ n < 64, value? (digit n) = some n := by decide
  exact each n small

theorem digit_ne_mark {n : Nat} (small : n < 64) : digit n ≠ '=' := by
  have each : ∀ n < 64, digit n ≠ '=' := by decide
  exact each n small

theorem fromUrlSafe_toUrlSafe {n : Nat} (small : n < 64)
    : fromUrlSafe (toUrlSafe (digit n)) = digit n := by
  have each : ∀ n < 64, fromUrlSafe (toUrlSafe (digit n)) = digit n := by decide
  exact each n small

section Scan

variable {pending : List Nat} {pads n : Nat} {rest : List Char}

/-- A digit that does not fill up its group waits. -/
theorem scan_digit (small : n < 64) (short : pending.length ≠ 3)
    : scan pending pads (digit n :: rest) = scan (pending ++ [n]) 0 rest := by
  rw [scan, if_neg (digit_ne_mark small), value?_digit small]
  exact if_neg short

/-- The fourth digit of a group completes three bytes. -/
theorem scan_lastDigit (small : n < 64) (three : pending.length = 3)
    : scan pending pads (digit n :: rest)
      = (scan [] 0 rest).map (wholeBytes (pending ++ [n]) ++ ·) := by
  rw [scan, if_neg (digit_ne_mark small), value?_digit small]
  exact if_pos three

end Scan

theorem ofNat_eq {a : UInt8} {n : Nat} (same : n = a.toNat) : UInt8.ofNat n = a := by
  rw [same, UInt8.ofNat_toNat]

/-- Four digits give back the three bytes they were taken from. -/
theorem wholeBytes_group (a b c : UInt8)
    : wholeBytes [a.toNat / 4, a.toNat % 4 * 16 + b.toNat / 16, b.toNat % 16 * 4 + c.toNat / 64,
        c.toNat % 64]
      = [a, b, c] := by
  have boundB := b.toNat_lt
  have boundC := c.toNat_lt
  have first : a.toNat / 4 * 4 + (a.toNat % 4 * 16 + b.toNat / 16) / 16 = a.toNat := by omega
  have second
      : (a.toNat % 4 * 16 + b.toNat / 16) % 16 * 16 + (b.toNat % 16 * 4 + c.toNat / 64) / 4
        = b.toNat := by
    omega
  have third : (b.toNat % 16 * 4 + c.toNat / 64) % 4 * 64 + c.toNat % 64 = c.toNat := by omega
  rw [wholeBytes, ofNat_eq first, ofNat_eq second, ofNat_eq third]

theorem wholeBytes_two (a b : UInt8)
    : wholeBytes [a.toNat / 4, a.toNat % 4 * 16 + b.toNat / 16, b.toNat % 16 * 4] = [a, b] := by
  have boundB := b.toNat_lt
  have first : a.toNat / 4 * 4 + (a.toNat % 4 * 16 + b.toNat / 16) / 16 = a.toNat := by omega
  have second
      : (a.toNat % 4 * 16 + b.toNat / 16) % 16 * 16 + b.toNat % 16 * 4 / 4 = b.toNat := by
    omega
  rw [wholeBytes, ofNat_eq first, ofNat_eq second]

theorem wholeBytes_one (a : UInt8) : wholeBytes [a.toNat / 4, a.toNat % 4 * 16] = [a] := by
  have first : a.toNat / 4 * 4 + a.toNat % 4 * 16 / 16 = a.toNat := by omega
  rw [wholeBytes, ofNat_eq first]

/-- Scanning undoes writing, by induction over the groups. -/
theorem scan_encode (bytes : Bytes) (pads : Nat) : scan [] pads (encode bytes) = some bytes := by
  induction bytes using digits.induct generalizing pads with
  | case1 => rfl
  | case2 a =>
      have bound := a.toNat_lt
      change scan [] pads [digit (a.toNat / 4), digit (a.toNat % 4 * 16), '=', '='] = _
      rw [scan_digit (by omega) (by simp), scan_digit (by omega) (by simp)]
      -- Two digits wait, and the second of two marks ends the reading
      exact congrArg some (wholeBytes_one a)
  | case3 a b =>
      have bound := a.toNat_lt
      have boundB := b.toNat_lt
      change scan [] pads [digit (a.toNat / 4), digit (a.toNat % 4 * 16 + b.toNat / 16),
        digit (b.toNat % 16 * 4), '='] = _
      rw [scan_digit (by omega) (by simp), scan_digit (by omega) (by simp),
        scan_digit (by omega) (by simp)]
      exact congrArg some (wholeBytes_two a b)
  | case4 a b c rest ih =>
      have bound := a.toNat_lt
      have boundB := b.toNat_lt
      have boundC := c.toNat_lt
      -- Whole groups leave nothing pending and no padding of their own
      have group
          : encode (a :: b :: c :: rest)
            = digit (a.toNat / 4) :: digit (a.toNat % 4 * 16 + b.toNat / 16)
              :: digit (b.toNat % 16 * 4 + c.toNat / 64) :: digit (c.toNat % 64)
              :: encode rest := by
        have size
            : (4 - ((digits rest).length + 4) % 4) % 4 = (4 - (digits rest).length % 4) % 4 := by
          omega
        simp [encode, digits, padding, size]
      rw [group, scan_digit (by omega) (by simp), scan_digit (by omega) (by simp),
        scan_digit (by omega) (by simp), scan_lastDigit (by omega) (by simp), ih]
      exact congrArg (fun read => some (read ++ rest)) (wholeBytes_group a b c)

theorem encode_ascii (bytes : Bytes) : (encode bytes).all (fun c => c.toNat < 128) = true := by
  have each : ∀ n < 64, (digit n).toNat < 128 := by decide
  rw [List.all_eq_true]
  intro c member
  rcases List.mem_append.mp member with inside | mark
  · exact decide_eq_true (digits_forall (P := fun c => c.toNat < 128) each bytes c inside)
  · rw [(List.mem_replicate.mp mark).2]
    rfl

/-- Bytes are read back from their text. -/
theorem decode_encode (bytes : Bytes) : decode (encode bytes) = some bytes := by
  rw [decode, if_pos (encode_ascii bytes), scan_encode]

/-- Bytes are read back from their text in the other alphabet. -/
theorem urlsafeDecode_urlsafeEncode (bytes : Bytes)
    : urlsafeDecode (urlsafeEncode bytes) = some bytes := by
  have back : ((encode bytes).map toUrlSafe).map fromUrlSafe = encode bytes := by
    rw [encode, List.map_append, List.map_append, List.map_map, List.map_map]
    congr 1
    · exact List.map_congr_left (fun n member => fromUrlSafe_toUrlSafe (digits_lt member))
    · rw [padding, List.map_replicate, List.map_replicate]
      rfl
  rw [urlsafeDecode, urlsafeEncode, back, decode_encode]

/-- The digits of bytes in the alphabet that is safe in URLs, without padding. -/
def unpadded (bytes : Bytes) : List Char := ((digits bytes).map digit).map toUrlSafe

/-- What holds of the characters of all digits holds of the text without padding. -/
theorem unpadded_forall {P : Char → Prop} (each : ∀ n < 64, P (toUrlSafe (digit n)))
    (bytes : Bytes)
    : ∀ c ∈ unpadded bytes, P c := by
  intro c member
  obtain ⟨d, inside, rfl⟩ := List.mem_map.mp member
  exact digits_forall (P := fun d => P (toUrlSafe d)) each bytes d inside

/-- The text without the marks at its end. -/
theorem rdropWhile_urlsafeEncode (bytes : Bytes)
    : (urlsafeEncode bytes).rdropWhile (fun c => c = '=') = unpadded bytes := by
  have marks (count : Nat) (text : List Char) (last : ∀ c ∈ text, c ≠ '=')
      : (text ++ List.replicate count '=').rdropWhile (fun c => c = '=') = text := by
    induction count with
    | zero =>
        rw [List.replicate_zero, List.append_nil, List.rdropWhile_eq_self_iff]
        exact fun some => by simpa using last _ (List.getLast_mem some)
    | succ count ih =>
        rw [List.replicate_succ', ← List.append_assoc,
          List.rdropWhile_concat_pos _ _ _ (by simp), ih]
  have each : ∀ n < 64, toUrlSafe (digit n) ≠ '=' := by decide
  have noMark : ∀ c ∈ unpadded bytes, c ≠ '=' := unpadded_forall each bytes
  have shape
      : urlsafeEncode bytes
        = unpadded bytes ++ List.replicate ((4 - (digits bytes).length % 4) % 4) '=' := by
    rw [urlsafeEncode, encode, List.map_append, padding, List.map_replicate]
    rfl
  rw [shape, marks _ _ noMark]

/-- The marks that were left out are those that its length asks for. -/
theorem unpadded_padding (bytes : Bytes)
    : unpadded bytes ++ padding (unpadded bytes).length = urlsafeEncode bytes := by
  have size : (unpadded bytes).length = (digits bytes).length := by simp [unpadded]
  rw [urlsafeEncode, encode, List.map_append, size]
  congr 1
  rw [padding, List.map_replicate]
  rfl

end Foundation.Base64
