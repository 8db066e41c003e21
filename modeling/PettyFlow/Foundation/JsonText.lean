import PettyFlow.Foundation.Json

/-! Reading JSON texts, by a scanner whose fuel bounds the nesting of values. Names that
occur twice in an object are all kept; texts written from a value with distinct names have
none.
-/

namespace Foundation

namespace Json

/-- The value of a hexadecimal digit in either case. -/
def hexValue (c : Char) : Option Nat :=
  if '0' ≤ c ∧ c ≤ '9' then some (c.toNat - 0x30)
  else if 'a' ≤ c ∧ c ≤ 'f' then some (c.toNat - 0x57)
  else if 'A' ≤ c ∧ c ≤ 'F' then some (c.toNat - 0x37)
  else none

def unitOf (a b c d : Char) : Option Nat := do
  let a ← hexValue a
  let b ← hexValue b
  let c ← hexValue c
  let d ← hexValue d
  return 0x1000 * a + 0x100 * b + 0x10 * c + d

/-- The character that a short escape stands for. -/
def unescape : Char → Option Nat
  | '"' => some 0x22
  | '\\' => some 0x5C
  | '/' => some 0x2F
  | 'n' => some 0x0A
  | 'r' => some 0x0D
  | 't' => some 0x09
  | 'f' => some 0x0C
  | 'b' => some 0x08
  | _ => none

/-- The codes in a text up to the closing quote, and what follows it. Control characters are
refused.
-/
def scanCodes : List Char → Option (List Nat × List Char)
  | [] => none
  | '"' :: rest => some ([], rest)
  | '\\' :: 'u' :: a :: b :: c :: d :: rest => do
      let code ← unitOf a b c d
      let (codes, rest) ← scanCodes rest
      return (code :: codes, rest)
  | '\\' :: c :: rest => do
      let code ← unescape c
      let (codes, rest) ← scanCodes rest
      return (code :: codes, rest)
  | c :: rest => do
      if c.toNat < 0x20 then none
      let (codes, rest) ← scanCodes rest
      return (c.toNat :: codes, rest)

/-- The characters of codes, in which two neighbouring halves of a character beyond the
first plane are joined. Single halves are refused.
-/
def joinCodes : List Nat → Option (List Char)
  | [] => some []
  | high :: low :: rest =>
      if 0xD800 ≤ high ∧ high < 0xDC00 ∧ 0xDC00 ≤ low ∧ low < 0xE000 then do
        let chars ← joinCodes rest
        return Char.ofNat (0x10000 + (high - 0xD800) * 0x400 + (low - 0xDC00)) :: chars
      else if 0xD800 ≤ high ∧ high < 0xE000 then
        none
      else do
        let chars ← joinCodes (low :: rest)
        return Char.ofNat high :: chars
  | [code] => if 0xD800 ≤ code ∧ code < 0xE000 then none else some [Char.ofNat code]

def isBlankMark (c : Char) : Bool := c = ' ' || c = '\t' || c = '\n' || c = '\r'

def skipSpace (text : List Char) : List Char := text.dropWhile isBlankMark

/-- A fixed word. -/
def literal (word : String) (value : Json) (text : List Char) : Option (Json × List Char) :=
  if word.toList.isPrefixOf text then some (value, text.drop word.length) else none

/-- The fraction and the exponent at the beginning of a text, where there are any. -/
def scanFraction (text : List Char) : List Char :=
  match text with
  | '.' :: rest =>
      match rest.takeWhile Char.isDigit with
      | [] => []
      | digits => '.' :: digits
  | _ => []

def scanExponent (text : List Char) : List Char :=
  match text with
  | 'e' :: '+' :: rest | 'E' :: '+' :: rest | 'e' :: '-' :: rest | 'E' :: '-' :: rest =>
      match rest.takeWhile Char.isDigit with
      | [] => []
      | digits => text.take 2 ++ digits
  | 'e' :: rest | 'E' :: rest =>
      match rest.takeWhile Char.isDigit with
      | [] => []
      | digits => text.take 1 ++ digits
  | _ => []

/-- A number after its sign. The digits before the fraction have no leading zeros: they are
how their value is written.
-/
def scanNumber (sign : List Char) (text : List Char) : Option (Json × List Char) :=
  let digits := text.takeWhile Char.isDigit
  let magnitude := Nat.ofDigitChars 10 digits 0
  if digits = Nat.toDigits 10 magnitude then
    let rest := text.dropWhile Char.isDigit
    let fraction := scanFraction rest
    let rest := rest.drop fraction.length
    let exponent := scanExponent rest
    let rest := rest.drop exponent.length
    if fraction = [] ∧ exponent = [] then
      some (int (if sign = [] then magnitude else -magnitude), rest)
    else
      some (float (String.ofList (sign ++ digits ++ fraction ++ exponent)), rest)
  else
    none

end Json

/-- How a reader joins the codes of a text and makes values of what it has scanned, how many digits
an integer may have, and how deep values may be nested; nothing where there is no limit.
-/
structure JsonReader (τ ρ : Type) where
  join : List Nat → Option τ
  scalar : Json → ρ
  str : τ → ρ
  arr : List ρ → ρ
  obj : List (τ × ρ) → ρ
  digits : Option Nat
  depth : Option Nat

namespace JsonReader

open Json (skipSpace)

variable {τ ρ : Type}

/-- The reader inside of a value, if there is a level left. -/
def enter (reader : JsonReader τ ρ) : Option (JsonReader τ ρ) :=
  match reader.depth with
  | none => some reader
  | some 0 => none
  | some (depth + 1) => some { reader with depth := some depth }

/-- A string after its opening quote. -/
def scanString (reader : JsonReader τ ρ) (text : List Char) : Option (τ × List Char) := do
  let (codes, rest) ← Json.scanCodes text
  let text ← reader.join codes
  return (text, rest)

/-- A fixed word. -/
def literal (reader : JsonReader τ ρ) (word : String) (value : Json) (text : List Char)
    : Option (ρ × List Char) :=
  (Json.literal word value text).map (fun (value, rest) => (reader.scalar value, rest))

/-- An integer within the limit, or a float, after its sign. -/
def scanNumber (reader : JsonReader τ ρ) (sign text : List Char) : Option (ρ × List Char) :=
  match Json.scanNumber sign text with
  | some (.int n, rest) =>
      if ∀ limit ∈ reader.digits, (text.takeWhile Char.isDigit).length ≤ limit then
        some (reader.scalar (.int n), rest)
      else
        none
  | scanned => scanned.map (fun (value, rest) => (reader.scalar value, rest))

mutual

/-- A value at the beginning of a text, nested at most as deep as the fuel. -/
def scanValue : Nat → JsonReader τ ρ → List Char → Option (ρ × List Char)
  | 0, _, _ => none
  | fuel + 1, reader, text =>
      match text with
      | '"' :: rest => (reader.scanString rest).map (fun (text, rest) => (reader.str text, rest))
      | '[' :: rest => do
          let inner ← reader.enter
          match skipSpace rest with
          | ']' :: rest => return (reader.arr [], rest)
          | rest =>
              (scanElements fuel inner rest).map
                (fun (elements, rest) => (reader.arr elements, rest))
      | '{' :: rest => do
          let inner ← reader.enter
          match skipSpace rest with
          | '}' :: rest => return (reader.obj [], rest)
          | rest =>
              (scanMembers fuel inner rest).map (fun (members, rest) => (reader.obj members, rest))
      | 'n' :: _ => reader.literal "null" .null text
      | 't' :: _ => reader.literal "true" (.bool true) text
      | 'f' :: _ => reader.literal "false" (.bool false) text
      | 'N' :: _ => reader.literal "NaN" (.float "NaN") text
      | 'I' :: _ => reader.literal "Infinity" (.float "Infinity") text
      | '-' :: 'I' :: _ => reader.literal "-Infinity" (.float "-Infinity") text
      | '-' :: rest => reader.scanNumber ['-'] rest
      | text => reader.scanNumber [] text

/-- Elements separated by commas, and the closing bracket. -/
def scanElements : Nat → JsonReader τ ρ → List Char → Option (List ρ × List Char)
  | 0, _, _ => none
  | fuel + 1, reader, text => do
      let (value, rest) ← scanValue fuel reader text
      match skipSpace rest with
      | ']' :: rest => return ([value], rest)
      | ',' :: rest =>
          let (values, rest) ← scanElements fuel reader (skipSpace rest)
          return (value :: values, rest)
      | _ => none

/-- Members separated by commas, and the closing brace. -/
def scanMembers : Nat → JsonReader τ ρ → List Char → Option (List (τ × ρ) × List Char)
  | 0, _, _ => none
  | fuel + 1, reader, '"' :: text => do
      let (name, rest) ← reader.scanString text
      match skipSpace rest with
      | ':' :: rest =>
          let (value, rest) ← scanValue fuel reader (skipSpace rest)
          match skipSpace rest with
          | '}' :: rest => return ([(name, value)], rest)
          | ',' :: rest =>
              let (members, rest) ← scanMembers fuel reader (skipSpace rest)
              return ((name, value) :: members, rest)
          | _ => none
      | _ => none
  | _ + 1, _, _ => none

end

/-- The value that a text spells, or nothing where it spells none or goes beyond a limit. -/
def loads (reader : JsonReader τ ρ) (text : String) : Option ρ := do
  let chars := text.toList
  let (value, rest) ← scanValue (chars.length + 1) reader (skipSpace chars)
  if skipSpace rest = [] then some value else none

end JsonReader

namespace Json

/-- The reader of values whose texts are of characters, without limits. -/
def reader : JsonReader String Json where
  join codes := (joinCodes codes).map String.ofList
  scalar := id
  str := .str
  arr := .arr
  obj := .obj
  digits := none
  depth := none

/-- The value that a text spells, or nothing where it spells none. -/
def loads (text : String) : Option Json := reader.loads text

/-- The member of a name in an object that was read: of those that were written, the last. -/
def latest? (name : String) : Json → Option Json
  | obj members => members.reverse.lookup name
  | _ => none

end Json

end Foundation
