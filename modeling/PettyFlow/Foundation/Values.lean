import Mathlib

/-! Values of the source language: dynamically typed numbers and text. -/

namespace Foundation

/-- An argument that should be an integer. Booleans are integers of the source language,
so a check that excludes them has to name them.
-/
inductive NumberArg where
  | int (value : Int)
  | bool (value : Bool)
  | other (typeName : String)
deriving DecidableEq

/-- The value of an argument that is an integer and not a boolean. -/
def NumberArg.int? : NumberArg → Option Int
  | .int value => some value
  | _ => none

/-- The name of the argument's type. -/
def NumberArg.typeName : NumberArg → String
  | .int _ => "int"
  | .bool _ => "bool"
  | .other name => name

/-- The characters that trimming removes: every Unicode blank and the separators
U+001C to U+001F. -/
def isSpace (c : Char) : Bool :=
  (0x09 ≤ c.toNat && c.toNat ≤ 0x0D) || (0x1C ≤ c.toNat && c.toNat ≤ 0x20)
    || (0x2000 ≤ c.toNat && c.toNat ≤ 0x200A)
    || [0x85, 0xA0, 0x1680, 0x2028, 0x2029, 0x202F, 0x205F, 0x3000].contains c.toNat

/-- Remove the blanks at both ends. -/
def strip (text : String) : String :=
  String.ofList ((text.toList.dropWhile isSpace).reverse.dropWhile isSpace).reverse

def isBlank (text : String) : Bool := strip text = ""

/-- The member of an enumeration that has a value. -/
def memberOf {ε : Type} (members : List ε) (value : ε → String) (text : String) : Option ε :=
  members.find? (fun member => value member = text)

/-- The most digits of an integer that is converted to decimal text or read from it. -/
@[irreducible]
def maxStrDigits : Nat := 4300

/-- The integer can be written in decimal. Other integers raise where they are written: a
definition that prints integers says what it does with them, or that it is about the rest.
-/
def HasDecimal (n : Int) : Prop := n.natAbs < 10 ^ maxStrDigits

instance (n : Int) : Decidable (HasDecimal n) := inferInstanceAs (Decidable (_ < _))

/-- What writing any other integer raises. -/
def tooLargeToWrite : String :=
  s!"Exceeds the limit ({maxStrDigits} digits) for integer string conversion; "
    ++ "use sys.set_int_max_str_digits() to increase the limit"

/-- An ASCII letter. -/
def isAsciiAlpha (c : Char) : Bool :=
  (0x41 ≤ c.toNat && c.toNat ≤ 0x5A) || (0x61 ≤ c.toNat && c.toNat ≤ 0x7A)

end Foundation
