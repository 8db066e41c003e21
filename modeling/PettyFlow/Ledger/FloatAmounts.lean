import PettyFlow.Foundation.FloatErrors
import PettyFlow.Ledger.Entry

/-! Amounts as floating-point numbers: which scaled integers survive the way to a float and back. -/

namespace PettyFlow.Ledger

open Foundation

def scaleFactor : Int := 10000

/-- The product with the scale, rounded. Infinities and what is no number do not round. -/
def floatToScaledInt (amount : FloatValue) : Except LedgerError Int :=
  match amount.mul (.finite scaleFactor) with
  | .finite value => .ok (FloatValue.round value)
  | .infinite _ => .error (.overflowError "cannot convert float infinity to integer")
  | .nan => .error (.valueError "cannot convert float NaN to integer")

/-- The quotient by the scale, which two integers have unless it is too large. -/
def scaledIntToFloat (scaledAmount : Int) : Except LedgerError FloatValue :=
  match FloatValue.nearest (scaledAmount / scaleFactor) with
  | .finite value => .ok (.finite value)
  | _ => .error (.overflowError "integer division result too large for a float")

/-- An integer that comes back from its float. -/
def Survives (n : Int) : Prop := (scaledIntToFloat n >>= floatToScaledInt) = .ok n

instance (n : Int) : Decidable (Survives n) := inferInstanceAs (Decidable (_ = _))

/-- Below an amount of 2^38 the errors of both roundings are less than a half of a unit together. -/
theorem survives_of_small {n : Int} (small : n.natAbs < 2 ^ 38 * 10000) : Survives n := by
  have cast : |(n : ℚ)| < 2 ^ 38 * 10000 := by
    have natural : ((n.natAbs : ℕ) : ℚ) < (2 ^ 38 * 10000 : ℕ) := by exact_mod_cast small
    rw [Nat.cast_natAbs, Int.cast_abs] at natural
    exact_mod_cast natural
  obtain ⟨low, high⟩ := abs_lt.mp cast
  have quotient : |(n : ℚ) / scaleFactor| < 2 ^ 38 := by
    rw [abs_lt, scaleFactor]
    constructor <;> (push_cast; linarith)
  obtain ⟨amount, divided, first⟩ := FloatValue.nearest_error quotient (by decide)
  obtain ⟨firstLow, firstHigh⟩ := abs_le.mp first
  norm_num [scaleFactor] at firstLow firstHigh
  have product : |amount * scaleFactor| < 2 ^ 52 := by
    rw [abs_lt, scaleFactor]
    constructor <;> (push_cast; linarith)
  obtain ⟨scaled, multiplied, second⟩ := FloatValue.nearest_error product (by decide)
  obtain ⟨secondLow, secondHigh⟩ := abs_le.mp second
  norm_num [scaleFactor] at secondLow secondHigh
  have near : |scaled - n| < 1 / 2 := by
    rw [abs_lt]
    constructor <;> linarith
  unfold Survives scaledIntToFloat
  rw [divided]
  change floatToScaledInt (.finite amount) = .ok n
  unfold floatToScaledInt FloatValue.mul
  dsimp only
  rw [multiplied]
  exact congrArg _ (FloatValue.round_eq near)

/-- The scaled integers up to a bound all come back from their floats exactly if the bound is at
most 2748779069440006, some 275 billions of currency units.
-/
theorem scaled_ints_survive_iff (bound : Nat)
    : (∀ n : Int, n.natAbs ≤ bound → Survives n) ↔ bound ≤ 2748779069440006 := by
  constructor
  · intro all
    by_contra beyond
    have first : ¬ Survives 2748779069440007 := by decide +kernel
    exact first (all _ (by omega))
  · intro bounded n within
    by_cases small : n.natAbs < 2 ^ 38 * 10000
    · exact survives_of_small small
    -- Seven more magnitudes come back, of either sign
    have few
        : ∀ k < 7,
            Survives (2748779069440000 + k : ℕ) ∧ Survives (-(2748779069440000 + k : ℕ)) := by
      decide +kernel
    obtain ⟨positive, negative⟩ := few (n.natAbs - 2748779069440000) (by omega)
    have magnitude : 2748779069440000 + (n.natAbs - 2748779069440000) = n.natAbs := by omega
    rw [magnitude] at positive negative
    rcases Int.natAbs_eq n with same | same
    · rw [same]
      exact positive
    · rw [same]
      exact negative

end PettyFlow.Ledger
