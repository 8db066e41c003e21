import PettyFlow.Foundation.Machine
import PettyFlow.Foundation.Texts

/-! How the endpoints of the routers end: with a response, with an exception that the framework
answers, or with one that nobody handles.
-/

namespace PettyFlow.Api

open Foundation

/-- What an endpoint raises. -/
inductive EndpointError (ε : Type) where
  | httpException (status : Nat) (detail : String)
  | escaped (error : ε)

/-- The framework answers with a client error. -/
def EndpointError.IsClientError {ε : Type} : EndpointError ε → Prop
  | .httpException status _ => 400 ≤ status ∧ status < 500
  | .escaped _ => False

/-- What an endpoint returns or raises, and the state that it leaves. -/
abbrev Answer (ε ρ σ : Type) : Type := Except (EndpointError ε) ρ × σ

/-- A call returns its response, or it answers with a client error and leaves the state as it
was. Nothing else escapes.
-/
def Proper {ε ρ σ : Type} (before : σ) (answer : Answer ε ρ σ) : Prop :=
  match answer.1 with
  | .ok _ => True
  | .error error => error.IsClientError ∧ answer.2 = before

/-- The texts that the pattern of a currency admits. -/
def IsCurrencyText (currency : String) : Prop :=
  currency.length = 3 ∧ currency.toList.all isAsciiAlpha = true

instance (currency : String) : Decidable (IsCurrencyText currency) :=
  inferInstanceAs (Decidable (_ ∧ _))

/-- A currency after its text was put into capitals. -/
structure CurrencyCode where
  text : String
  letters : IsCurrencyText text
  capitals : upper text = text

/-- The code of a text that the pattern admits. -/
def CurrencyCode.ofText (currency : String) (letters : IsCurrencyText currency) : CurrencyCode where
  text := upper currency
  letters :=
    have all := upper_of_alpha (List.all_eq_true.mp letters.2)
    ⟨all.1.trans letters.1, List.all_eq_true.mpr all.2.1⟩
  capitals := (upper_of_alpha (List.all_eq_true.mp letters.2)).2.2

theorem CurrencyCode.strip_text (currency : CurrencyCode) : strip currency.text = currency.text :=
  strip_of_no_space (fun c member => not_isSpace_of_alpha (List.all_eq_true.mp currency.letters.2 c member))

section Properness

variable {ε ρ σ : Type} {before after : σ}

theorem proper_ok (response : ρ) (after : σ)
    : Proper before ((.ok response, after) : Answer ε ρ σ) :=
  trivial

theorem not_proper_escaped (error : ε) (after : σ)
    : ¬ Proper before ((.error (.escaped error), after) : Answer ε ρ σ) :=
  fun proper => proper.1

theorem proper_error_iff (error : EndpointError ε)
    : Proper before ((.error error, before) : Answer ε ρ σ) ↔ error.IsClientError :=
  and_iff_left rfl

theorem isClientError {status : Nat} (client : 400 ≤ status ∧ status < 500) (detail : String)
    : (EndpointError.httpException status detail : EndpointError ε).IsClientError :=
  client

theorem proper_httpException {status : Nat} (client : 400 ≤ status ∧ status < 500)
    (detail : String)
    : Proper before ((.error (.httpException status detail), before) : Answer ε ρ σ) :=
  ⟨client, rfl⟩

end Properness

end PettyFlow.Api
