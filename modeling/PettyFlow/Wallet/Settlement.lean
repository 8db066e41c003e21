import PettyFlow.Foundation.Values

/-! The states of a settlement and the transitions between them. -/

namespace PettyFlow.Wallet

open Foundation

inductive SettlementState where
  | pending
  | processing
  | completed
  | failed
  | reversed
  | manualReview
deriving DecidableEq

namespace SettlementState

def value : SettlementState → String
  | pending => "pending"
  | processing => "processing"
  | completed => "completed"
  | failed => "failed"
  | reversed => "reversed"
  | manualReview => "manual_review"

/-- The state that a text names. -/
def ofValue? : String → Option SettlementState :=
  memberOf [pending, processing, completed, failed, reversed, manualReview] value

def transitions : SettlementState → List SettlementState
  | pending => [processing, failed, manualReview]
  | processing => [completed, failed, manualReview]
  | completed => [reversed]
  | failed => [pending, manualReview]
  | reversed => []
  | manualReview => [pending, completed, failed, reversed]

@[simp] theorem ofValue?_value (state : SettlementState) : ofValue? state.value = some state := by
  cases state <;> rfl

theorem value_of_ofValue? {text : String} {state : SettlementState}
    (named : ofValue? text = some state)
    : state.value = text := by
  simpa using List.find?_some named

end SettlementState

structure SettlementTransitionError where
  message : String
deriving DecidableEq

def validateSettlementTransition (current requested : SettlementState)
    : Except SettlementTransitionError SettlementState :=
  if requested ∈ current.transitions then
    .ok requested
  else
    .error ⟨s!"illegal settlement transition: {current.value} -> {requested.value}"⟩

end PettyFlow.Wallet
