import Mathlib
import PettyFlow.Foundation.Machine
import PettyFlow.Foundation.Values

/-! The approval policy: threshold rules, their configuration check and the evaluation of a
request's amount, all in fixed-point integers.
-/

namespace PettyFlow.Workflow

open Foundation

/-- Approval authority, in ascending order. -/
inductive ApprovalTier where
  | autoApprove
  | manager
  | financeDirector
deriving DecidableEq

def ApprovalTier.value : ApprovalTier → String
  | .autoApprove => "AUTO_APPROVE"
  | .manager => "MANAGER"
  | .financeDirector => "FINANCE_DIRECTOR"

/-- The exceptions of the evaluator, by class, with their texts. -/
inductive PolicyError where
  | typeError (message : String)
  | valueError (message : String)
  | policyConfigurationError (message : String)
deriving DecidableEq

/-- A rule covers the amounts from its minimum up to, and without, its maximum; without a
maximum it is unbounded.
-/
structure PolicyRule where
  minAmountScaled : Int
  maxAmountScaled : Option Int
  requiredTier : ApprovalTier
  ruleName : String
  minPositive : 0 < minAmountScaled
  maxAboveMin : ∀ max ∈ maxAmountScaled, minAmountScaled < max
  nameNotBlank : isBlank ruleName = false

namespace PolicyRule

/-- The checks made when a rule is built from raw arguments. -/
def new (minAmountScaled : NumberArg) (maxAmountScaled : Option NumberArg)
    (requiredTier : ApprovalTier) (ruleName : String)
    : Except PolicyError PolicyRule :=
  match minAmountScaled.int? with
  | none => .error (.typeError "min_amount_scaled must be an integer fixed-point value.")
  | some min =>
      if minPositive : 0 < min then
        match maxAmountScaled with
        | none => named min none minPositive (by simp)
        | some arg =>
            match arg.int? with
            | none =>
                .error (.typeError
                  "max_amount_scaled must be an integer fixed-point value or None.")
            | some max =>
                if maxAboveMin : min < max then
                  named min (some max) minPositive (by simpa using maxAboveMin)
                else
                  .error (.valueError
                    "max_amount_scaled must be greater than min_amount_scaled.")
      else
        .error (.valueError "min_amount_scaled must be strictly positive.")
where
  named (min : Int) (max : Option Int) (minPositive : 0 < min)
      (maxAboveMin : ∀ m ∈ max, min < m)
      : Except PolicyError PolicyRule :=
    if nameNotBlank : isBlank ruleName = false then
      .ok ⟨min, max, requiredTier, ruleName, minPositive, maxAboveMin, nameNotBlank⟩
    else
      .error (.valueError "rule_name must be a non-empty string.")

/-- Whether an amount falls within the rule's range. -/
def «matches» (rule : PolicyRule) (amountScaled : Int) : Bool :=
  if amountScaled < rule.minAmountScaled then
    false
  else
    match rule.maxAmountScaled with
    | some max => if amountScaled ≥ max then false else true
    | none => true

end PolicyRule

def scale : Int := 10000
def tierManagerThresholdScaled : Int := 50 * scale
def tierFinanceDirectorThresholdScaled : Int := 500 * scale

def defaultPettyflowPolicy : List PolicyRule :=
  [
    {
      minAmountScaled := 1
      maxAmountScaled := some tierManagerThresholdScaled
      requiredTier := .autoApprove
      ruleName := "PETTYFLOW-POLICY-001: Auto-approve < $50.00"
      minPositive := by decide
      maxAboveMin := by decide
      nameNotBlank := by decide
    },
    {
      minAmountScaled := tierManagerThresholdScaled
      maxAmountScaled := some tierFinanceDirectorThresholdScaled
      requiredTier := .manager
      ruleName := "PETTYFLOW-POLICY-002: Manager approval $50.00–$499.99"
      minPositive := by decide
      maxAboveMin := by decide
      nameNotBlank := by decide
    },
    {
      minAmountScaled := tierFinanceDirectorThresholdScaled
      maxAmountScaled := none
      requiredTier := .financeDirector
      ruleName := "PETTYFLOW-POLICY-003: Finance Director approval >= $500.00"
      minPositive := by decide
      maxAboveMin := by decide
      nameNotBlank := by decide
    }
  ]

/-- What an evaluation reports; the time it took is not part of the model. -/
structure PolicyEvaluationResult where
  requestId : String
  amountScaled : Int
  requiredTier : ApprovalTier
  matchingRule : String
  autoApproved : Bool
  isFallback : Bool
deriving DecidableEq

structure ApprovalPolicyEvaluator where
  rules : List PolicyRule

namespace ApprovalPolicyEvaluator

/-- Sorting by lower bound is stable: rules with the same minimum keep their order. -/
def sortRules (rules : List PolicyRule) : List PolicyRule :=
  rules.insertionSort (fun r s => r.minAmountScaled ≤ s.minAmountScaled)

/-- The configuration check of one rule against the rule before it in the sorted list. -/
def checkRules : Option PolicyRule → List PolicyRule → Except PolicyError Unit
  | _, [] => .ok ()
  | prev, rule :: rest => do
      raiseIf (rule.minAmountScaled ≤ 0)
        (.policyConfigurationError
          s!"Rule '{rule.ruleName}' has a non-positive minimum threshold.")
      raiseIf (∃ max ∈ rule.maxAmountScaled, max ≤ rule.minAmountScaled)
        (.policyConfigurationError
          s!"Rule '{rule.ruleName}' defines an invalid range: max must be greater than min.")
      match prev with
      | none => pure ()
      | some prev =>
          raiseIf (∃ max ∈ prev.maxAmountScaled, rule.minAmountScaled < max)
            (.valueError
              s!"ApprovalPolicyEvaluator requires non-overlapping policy ranges; rule '{prev.ruleName}' overlaps '{rule.ruleName}'.")
      checkRules (some rule) rest

/-- Configure an evaluator; without a rule list it has the default policy. -/
def create (rules : Option (List PolicyRule)) : Except PolicyError ApprovalPolicyEvaluator := do
  let candidateRules := rules.getD defaultPettyflowPolicy
  raiseIf (candidateRules = [])
    (.valueError "ApprovalPolicyEvaluator requires at least one PolicyRule.")
  checkRules none (sortRules candidateRules)
  return ⟨sortRules candidateRules⟩

/-- The first rule in the sorted list that covers the amount decides; if none does, the
request goes to the highest tier.
-/
def evaluate (evaluator : ApprovalPolicyEvaluator) (requestId : String)
    (amountScaled : NumberArg)
    : Except PolicyError PolicyEvaluationResult :=
  match amountScaled.int? with
  | none =>
      let received := amountScaled.typeName
      .error (.typeError
        s!"amount_scaled must be an integer fixed-point value; received {received}.")
  | some amount =>
      if amount ≤ 0 then
        .error (.valueError s!"amount_scaled must be a positive integer; received {amount}.")
      else
        let (tier, ruleName, fallback) :=
          match evaluator.rules.find? (fun rule => rule.matches amount) with
          | some rule => (rule.requiredTier, rule.ruleName, false)
          | none =>
              (ApprovalTier.financeDirector,
                "PETTYFLOW-POLICY-FALLBACK: Finance Director (no rule matched)", true)
        .ok {
          requestId
          amountScaled := amount
          requiredTier := tier
          matchingRule := ruleName
          autoApproved := tier = .autoApprove
          isFallback := fallback
        }

end ApprovalPolicyEvaluator

end PettyFlow.Workflow
