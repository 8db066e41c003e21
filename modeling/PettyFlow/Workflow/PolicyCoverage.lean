import PettyFlow.Foundation.Ranges
import PettyFlow.Workflow.PolicyEvaluator

/-! Which rule lists the policy evaluator accepts, and when acceptance means that no amount
is covered twice.
-/

namespace PettyFlow.Workflow

open Foundation

/-- The amounts a rule covers, as a range. -/
def PolicyRule.range (rule : PolicyRule) : Range Int :=
  ⟨rule.minAmountScaled, rule.maxAmountScaled, rule.maxAboveMin⟩

theorem PolicyRule.matches_iff (rule : PolicyRule) (amount : Int)
    : rule.matches amount = true ↔ rule.range.Contains amount := by
  change rule.matches amount = true
    ↔ rule.minAmountScaled ≤ amount ∧ ∀ max ∈ rule.maxAmountScaled, amount < max
  unfold PolicyRule.matches
  cases rule.maxAmountScaled with
  | none => simp
  | some max => simp

def Accepted (rules : List PolicyRule) : Prop :=
  ∃ evaluator, ApprovalPolicyEvaluator.create (some rules) = .ok evaluator

/-- No positive amount is matched by two rules of the list. -/
def Unambiguous (rules : List PolicyRule) : Prop :=
  rules.Pairwise (fun r s =>
    ∀ amount : Int, 0 < amount → ¬ (r.matches amount = true ∧ s.matches amount = true))

/-- Rules match positive amounts only, so two rules are unambiguous when their ranges have
no point in common. -/
theorem apart_iff (r s : PolicyRule)
    : (∀ amount : Int, 0 < amount → ¬ (r.matches amount = true ∧ s.matches amount = true))
      ↔ r.range.Apart s.range := by
  constructor
  · intro distinct amount inR inS
    exact distinct amount (r.minPositive.trans_le inR.1)
      ⟨(r.matches_iff amount).mpr inR, (s.matches_iff amount).mpr inS⟩
  · intro apart amount _ ⟨matchesR, matchesS⟩
    exact apart amount ((r.matches_iff amount).mp matchesR)
      ((s.matches_iff amount).mp matchesS)

theorem unambiguous_iff (rules : List PolicyRule)
    : Unambiguous rules ↔ rules.Pairwise (fun r s => r.range.Apart s.range) :=
  List.Pairwise.iff (fun {r s} => apart_iff r s)

/-- The check made between neighbours: a bounded rule ends before the next one begins. An
unbounded rule passes whatever follows it.
-/
def NoBoundedOverlap (prev rule : PolicyRule) : Prop :=
  ∀ max ∈ prev.maxAmountScaled, max ≤ rule.minAmountScaled

/-- The configuration check is the neighbour check: the two range checks never fire on
rules that are valid by themselves. By induction over the rules.
-/
theorem checkRules_ok_iff (prev : Option PolicyRule) (rules : List PolicyRule)
    : ApprovalPolicyEvaluator.checkRules prev rules = .ok ()
      ↔ (prev.toList ++ rules).IsChain NoBoundedOverlap := by
  induction rules generalizing prev with
  | nil => cases prev <;> simp [ApprovalPolicyEvaluator.checkRules]
  | cons rule rest ih =>
      have positive : ¬ rule.minAmountScaled ≤ 0 := not_le.mpr rule.minPositive
      have proper : ¬ ∃ max ∈ rule.maxAmountScaled, max ≤ rule.minAmountScaled :=
        fun ⟨max, bounded, le⟩ => absurd (rule.maxAboveMin max bounded) (not_lt.mpr le)
      rw [ApprovalPolicyEvaluator.checkRules, raiseIf_neg positive, raiseIf_neg proper]
      cases prev with
      | none => exact ih (some rule)
      | some prev =>
          change _ ↔ (prev :: rule :: rest).IsChain NoBoundedOverlap
          rw [List.isChain_cons_cons]
          by_cases overlap : ∃ max ∈ prev.maxAmountScaled, rule.minAmountScaled < max
          · have refused : ¬ NoBoundedOverlap prev rule := by
              obtain ⟨max, bounded, lt⟩ := overlap
              exact fun fine => absurd (fine max bounded) (not_le.mpr lt)
            simp only [raiseIf_pos overlap, refused, false_and, iff_false]
            exact nofun
          · have fine : NoBoundedOverlap prev rule := by
              intro max bounded
              exact not_lt.mp (fun lt => overlap ⟨max, bounded, lt⟩)
            simp only [raiseIf_neg overlap, fine, true_and]
            exact ih (some rule)

/-- A list is accepted when it is not empty and no neighbours overlap in sorted order; the
evaluator then holds the sorted list.
-/
theorem create_ok_iff (rules : List PolicyRule) (evaluator : ApprovalPolicyEvaluator)
    : ApprovalPolicyEvaluator.create (some rules) = .ok evaluator
      ↔ rules ≠ []
        ∧ (ApprovalPolicyEvaluator.sortRules rules).IsChain NoBoundedOverlap
        ∧ evaluator = ⟨ApprovalPolicyEvaluator.sortRules rules⟩ := by
  have checked := checkRules_ok_iff none (ApprovalPolicyEvaluator.sortRules rules)
  simp only [Option.toList_none, List.nil_append] at checked
  rw [← checked]
  simp only [ApprovalPolicyEvaluator.create, Option.getD_some]
  by_cases empty : rules = []
  · rw [raiseIf_pos empty]
    simp [empty]
  · rw [raiseIf_neg empty]
    cases outcome : ApprovalPolicyEvaluator.checkRules none
        (ApprovalPolicyEvaluator.sortRules rules) with
    | error error => simp [bind, Except.bind]
    | ok done =>
        simp only [bind, Except.bind, pure, Except.pure, Except.ok.injEq, ne_eq, empty,
          not_false_eq_true, true_and]
        exact eq_comm

theorem accepted_iff (rules : List PolicyRule)
    : Accepted rules
      ↔ rules ≠ []
        ∧ (ApprovalPolicyEvaluator.sortRules rules).IsChain NoBoundedOverlap := by
  simp only [Accepted, create_ok_iff, exists_and_left, exists_eq, and_true]

theorem sortRules_perm (rules : List PolicyRule)
    : (ApprovalPolicyEvaluator.sortRules rules).Perm rules :=
  List.perm_insertionSort _ rules

theorem sortRules_sorted (rules : List PolicyRule)
    : (ApprovalPolicyEvaluator.sortRules rules).Pairwise
        (fun r s => r.minAmountScaled ≤ s.minAmountScaled) := by
  have : Std.Total (fun r s : PolicyRule => r.minAmountScaled ≤ s.minAmountScaled) :=
    ⟨fun _ _ => le_total _ _⟩
  have : IsTrans PolicyRule (fun r s => r.minAmountScaled ≤ s.minAmountScaled) :=
    ⟨fun _ _ _ => le_trans⟩
  exact List.pairwise_insertionSort _ rules

/-- Unambiguity of a list is a check of neighbours in its sorted order: each rule with a
successor has an upper bound, and ends before its successor begins.
-/
theorem unambiguous_iff_chain (rules : List PolicyRule)
    : Unambiguous rules
      ↔ (ApprovalPolicyEvaluator.sortRules rules).IsChain
          (fun r s => r.range.Before s.range) := by
  have apart_symm {r s : PolicyRule} (h : r.range.Apart s.range) : s.range.Apart r.range :=
    h.symm
  rw [unambiguous_iff, ← (sortRules_perm rules).pairwise_iff apart_symm,
    ← List.pairwise_map (f := PolicyRule.range), ← List.isChain_map (f := PolicyRule.range)]
  exact Range.pairwise_apart_iff (List.pairwise_map.mpr (sortRules_sorted rules))

/-- Every rule that has a successor in sorted order has an upper bound. -/
def OpenRuleLast (rules : List PolicyRule) : Prop :=
  (ApprovalPolicyEvaluator.sortRules rules).IsChain (fun r _ => r.maxAmountScaled ≠ none)

/-- Some rule with an upper bound reaches past the beginning of its successor. -/
def BoundedOverlap (rules : List PolicyRule) : Prop :=
  ¬ (ApprovalPolicyEvaluator.sortRules rules).IsChain NoBoundedOverlap

theorem before_iff (r s : PolicyRule)
    : r.range.Before s.range ↔ r.maxAmountScaled ≠ none ∧ NoBoundedOverlap r s := by
  change (∃ max ∈ r.maxAmountScaled, max ≤ s.minAmountScaled) ↔ _
  unfold NoBoundedOverlap
  cases r.maxAmountScaled <;> simp

/-- The neighbour check misses nothing but an unbounded rule that has a successor. -/
theorem unambiguous_iff_open_last (rules : List PolicyRule)
    : Unambiguous rules ↔ OpenRuleLast rules ∧ ¬ BoundedOverlap rules := by
  rw [unambiguous_iff_chain, OpenRuleLast, BoundedOverlap, not_not]
  simp only [List.isChain_iff_forall_rel_of_append_cons_cons, before_iff]
  constructor
  · intro before
    exact ⟨fun _ _ _ _ split => (before split).1, fun _ _ _ _ split => (before split).2⟩
  · rintro ⟨bounded, fine⟩ _ _ _ _ split
    exact ⟨bounded split, fine split⟩

theorem Unambiguous.accepted {rules : List PolicyRule} (nonempty : rules ≠ [])
    (unambiguous : Unambiguous rules)
    : Accepted rules :=
  (accepted_iff rules).mpr
    ⟨nonempty, not_not.mp ((unambiguous_iff_open_last rules).mp unambiguous).2⟩

/-- Reordering a list does not change whether it is unambiguous. -/
theorem Unambiguous.perm {rules other : List PolicyRule} (unambiguous : Unambiguous rules)
    (reordered : other.Perm rules)
    : Unambiguous other := by
  refine (reordered.pairwise_iff ?_).mpr unambiguous
  intro r s distinct amount positive both
  exact distinct amount positive both.symm

/-- In an unambiguous list the first rule found for an amount is the only one. -/
theorem Unambiguous.find_eq {rules : List PolicyRule} (unambiguous : Unambiguous rules)
    {rule : PolicyRule} (member : rule ∈ rules) {amount : Int}
    (covers : rule.matches amount = true)
    : rules.find? (fun rule => rule.matches amount) = some rule := by
  have positive : 0 < amount :=
    rule.minPositive.trans_le ((rule.matches_iff amount).mp covers).1
  induction rules with
  | nil => simp at member
  | cons head rest ih =>
      obtain ⟨apart, tail⟩ := List.pairwise_cons.mp unambiguous
      rcases List.mem_cons.mp member with rfl | later
      · simp [covers]
      · have skipped : head.matches amount = false := by
          cases hit : head.matches amount with
          | false => rfl
          | true => exact absurd ⟨hit, covers⟩ (apart rule later amount positive)
        simp only [List.find?_cons, skipped]
        exact ih tail later

/-- What the evaluator promises of a rule list: it is accepted exactly when it is not empty
and unambiguous; its reorderings are accepted with it; and every reordering decides a
positive amount by the one rule that matches it, or falls back to the highest tier.
-/
structure DecidesAmounts (rules : List PolicyRule) : Prop where
  accepted : Accepted rules ↔ rules ≠ [] ∧ Unambiguous rules
  reordered : Accepted rules → ∀ other, other.Perm rules → Accepted other
  decided
    : Accepted rules
      → ∀ other evaluator,
          other.Perm rules
          → ApprovalPolicyEvaluator.create (some other) = .ok evaluator
          → ∀ requestId amount,
              0 < amount
              → ∃ result,
                  evaluator.evaluate requestId (.int amount) = .ok result
                  ∧ (∀ rule ∈ rules,
                      rule.matches amount = true
                      → result.requiredTier = rule.requiredTier
                        ∧ result.isFallback = false)
                  ∧ ((∀ rule ∈ rules, rule.matches amount = false)
                    → result.requiredTier = .financeDirector ∧ result.isFallback = true)

/-- An accepted unambiguous list is decided by its unique matching rules, in any order. -/
theorem Unambiguous.decided {rules other : List PolicyRule} (unambiguous : Unambiguous rules)
    (reordered : other.Perm rules) (requestId : String) {amount : Int} (positive : 0 < amount)
    : ∃ result,
        ApprovalPolicyEvaluator.evaluate ⟨ApprovalPolicyEvaluator.sortRules other⟩
            requestId (.int amount)
          = .ok result
        ∧ (∀ rule ∈ rules,
            rule.matches amount = true
            → result.requiredTier = rule.requiredTier ∧ result.isFallback = false)
        ∧ ((∀ rule ∈ rules, rule.matches amount = false)
          → result.requiredTier = .financeDirector ∧ result.isFallback = true) := by
  have sorted := (sortRules_perm other).trans reordered
  have same := unambiguous.perm sorted
  simp only [ApprovalPolicyEvaluator.evaluate, NumberArg.int?, if_neg (not_le.mpr positive)]
  refine ⟨_, rfl, fun rule member covers => ?_, fun uncovered => ?_⟩
  · simp [same.find_eq (sorted.mem_iff.mpr member) covers]
  · have missing
        : (ApprovalPolicyEvaluator.sortRules other).find? (fun rule => rule.matches amount)
          = none := by
      refine List.find?_eq_none.mpr (fun rule member => ?_)
      simp [uncovered rule (sorted.mem_iff.mp member)]
    simp [missing]

/-- The evaluator keeps its promise on a rule list exactly when, in the order by lower
bound, no unbounded rule has a successor, unless a bounded overlap gets the list rejected.
-/
theorem decidesAmounts_iff (rules : List PolicyRule)
    : DecidesAmounts rules ↔ OpenRuleLast rules ∨ BoundedOverlap rules := by
  have chained : Accepted rules ↔ rules ≠ [] ∧ ¬ BoundedOverlap rules := by
    rw [accepted_iff, BoundedOverlap, not_not]
  constructor
  · intro promise
    -- Rules that overlap are refused, and rules that do not are decided by the open one
    by_cases overlap : BoundedOverlap rules
    · exact Or.inr overlap
    · by_cases empty : rules = []
      · subst empty
        exact Or.inl List.isChain_nil
      · have unambiguous := (promise.accepted.mp (chained.mpr ⟨empty, overlap⟩)).2
        exact Or.inl ((unambiguous_iff_open_last rules).mp unambiguous).1
  · intro condition
    have acceptedIff : Accepted rules ↔ rules ≠ [] ∧ Unambiguous rules := by
      rw [chained, unambiguous_iff_open_last]
      rcases condition with last | overlap
      · simp [last]
      · simp [overlap]
    refine ⟨acceptedIff, fun accepted other perm => ?_, ?_⟩
    · obtain ⟨nonempty, unambiguous⟩ := acceptedIff.mp accepted
      refine (unambiguous.perm perm).accepted (fun empty => nonempty ?_)
      subst empty
      exact perm.nil_eq.symm
    · intro accepted other evaluator perm created requestId amount positive
      obtain ⟨_, _, rfl⟩ := (create_ok_iff other evaluator).mp created
      exact (acceptedIff.mp accepted).2.decided perm requestId positive

theorem managerThreshold_pos : 0 < tierManagerThresholdScaled := by decide

/-- Two unbounded rules: every amount from the second minimum on is matched by both. -/
def openEndedRules : List PolicyRule :=
  [
    ⟨1, none, .autoApprove, "Auto", Int.one_pos, by decide, by decide⟩,
    ⟨tierManagerThresholdScaled, none, .financeDirector, "Director", managerThreshold_pos,
      by decide, by decide⟩
  ]

/-- The two unbounded rules are accepted although 500000 is matched by both. -/
theorem openEndedRules_not_decided : ¬ DecidesAmounts openEndedRules := by
  intro promise
  have accepted : Accepted openEndedRules := ⟨⟨openEndedRules⟩, rfl⟩
  have unambiguous := (promise.accepted.mp accepted).2
  have distinct := (List.pairwise_cons.mp unambiguous).1 _ List.mem_cons_self 500000
    (by decide)
  exact distinct (by decide)

end PettyFlow.Workflow
