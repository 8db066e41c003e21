import Mathlib

/-! Lists whose items match one by one, and what carries over from one of them to the other. -/

namespace Foundation

namespace Matching

variable {α β γ : Type} {R : α → β → Prop} {as : List α} {bs : List β}

/-- Every item of the second list has its match. -/
theorem exists_left (matching : List.Forall₂ R as bs) {b : β} (member : b ∈ bs)
    : ∃ a ∈ as, R a b := by
  induction matching with
  | nil => cases member
  | cons holds _ ih =>
      rcases List.mem_cons.mp member with rfl | later
      · exact ⟨_, List.mem_cons_self, holds⟩
      · obtain ⟨a, listed, holds⟩ := ih later
        exact ⟨a, List.mem_cons_of_mem _ listed, holds⟩

/-- What matches have in common reads the same in both lists. -/
theorem map_eq (matching : List.Forall₂ R as bs) {f : α → γ} {g : β → γ}
    (same : ∀ a b, R a b → f a = g b)
    : as.map f = bs.map g := by
  rw [← List.forall₂_eq_eq_eq, List.forall₂_map_left_iff, List.forall₂_map_right_iff]
  exact matching.imp same

/-- Numbering the second list keeps it matched with the first one. -/
theorem zipIdx (matching : List.Forall₂ R as bs) (start : Nat)
    : List.Forall₂ (fun a numbered => R a numbered.1) as (bs.zipIdx start) := by
  induction matching generalizing start with
  | nil => exact .nil
  | cons holds _ ih => exact .cons holds (ih (start + 1))

/-- What holds between any two of the first list holds between their matches. -/
theorem pairwise {S : α → α → Prop} {T : β → β → Prop} (matching : List.Forall₂ R as bs)
    (holds : as.Pairwise S)
    (carries : ∀ {a a' b b'}, S a a' → R a b → R a' b' → T b b')
    : bs.Pairwise T := by
  obtain ⟨same, matched⟩ := List.forall₂_iff_get.mp matching
  rw [List.pairwise_iff_getElem] at holds ⊢
  intro i j inside inside' below
  exact carries (holds i j (same ▸ inside) (same ▸ inside') below)
    (matched i (same ▸ inside) inside) (matched j (same ▸ inside') inside')

/-- A list whose items are determined by their matches is the list they are matched with,
by induction over the two lists.
-/
theorem eq_of_unique {R : α → α → Prop} {as bs : List α} (matching : List.Forall₂ R as bs)
    (unique : ∀ a ∈ as, ∀ b ∈ bs, R a b → b = a)
    : bs = as := by
  induction matching with
  | nil => rfl
  | cons head _ ih =>
      rw [unique _ List.mem_cons_self _ List.mem_cons_self head,
        ih (fun a listed b member =>
          unique a (List.mem_cons_of_mem _ listed) b (List.mem_cons_of_mem _ member))]

/-- One item of a list is replaced by its match, by induction over the items before it. -/
theorem middle {R : α → α → Prop} (refl : ∀ a, R a a) (before after : List α) {a b : α}
    (holds : R a b)
    : List.Forall₂ R (before ++ a :: after) (before ++ b :: after) := by
  induction before with
  | nil => exact .cons holds (List.forall₂_same.mpr (fun a _ => refl a))
  | cons head tail ih => exact .cons (refl head) ih

end Matching

end Foundation
