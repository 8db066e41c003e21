import PettyFlow.Foundation.Dict

/-! Dictionaries that add up what is entered under each key. -/

namespace Foundation

namespace Dict

variable {κ α μ : Type} [DecidableEq κ] [AddCommMonoid μ]

/-- Add to what stands under a key. -/
def addTo (d : Dict κ μ) (key : κ) (amount : μ) : Dict κ μ := d.set key (d.getD key 0 + amount)

/-- Each key that items have stands for the sum of their weights, and no other key is there. -/
def Tallies (d : Dict κ μ) (key : α → κ) (weight : α → μ) (items : List α) : Prop :=
  ∀ k,
    d.get? k
    = if items.filter (key · = k) = [] then
        none
      else
        some ((items.filter (key · = k)).map weight).sum

variable {d : Dict κ μ} {key : α → κ} {weight : α → μ} {items : List α}

theorem tallies_empty : (empty : Dict κ μ).Tallies key weight ([] : List α) := fun _ => rfl

theorem Tallies.getD_zero (tallies : d.Tallies key weight items) (k : κ)
    : d.getD k 0 = ((items.filter (key · = k)).map weight).sum := by
  rw [getD, tallies k]
  split
  · rename_i none
    rw [none]
    rfl
  · rfl

/-- Adding an item's weight under its key enters the item. -/
theorem Tallies.addTo (tallies : d.Tallies key weight items) (item : α)
    : (d.addTo (key item) (weight item)).Tallies key weight (items ++ [item]) := by
  intro k
  rw [Dict.addTo, get?_set, List.filter_append]
  by_cases own : key item = k
  · subst own
    rw [if_pos rfl, tallies.getD_zero, List.filter_cons_of_pos (by simp), if_neg (by simp)]
    simp
  · rw [if_neg own, tallies k, List.filter_cons_of_neg (by simp [own])]
    simp

/-- What is added under a key is added to the total. -/
theorem total_addTo [IsRightCancelAdd μ] (d : Dict κ μ) (key : κ) (amount : μ)
    : (d.addTo key amount).total (fun _ value => value)
      = d.total (fun _ value => value) + amount := by
  have changed := d.total_set key (d.getD key 0 + amount) (fun _ value => value)
  have share : (d.get? key).elim 0 (fun value => value) = d.getD key 0 := by
    rw [getD]
    cases d.get? key <;> rfl
  rw [share, add_comm (d.getD key 0) amount, ← add_assoc] at changed
  rw [Dict.addTo, add_comm (d.getD key 0) amount]
  exact add_right_cancel changed

end Dict

end Foundation
