import Mathlib

/-! Paths of a partial transition function. A path lists its moves with both end states, so
that it can be compared with a log written while the moves were made.
-/

namespace Foundation

/-- One move of an automaton: the state left, the label read and the state entered. -/
structure Move (σ ε : Type) where
  source : σ
  label : ε
  target : σ

variable {σ ε : Type} (next : σ → ε → Option σ)

/-- The moves lead from the first state to the last, each from where the one before ended. -/
def IsPath : σ → List (Move σ ε) → σ → Prop
  | first, [], last => first = last
  | first, move :: rest, last =>
      move.source = first ∧ next first move.label = some move.target
        ∧ IsPath move.target rest last

/-- A path splits wherever its list of moves does, by induction over the first part. -/
theorem isPath_append (first last : σ) (moves more : List (Move σ ε))
    : IsPath next first (moves ++ more) last
      ↔ ∃ middle, IsPath next first moves middle ∧ IsPath next middle more last := by
  induction moves generalizing first with
  | nil => simp [IsPath]
  | cons move rest ih => simp [IsPath, ih, and_assoc]

/-- A path ending in a move is a path to the state that the move leaves. -/
theorem isPath_concat (first last : σ) (moves : List (Move σ ε)) (move : Move σ ε)
    : IsPath next first (moves ++ [move]) last
      ↔ IsPath next first moves move.source
        ∧ next move.source move.label = some move.target ∧ move.target = last := by
  rw [isPath_append]
  constructor
  · rintro ⟨middle, path, rfl, permitted, arrived⟩
    exact ⟨path, permitted, arrived⟩
  · rintro ⟨path, permitted, arrived⟩
    exact ⟨_, path, rfl, permitted, arrived⟩

/-- What holds of the empty path and survives every permitted move holds of every path, by
induction on the moves from the end.
-/
theorem IsPath.invariant {first : σ} {motive : List (Move σ ε) → σ → Prop}
    (start : motive [] first)
    (extended
      : ∀ moves source label target,
          motive moves source
          → next source label = some target
          → motive (moves ++ [⟨source, label, target⟩]) target)
    {moves : List (Move σ ε)} {last : σ} (path : IsPath next first moves last)
    : motive moves last := by
  induction moves using List.reverseRecOn generalizing last with
  | nil =>
      obtain rfl : first = last := path
      exact start
  | append_singleton moves move ih =>
      obtain ⟨earlier, permitted, rfl⟩ := (isPath_concat next first last moves move).mp path
      exact extended moves move.source move.label move.target (ih earlier) permitted

end Foundation
