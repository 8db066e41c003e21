import Mathlib
import PettyFlow.Foundation.Machine

/-! Workers that take turns on one shared state. Each input lets one worker take one step,
so that the runs of the machine are the interleavings of the workers' steps.
-/

namespace Foundation

/-- A shared state, and how far each worker has come. -/
structure Pool (W σ π : Type) where
  shared : σ
  phase : W → π

namespace Pool

variable {W σ π α ο κ : Type}

/-- The machine of all workers, where `act` says what one worker does. -/
def machine [DecidableEq W] (act : σ → π → α → ο × σ × π) : Machine (Pool W σ π) (W × α) ο where
  step s input :=
    let (output, shared, phase) := act s.shared (s.phase input.1) input.2
    (output, ⟨shared, Function.update s.phase input.1 phase⟩)

/-- The event of a step, from what the worker does in it. -/
theorem event_eq [DecidableEq W] {act : σ → π → α → ο × σ × π} {s : Pool W σ π} {worker : W}
    {action : α} {output : ο} {shared : σ} {next : π}
    (acts : act s.shared (s.phase worker) action = (output, shared, next))
    : (machine act).event s (worker, action)
      = ⟨s, (worker, action), output, ⟨shared, Function.update s.phase worker next⟩⟩ := by
  simp only [Machine.event, machine, acts]

/-- A worker that takes no step of a run stays where it is; by induction over the run. -/
theorem exec_phase [DecidableEq W] {act : σ → π → α → ο × σ × π} {worker : W}
    {inputs : List (W × α)} (absent : ∀ input ∈ inputs, input.1 ≠ worker) (s : Pool W σ π)
    : ((machine act).exec s inputs).phase worker = s.phase worker := by
  induction inputs generalizing s with
  | nil => rfl
  | cons input rest ih =>
      rw [Machine.exec, ih fun later member => absent later (List.mem_cons_of_mem _ member)]
      exact Function.update_of_ne (absent input List.mem_cons_self).symm _ _

/-- No two workers hold the same thing. -/
def Exclusive (holds : π → Option κ) (phase : W → π) : Prop :=
  ∀ left right held,
    holds (phase left) = some held
    → holds (phase right) = some held
    → left = right

/-- A holder after one worker's step is that worker, or held before. -/
theorem held_update [DecidableEq W] {holds : π → Option κ} {phase : W → π} {worker other : W}
    {next : π} {held : κ} (after : holds (Function.update phase worker next other) = some held)
    : (other = worker ∧ holds next = some held)
      ∨ (other ≠ worker ∧ holds (phase other) = some held) := by
  by_cases own : other = worker
  · subst own
    rw [Function.update_self] at after
    exact Or.inl ⟨rfl, after⟩
  · rw [Function.update_of_ne own] at after
    exact Or.inr ⟨own, after⟩

/-- A worker may take what it had, or what nobody holds. -/
theorem Exclusive.update [DecidableEq W] {holds : π → Option κ} {phase : W → π}
    (exclusive : Exclusive holds phase) {worker : W} {next : π}
    (taken
      : ∀ held,
          holds next = some held
          → holds (phase worker) = some held ∨ ∀ other, holds (phase other) ≠ some held)
    : Exclusive holds (Function.update phase worker next) := by
  intro left right held leftHolds rightHolds
  rcases held_update leftHolds with ⟨rfl, own⟩ | ⟨_, leftHeld⟩
  · rcases held_update rightHolds with ⟨rfl, _⟩ | ⟨_, rightHeld⟩
    · rfl
    · rcases taken held own with before | nobody
      · exact exclusive left right held before rightHeld
      · exact absurd rightHeld (nobody right)
  · rcases held_update rightHolds with ⟨rfl, own⟩ | ⟨_, rightHeld⟩
    · rcases taken held own with before | nobody
      · exact exclusive left right held leftHeld before
      · exact absurd leftHeld (nobody left)
    · exact exclusive left right held leftHeld rightHeld

end Pool

end Foundation
