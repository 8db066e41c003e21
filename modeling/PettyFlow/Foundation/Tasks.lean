import Mathlib

/-! Lists of tasks that get new ones at the end, and in which a task is replaced by what has become
of it. A task is known by its number.
-/

namespace Foundation

variable {α : Type}

/-- What holds of every task together with its number. -/
def EachTask (p : Nat → α → Prop) (tasks : List α) : Prop :=
  ∀ number task, tasks[number]? = some task → p number task

section EachTask

variable {p q : Nat → α → Prop} {tasks : List α}

theorem eachTask_nil : EachTask p ([] : List α) := by
  intro number task found
  cases found

theorem EachTask.imp (each : EachTask p tasks)
    (weaker : ∀ number task, p number task → q number task)
    : EachTask q tasks :=
  fun number task found => weaker number task (each number task found)

theorem EachTask.add (each : EachTask p tasks) {new : α} (holds : p tasks.length new)
    : EachTask p (tasks ++ [new]) := by
  intro number task found
  rcases lt_trichotomy number tasks.length with before | rfl | behind
  · rw [List.getElem?_append_left before] at found
    exact each number task found
  · rw [List.getElem?_concat_length] at found
    cases found
    exact holds
  · rw [List.getElem?_eq_none (by simpa using behind)] at found
    cases found

theorem EachTask.set (each : EachTask p tasks) {number : Nat} {next : α} (holds : p number next)
    : EachTask p (tasks.set number next) := by
  intro other task found
  by_cases same : number = other
  · subst same
    rw [List.getElem?_set_self'] at found
    cases present : tasks[number]? with
    | none => simp [present] at found
    | some old =>
        simp only [present] at found
        cases found
        exact holds
  · rw [List.getElem?_set_ne same] at found
    exact each other task found

end EachTask

/-- What holds of one of the tasks after one is replaced, by cutting the list there. -/
theorem exists_mem_set_iff {tasks : List α} {number : Nat} {task next : α} {p : α → Prop}
    (found : tasks[number]? = some task) (fails : ¬ p task)
    : (∃ entry ∈ tasks.set number next, p entry) ↔ (∃ entry ∈ tasks, p entry) ∨ p next := by
  obtain ⟨inside, here⟩ := List.getElem?_eq_some_iff.mp found
  obtain ⟨front, back, split, _, replaced⟩ := @List.exists_of_set _ number next tasks inside
  rw [here] at split
  rw [replaced, split]
  simp only [List.mem_append, List.mem_cons, or_and_right, exists_or, exists_eq_left, fails,
    false_or]
  rw [← or_assoc, or_right_comm]

end Foundation
