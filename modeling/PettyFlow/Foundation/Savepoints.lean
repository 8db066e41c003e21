import Mathlib

/-! Transactions over some data with named marks inside one another. A mark remembers the data
that it was set on; going back to it restores them and leaves the mark where it is.
-/

namespace Foundation

/-- The data as they are seen, the data as they were committed, and what is open: a transaction
that was begun as such, and marks, the innermost first. With nothing open all data are
committed.
-/
@[ext] structure Transactions (ν δ : Type) where
  current : δ
  committed : δ
  begun : Bool
  savepoints : List (ν × δ)
  settled : begun = false → savepoints = [] → current = committed

namespace Transactions

variable {ν δ ε : Type} (t : Transactions ν δ)

/-- Nothing is open. -/
def start (data : δ) : Transactions ν δ := ⟨data, data, false, [], fun _ _ => rfl⟩

/-- A transaction is open, which a mark also makes. -/
def Open : Prop := t.begun = true ∨ t.savepoints ≠ []

instance : Decidable t.Open := by
  unfold Open
  infer_instance

/-- Change the data; with nothing open the change is committed at once. -/
def write (data : δ) : Transactions ν δ where
  current := data
  committed := if t.Open then t.committed else data
  begun := t.begun
  savepoints := t.savepoints
  settled closed empty := by simp [Open, closed, empty]

def begin : Transactions ν δ :=
  if t.Open then t else { t with begun := true, settled := nofun }

def savepoint (name : ν) : Transactions ν δ :=
  { t with savepoints := (name, t.current) :: t.savepoints, settled := nofun }

/-- Restore the data of the innermost mark of a name. The marks inside it are gone, the mark
itself stays. There may be none.
-/
def rollbackTo [DecidableEq ν] (name : ν) : Option (Transactions ν δ) :=
  match t.savepoints.dropWhile (fun mark => mark.1 ≠ name) with
  | [] => none
  | (found, data) :: rest =>
      some {
        t with
        current := data
        savepoints := (found, data) :: rest
        settled := nofun
      }

/-- Commit whatever is open, unless the data are refused. -/
def commit (refuses : δ → Option ε) : Except ε (Transactions ν δ) :=
  if t.Open then
    match refuses t.current with
    | some error => .error error
    | none => .ok (start t.current)
  else
    .ok t

/-- Give up the innermost mark of a name and the marks inside it, and keep the data. Giving up
the mark that opened the transaction commits it.
-/
def release [DecidableEq ν] (refuses : δ → Option ε) (missing : ε) (name : ν)
    : Except ε (Transactions ν δ) :=
  match t.savepoints.dropWhile (fun mark => mark.1 ≠ name) with
  | [] => .error missing
  | _ :: rest =>
      if begun : t.begun = false ∧ rest = [] then
        t.commit refuses
      else
        .ok {
          t with
          savepoints := rest
          settled := fun closed empty => absurd ⟨closed, empty⟩ begun
        }

/-- Give up whatever is open, and all data that are not committed. -/
def rollback : Transactions ν δ := start t.committed

/-- The data that are seen, and those that the marks remember. -/
def remembered : List δ := t.current :: t.savepoints.map Prod.snd

variable {t} {name : ν} {data : δ}

/-- Going back finds data that a mark remembers, and keeps some of the marks. -/
theorem remembered_rollbackTo [DecidableEq ν] {restored : Transactions ν δ}
    (found : t.rollbackTo name = some restored)
    : restored.remembered ⊆ t.savepoints.map Prod.snd := by
  have kept := (List.dropWhile_sublist (fun mark => decide (mark.1 ≠ name))
    (l := t.savepoints)).subset
  unfold rollbackTo at found
  split at found
  · cases found
  · rename_i mark data rest marks
    rw [marks] at kept
    cases found
    intro other member
    rcases List.mem_cons.mp member with rfl | member
    · exact List.mem_map.mpr ⟨_, kept List.mem_cons_self, rfl⟩
    · exact List.map_subset _ kept member

theorem write_open (isOpen : t.Open) : (t.write data).committed = t.committed := if_pos isOpen

theorem write_closed (closed : ¬ t.Open) : (t.write data).committed = data := if_neg closed

@[simp] theorem write_current : (t.write data).current = data := rfl

@[simp] theorem write_begun : (t.write data).begun = t.begun := rfl

@[simp] theorem write_savepoints : (t.write data).savepoints = t.savepoints := rfl

@[simp] theorem open_write : (t.write data).Open ↔ t.Open := Iff.rfl

theorem write_write (other : δ) : (t.write other).write data = t.write data := by
  ext
  · rfl
  · by_cases isOpen : t.Open
    · rw [write_open (open_write.mpr isOpen), write_open isOpen, write_open isOpen]
    · rw [write_closed (open_write.not.mpr isOpen), write_closed isOpen]
  · rfl
  · rfl

theorem write_self : t.write t.current = t := by
  by_cases isOpen : t.Open
  · ext <;> simp [write, isOpen]
  · have closed : t.begun = false ∧ t.savepoints = [] := by simpa [Open] using isOpen
    ext <;> simp [write, isOpen, t.settled closed.1 closed.2]

/-- With a transaction open, what is written makes no difference to what is gone back to. -/
theorem rollbackTo_write [DecidableEq ν] (isOpen : t.Open)
    : (t.write data).rollbackTo name = t.rollbackTo name := by
  have kept : (t.write data).committed = t.committed := write_open isOpen
  simp only [rollbackTo, write_savepoints]
  split
  · rfl
  · congr 1
    ext <;> first | exact kept | rfl

/-- Going back, where there is a mark of the name, ends as it was before the writing exactly if there
is no such mark and nothing was changed, or the innermost of all marks is one and holds the data.
-/
theorem getD_rollbackTo_write_iff [DecidableEq ν] (isOpen : t.Open)
    : ((t.write data).rollbackTo name).getD (t.write data) = t
      ↔ (∀ mark ∈ t.savepoints, mark.1 ≠ name) ∧ data = t.current
        ∨ t.savepoints.head? = some (name, t.current) := by
  rw [rollbackTo_write isOpen, rollbackTo]
  cases marks : t.savepoints.dropWhile (fun mark => mark.1 ≠ name) with
  | nil =>
      have none : ∀ mark ∈ t.savepoints, mark.1 ≠ name := by
        simpa using List.dropWhile_eq_nil_iff.mp marks
      have first : ¬ t.savepoints.head? = some (name, t.current) :=
        fun head => none _ (List.mem_of_head? head) rfl
      simp only [Option.getD_none, first, or_false, and_iff_right none]
      constructor
      · exact fun same => congrArg Transactions.current same
      · rintro rfl
        exact write_self
  | cons mark rest =>
      obtain ⟨found, restored⟩ := mark
      have here : found = name := by
        have stops := List.head_dropWhile_not (fun mark : ν × δ => decide (mark.1 ≠ name))
          (marks ▸ List.cons_ne_nil _ _ : t.savepoints.dropWhile _ ≠ [])
        simp only [marks, List.head_cons] at stops
        exact not_not.mp (of_decide_eq_false stops)
      have some : ¬ ∀ mark ∈ t.savepoints, mark.1 ≠ name := by
        intro none
        have member : (found, restored) ∈ t.savepoints :=
          (List.dropWhile_sublist _).subset (marks ▸ List.mem_cons_self)
        exact none _ member here
      simp only [Option.getD_some, some, false_and, false_or]
      subst here
      constructor
      · intro same
        have current := congrArg Transactions.current same
        have savepoints := congrArg Transactions.savepoints same
        rw [← savepoints, ← current]
        rfl
      · intro head
        obtain ⟨others, split⟩ := List.head?_eq_some_iff.mp head
        rw [split, List.dropWhile_cons_of_neg (by simp), List.cons.injEq] at marks
        obtain ⟨mark, rfl⟩ := marks
        ext
        · exact (Prod.mk.inj mark).2.symm
        · rfl
        · rfl
        · rw [split, mark]

theorem open_savepoint : (t.savepoint name).Open := Or.inr (List.cons_ne_nil _ _)

@[simp] theorem begin_current : t.begin.current = t.current := by
  unfold begin
  split <;> rfl

/-- What is committed is all that is left to see. -/
theorem remembered_commit {refuses : δ → Option ε} {committed : Transactions ν δ}
    (done : t.commit refuses = .ok committed)
    : committed.remembered = [t.current] := by
  unfold commit at done
  by_cases isOpen : t.Open
  · rw [if_pos isOpen] at done
    cases reason : refuses t.current with
    | some error => simp [reason] at done
    | none =>
        simp only [reason, Except.ok.injEq] at done
        rw [← done]
        rfl
  · rw [if_neg isOpen] at done
    have none : t.savepoints = [] := by
      simp only [Open, not_or, not_not] at isOpen
      exact isOpen.2
    rw [← Except.ok.inj done, remembered, none]
    rfl

/-- Beginning changes nothing where something is open. -/
theorem begin_open (isOpen : t.Open) : t.begin = t := if_pos isOpen

/-- Going back to a mark restores what it was set on, whatever has been written since, and the
mark is still there.
-/
theorem rollbackTo_savepoint [DecidableEq ν]
    : ((t.savepoint name).write data).rollbackTo name = some (t.savepoint name) := by
  have kept : ((t.savepoint name).write data).committed = t.committed := write_open open_savepoint
  simp only [rollbackTo, write_savepoints, savepoint, ne_eq, not_true_eq_false, decide_false,
    List.dropWhile_cons, Bool.false_eq_true, if_false]
  congr 1
  ext <;> first | exact kept | rfl

/-- A mark is one more than before. -/
theorem savepoint_ne : t.savepoint name ≠ t := by
  intro same
  have longer := congrArg (fun s => s.savepoints.length) same
  simp [savepoint] at longer

/-- Within an open transaction, giving up a mark leaves what was written since. -/
theorem release_savepoint_open [DecidableEq ν] (isOpen : t.Open) (refuses : δ → Option ε)
    (missing : ε)
    : ((t.savepoint name).write data).release refuses missing name = .ok (t.write data) := by
  have others : ¬ (t.begun = false ∧ t.savepoints = []) := by
    simpa [Open, ← Bool.not_eq_true, imp_iff_not_or] using isOpen
  have kept : ((t.savepoint name).write data).committed = t.committed := write_open open_savepoint
  simp only [release, write_savepoints, savepoint, ne_eq, not_true_eq_false, decide_false,
    List.dropWhile_cons, Bool.false_eq_true, if_false]
  refine (dif_neg others).trans (congrArg _ ?_)
  ext
  · rfl
  · exact kept.trans (write_open isOpen).symm
  · rfl
  · rfl

/-- A mark that opened the transaction is given up by a commit. -/
theorem release_savepoint_closed [DecidableEq ν] (closed : ¬ t.Open) (refuses : δ → Option ε)
    (missing : ε)
    : ((t.savepoint name).write data).release refuses missing name
      = ((t.savepoint name).write data).commit refuses := by
  have alone : t.begun = false ∧ t.savepoints = [] := by simpa [Open] using closed
  simp only [release, write_savepoints, savepoint, ne_eq, not_true_eq_false, decide_false,
    List.dropWhile_cons, Bool.false_eq_true, if_false]
  exact dif_pos alone

/-- With nothing open there is nothing to commit. -/
theorem commit_start (refuses : δ → Option ε)
    : (start data : Transactions ν δ).commit refuses = .ok (start data) := by
  simp [commit, Open, start]

end Transactions

end Foundation
