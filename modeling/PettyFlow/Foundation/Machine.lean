import Mathlib

/-! Machines that answer one input at a time, their runs, and the induction rules that
carry a one-step argument to every run.
-/

namespace Foundation

/-- A machine answers every input, failing ones included, and moves to a next state. -/
structure Machine (σ ι ο : Type) where
  step : σ → ι → ο × σ

/-- One step of a run: the input, the answer, and the states around it. -/
structure Event (σ ι ο : Type) where
  before : σ
  input : ι
  output : ο
  after : σ

/-- A sequence of checks passes only when its first check does. -/
theorem bind_ok {ε α β : Type} {first : Except ε α} {next : α → Except ε β} {result : β}
    (passed : (first >>= next) = .ok result)
    : ∃ value, first = .ok value ∧ next value = .ok result := by
  cases first with
  | error error => cases passed
  | ok value => exact ⟨value, rfl, passed⟩

/-- A sequence of checks fails at its first check or later. -/
theorem bind_error {ε α β : Type} {first : Except ε α} {next : α → Except ε β} {error : ε}
    (failed : (first >>= next) = .error error)
    : first = .error error ∨ ∃ value, first = .ok value ∧ next value = .error error := by
  cases first with
  | error other =>
      cases failed
      exact Or.inl rfl
  | ok value => exact Or.inr ⟨value, rfl, failed⟩

theorem mapError_ok {ε δ α : Type} {f : ε → δ} {result : Except ε α} {value : α}
    (passed : result.mapError f = .ok value)
    : result = .ok value := by
  cases result with
  | error error => cases passed
  | ok result =>
      cases passed
      rfl

theorem map_ok {ε α β : Type} {f : α → β} {result : Except ε α} {value : β}
    (passed : result.map f = .ok value)
    : ∃ before, result = .ok before ∧ f before = value := by
  cases result with
  | error error => cases passed
  | ok before => exact ⟨before, rfl, Except.ok.inj passed⟩

theorem ok_of_toOption {ε α : Type} {result : Except ε α} {value : α}
    (found : result.toOption = some value)
    : result = .ok value := by
  cases result with
  | error error => cases found
  | ok result => exact congrArg _ (Option.some.inj found)

/-- Raise an error when a condition holds. -/
def raiseIf {ε : Type} (condition : Prop) [Decidable condition] (error : ε) : Except ε Unit :=
  if condition then .error error else .ok ()

theorem raiseIf_ok {ε : Type} {condition : Prop} [Decidable condition] {error : ε}
    {done : Unit} (passed : raiseIf condition error = .ok done)
    : ¬ condition := by
  intro holds
  simp [raiseIf, holds] at passed

theorem raiseIf_error {ε : Type} {condition : Prop} [Decidable condition] {error raised : ε}
    (failed : raiseIf condition error = .error raised)
    : raised = error := by
  unfold raiseIf at failed
  split at failed
  · exact (Except.error.inj failed).symm
  · cases failed

/-- A check that does not fire leaves the rest of the sequence to decide. -/
theorem raiseIf_neg {ε β : Type} {condition : Prop} [Decidable condition] {error : ε}
    {next : Unit → Except ε β} (quiet : ¬ condition)
    : (raiseIf condition error >>= next) = next () := by
  simp [raiseIf, quiet, bind, Except.bind]

theorem raiseIf_pos {ε β : Type} {condition : Prop} [Decidable condition] {error : ε}
    {next : Unit → Except ε β} (fires : condition)
    : (raiseIf condition error >>= next) = .error error := by
  simp [raiseIf, fires, bind, Except.bind]

/-- The value of an option, or an error where there is none. -/
def orRaise {ε α : Type} (value : Option α) (error : ε) : Except ε α :=
  match value with
  | some value => .ok value
  | none => .error error

theorem orRaise_ok {ε α : Type} {value : Option α} {error : ε} {result : α}
    (passed : orRaise value error = .ok result)
    : value = some result := by
  cases value with
  | none => cases passed
  | some value => exact congrArg some (Except.ok.inj passed)

/-- An operation that makes all its checks before its first change of state: a failed
check answers with the error and the old state, otherwise the change is committed.
-/
def attempt {ε α β σ : Type} (s : σ) (checks : Except ε α) (commit : α → β × σ)
    : Except ε β × σ :=
  match checks with
  | .error error => (.error error, s)
  | .ok checked => (.ok (commit checked).1, (commit checked).2)

/-- To prove something of an operation's result, prove it of a failure, which changes
nothing, and of the committed change.
-/
theorem attempt_elim {ε α β σ : Type} {s : σ} {checks : Except ε α} {commit : α → β × σ}
    {motive : Except ε β × σ → Prop}
    (failed : ∀ error, checks = .error error → motive (.error error, s))
    (passed
      : ∀ checked,
          checks = .ok checked
          → motive (.ok (commit checked).1, (commit checked).2))
    : motive (attempt s checks commit) := by
  cases outcome : checks with
  | error error => exact failed error outcome
  | ok checked => exact passed checked outcome

/-- An operation that answers with a result has passed its checks and committed. -/
theorem attempt_ok {ε α β σ : Type} {s : σ} {checks : Except ε α} {commit : α → β × σ}
    {result : β} (passed : (attempt s checks commit).1 = .ok result)
    : ∃ checked, checks = .ok checked ∧ (commit checked).1 = result := by
  cases checks with
  | error error => cases passed
  | ok checked => exact ⟨checked, rfl, Except.ok.inj passed⟩

/-- An operation that answers with a result leaves what it has committed. -/
theorem attempt_committed {ε α β σ : Type} {s : σ} {checks : Except ε α} {commit : α → β × σ}
    {result : β} (passed : (attempt s checks commit).1 = .ok result)
    : ∃ checked, checks = .ok checked ∧ (attempt s checks commit).2 = (commit checked).2 := by
  cases checks with
  | error error => cases passed
  | ok checked => exact ⟨checked, rfl, rfl⟩

/-- An operation that fails has failed its checks, and leaves the state as it was. -/
theorem attempt_error {ε α β σ : Type} {s : σ} {checks : Except ε α} {commit : α → β × σ}
    {error : ε} (failed : (attempt s checks commit).1 = .error error)
    : checks = .error error ∧ (attempt s checks commit).2 = s := by
  cases checks with
  | error other => exact ⟨congrArg _ (Except.error.inj failed), rfl⟩
  | ok checked => cases failed

theorem attempt_isOk_iff {ε α β σ : Type} {s : σ} {checks : Except ε α} {commit : α → β × σ}
    : (∃ result, (attempt s checks commit).1 = .ok result) ↔ ∃ checked, checks = .ok checked := by
  cases checks with
  | error error => exact iff_of_false nofun nofun
  | ok checked => exact iff_of_true ⟨_, rfl⟩ ⟨_, rfl⟩

namespace Machine

variable {σ ι ο : Type} (m : Machine σ ι ο)

/-- The state after a list of inputs. -/
def exec (s : σ) : List ι → σ
  | [] => s
  | input :: rest => exec (m.step s input).2 rest

/-- The step that `input` causes in state `s`. -/
def event (s : σ) (input : ι) : Event σ ι ο :=
  ⟨s, input, (m.step s input).1, (m.step s input).2⟩

/-- The steps of a run in order. -/
def history (s : σ) : List ι → List (Event σ ι ο)
  | [] => []
  | input :: rest => m.event s input :: history (m.step s input).2 rest

/-- Every input of the run is acceptable in the state it meets. -/
def Admits (ok : σ → ι → Prop) (s : σ) : List ι → Prop
  | [] => True
  | input :: rest => ok s input ∧ Admits ok (m.step s input).2 rest

instance decidableAdmits {ok : σ → ι → Prop} [∀ s input, Decidable (ok s input)] (s : σ)
    : (inputs : List ι) → Decidable (m.Admits ok s inputs)
  | [] => isTrue trivial
  | _ :: rest => @instDecidableAnd _ _ _ (decidableAdmits _ rest)

theorem event_of_step {s next : σ} {input : ι} {output : ο}
    (step : m.step s input = (output, next))
    : m.event s input = ⟨s, input, output, next⟩ := by
  unfold event
  rw [step]

theorem exec_append (s : σ) (first later : List ι)
    : m.exec s (first ++ later) = m.exec (m.exec s first) later := by
  induction first generalizing s with
  | nil => rfl
  | cons input rest ih => exact ih _

theorem history_append (s : σ) (first later : List ι)
    : m.history s (first ++ later)
      = m.history s first ++ m.history (m.exec s first) later := by
  induction first generalizing s with
  | nil => rfl
  | cons input rest ih => simp only [List.cons_append, history, exec, ih]

theorem exec_concat (s : σ) (inputs : List ι) (input : ι)
    : m.exec s (inputs ++ [input]) = (m.step (m.exec s inputs) input).2 :=
  m.exec_append s inputs [input]

theorem history_concat (s : σ) (inputs : List ι) (input : ι)
    : m.history s (inputs ++ [input]) = m.history s inputs ++ [m.event (m.exec s inputs) input] :=
  m.history_append s inputs [input]

theorem admits_append {ok : σ → ι → Prop} (s : σ) (first later : List ι)
    : m.Admits ok s (first ++ later)
      ↔ m.Admits ok s first ∧ m.Admits ok (m.exec s first) later := by
  induction first generalizing s with
  | nil => simp [Admits, exec]
  | cons input rest ih => simp only [List.cons_append, Admits, exec, ih, and_assoc]

/-- An invariant kept by every acceptable step holds after every acceptable run. -/
theorem exec_invariant {ok : σ → ι → Prop} {motive : σ → Prop}
    (kept : ∀ s input, motive s → ok s input → motive (m.step s input).2)
    {s : σ} {inputs : List ι} (start : motive s) (admitted : m.Admits ok s inputs)
    : motive (m.exec s inputs) := by
  induction inputs generalizing s with
  | nil => exact start
  | cons input rest ih => exact ih (kept s input start admitted.1) admitted.2

/-- An invariant kept by every step holds after every run. -/
theorem exec_invariant_of_step {motive : σ → Prop}
    (kept : ∀ s input, motive s → motive (m.step s input).2) {s : σ} (start : motive s)
    (inputs : List ι)
    : motive (m.exec s inputs) := by
  induction inputs generalizing s with
  | nil => exact start
  | cons input rest ih => exact ih (kept s input start)

/-- A reflexive and transitive relation kept by every acceptable step of an invariant
state relates the first state of a run to its last one.
-/
theorem exec_relates {ok : σ → ι → Prop} {motive : σ → Prop} {r : σ → σ → Prop}
    (refl : ∀ s, r s s) (trans : ∀ a b c, r a b → r b c → r a c)
    (kept : ∀ s input, motive s → ok s input → motive (m.step s input).2)
    (related : ∀ s input, motive s → ok s input → r s (m.step s input).2)
    {s : σ} {inputs : List ι} (start : motive s) (admitted : m.Admits ok s inputs)
    : r s (m.exec s inputs) := by
  induction inputs generalizing s with
  | nil => exact refl s
  | cons input rest ih =>
      exact trans _ _ _ (related s input start admitted.1)
        (ih (kept s input start admitted.1) admitted.2)

/-- An invariant of a state together with the steps that led to it: it holds of the empty
history, and each acceptable step extends the history by its own event.
-/
theorem history_invariant {ok : σ → ι → Prop} {motive : List (Event σ ι ο) → σ → Prop}
    (kept
      : ∀ past s input,
          motive past s → ok s input → motive (past ++ [m.event s input]) (m.step s input).2)
    {s : σ} {inputs : List ι} {past : List (Event σ ι ο)} (start : motive past s)
    (admitted : m.Admits ok s inputs)
    : motive (past ++ m.history s inputs) (m.exec s inputs) := by
  induction inputs generalizing s past with
  | nil => simpa only [history, List.append_nil, exec] using start
  | cons input rest ih =>
      have next := ih (kept past s input start admitted.1) admitted.2
      simpa only [history, exec, List.append_assoc, List.singleton_append] using next

/-- Each event of a run is a step from a state that keeps the invariant, on an input that
was acceptable there.
-/
theorem mem_history {ok : σ → ι → Prop} {motive : σ → Prop}
    (kept : ∀ s input, motive s → ok s input → motive (m.step s input).2)
    {s : σ} {inputs : List ι} (start : motive s) (admitted : m.Admits ok s inputs)
    {event : Event σ ι ο} (member : event ∈ m.history s inputs)
    : motive event.before ∧ ok event.before event.input
      ∧ event = m.event event.before event.input := by
  induction inputs generalizing s with
  | nil => simp [history] at member
  | cons input rest ih =>
      rcases List.mem_cons.mp member with rfl | later
      · exact ⟨start, admitted.1, rfl⟩
      · exact ih (kept s input start admitted.1) admitted.2 later

/-- The input of an event is one of the inputs of the run. -/
theorem input_mem {s : σ} {inputs : List ι} {event : Event σ ι ο}
    (member : event ∈ m.history s inputs)
    : event.input ∈ inputs := by
  induction inputs generalizing s with
  | nil => cases member
  | cons input rest ih =>
      rcases List.mem_cons.mp member with rfl | later
      · exact List.mem_cons_self
      · exact List.mem_cons_of_mem _ (ih later)

/-- Acceptability of a run is acceptability of each of its events. -/
theorem admits_iff_history {ok : σ → ι → Prop} (s : σ) (inputs : List ι)
    : m.Admits ok s inputs ↔ ∀ event ∈ m.history s inputs, ok event.before event.input := by
  induction inputs generalizing s with
  | nil => simp [Admits, history]
  | cons input rest ih => simp [Admits, history, event, ih]

/-- An invariant kept by every step of some kind holds after a run of such steps. -/
theorem exec_invariant_of_events {kind : Event σ ι ο → Prop} {motive : σ → Prop}
    (kept : ∀ s input, motive s → kind (m.event s input) → motive (m.step s input).2)
    {s : σ} {inputs : List ι} (start : motive s)
    (all : ∀ event ∈ m.history s inputs, kind event)
    : motive (m.exec s inputs) := by
  induction inputs generalizing s with
  | nil => exact start
  | cons input rest ih =>
      apply ih (kept s input start (all _ List.mem_cons_self))
      exact fun event member => all event (List.mem_cons_of_mem _ member)

/-- A history is cut where its inputs are cut, by induction over the first part. -/
theorem history_split {s : σ} {inputs : List ι} {first later : List (Event σ ι ο)}
    (split : m.history s inputs = first ++ later)
    : ∃ firstInputs laterInputs,
        inputs = firstInputs ++ laterInputs
        ∧ m.history s firstInputs = first
        ∧ m.history (m.exec s firstInputs) laterInputs = later := by
  induction first generalizing s inputs with
  | nil => exact ⟨[], inputs, rfl, rfl, split⟩
  | cons event rest ih =>
      cases inputs with
      | nil => cases split
      | cons input tail =>
          obtain ⟨rfl, splitTail⟩ := List.cons.inj split
          obtain ⟨firstInputs, laterInputs, rfl, here, there⟩ := ih splitTail
          exact ⟨input :: firstInputs, laterInputs, rfl, by rw [history, here], there⟩

/-- A property holds at every point of a run of legal inputs exactly when every input is
acceptable, if an invariant implies the property, is kept by acceptable inputs, and is such that
an input after which the property still holds was acceptable; by induction over the inputs.
-/
theorem throughout_iff_among {ok : σ → ι → Prop} (motive kept : List (Event σ ι ο) → σ → Prop)
    (legal : ι → Prop) (sound : ∀ past s, kept past s → motive past s)
    (step
      : ∀ past s input,
          legal input
          → kept past s
          → ok s input
          → kept (past ++ [m.event s input]) (m.step s input).2)
    (tight
      : ∀ past s input,
          legal input
          → kept past s
          → motive (past ++ [m.event s input]) (m.step s input).2
          → ok s input)
    {s : σ} (start : kept [] s) {inputs : List ι} (allLegal : ∀ input ∈ inputs, legal input)
    : (∀ done, done <+: inputs → motive (m.history s done) (m.exec s done))
      ↔ m.Admits ok s inputs := by
  -- The history before is a parameter, so that the induction can move an event into it
  have general (past : List (Event σ ι ο)) (s : σ) (start : kept past s)
      : (∀ done, done <+: inputs → motive (past ++ m.history s done) (m.exec s done))
        ↔ m.Admits ok s inputs := by
    induction inputs generalizing past s with
    | nil =>
        refine iff_of_true (fun done isPrefix => ?_) trivial
        rw [List.prefix_nil.mp isPrefix, history, List.append_nil]
        exact sound past s start
    | cons input rest ih =>
        obtain ⟨inputLegal, restLegal⟩ := List.forall_mem_cons.mp allLegal
        constructor
        · intro holds
          have first := tight past s input inputLegal start (holds [input] ⟨rest, rfl⟩)
          refine ⟨first, (ih restLegal _ _ (step past s input inputLegal start first)).mp ?_⟩
          intro done isPrefix
          have next := holds (input :: done) (List.cons_prefix_cons.mpr ⟨rfl, isPrefix⟩)
          rwa [history, List.append_cons] at next
        · rintro ⟨first, later⟩ done isPrefix
          cases done with
          | nil =>
              rw [history, List.append_nil]
              exact sound past s start
          | cons head tail =>
              obtain ⟨rfl, restPrefix⟩ := List.cons_prefix_cons.mp isPrefix
              have kept := step past s head inputLegal start first
              have next := (ih restLegal _ _ kept).mpr later tail restPrefix
              rwa [← List.append_cons] at next
  simpa only [List.nil_append] using general [] s start

/-- The same where every input is legal. -/
theorem throughout_iff {ok : σ → ι → Prop} (motive kept : List (Event σ ι ο) → σ → Prop)
    (sound : ∀ past s, kept past s → motive past s)
    (step
      : ∀ past s input,
          kept past s
          → ok s input
          → kept (past ++ [m.event s input]) (m.step s input).2)
    (tight
      : ∀ past s input,
          kept past s
          → motive (past ++ [m.event s input]) (m.step s input).2
          → ok s input)
    {s : σ} (start : kept [] s) (inputs : List ι)
    : (∀ done, done <+: inputs → motive (m.history s done) (m.exec s done))
      ↔ m.Admits ok s inputs :=
  m.throughout_iff_among motive kept (fun _ => True) sound (fun past s input _ => step past s input)
    (fun past s input _ => tight past s input) start (fun _ _ => trivial)

end Machine

end Foundation
