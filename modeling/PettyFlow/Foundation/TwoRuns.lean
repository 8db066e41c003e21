import PettyFlow.Foundation.Machine

/-! A run beside the same run with some of its inputs deleted. The inputs that stay get the
same answers in both runs as long as the two states stay related.
-/

namespace Foundation

/-- The state of a run, the state of the run without the foreign inputs, and what has been
noted of these.
-/
structure TwoRuns (σ γ : Type) where
  mixed : σ
  alone : σ
  noted : γ

/-- One operation on two related states, with checks that agree and changes that answer alike
and keep the states related.
-/
theorem attempt_both {ε α β σ : Type} {related : σ → σ → Prop} {s t : σ} {checks : Except ε α}
    {commit other : α → β × σ} (start : related s t)
    (agree
      : ∀ checked,
          checks = .ok checked
          → (commit checked).1 = (other checked).1 ∧ related (commit checked).2 (other checked).2)
    : (attempt s checks commit).1 = (attempt t checks other).1
      ∧ related (attempt s checks commit).2 (attempt t checks other).2 := by
  cases outcome : checks with
  | error error => exact ⟨rfl, start⟩
  | ok checked =>
      obtain ⟨same, next⟩ := agree checked outcome
      exact ⟨congrArg Except.ok same, next⟩

namespace Machine

variable {σ ι ο γ : Type} (m : Machine σ ι ο) (own : ι → Prop) [DecidablePred own]
  (note : γ → σ → ι → γ)

/-- Both runs take an own input; only one takes a foreign input, and this is noted. -/
def twoRuns : Machine (TwoRuns σ γ) ι Unit where
  step s input :=
    if own input then
      ((), ⟨(m.step s.mixed input).2, (m.step s.alone input).2, s.noted⟩)
    else
      ((), ⟨(m.step s.mixed input).2, s.alone, note s.noted s.mixed input⟩)

/-- The answers that a run gives to the own inputs. -/
def ownOutputs (s : σ) : List ι → List ο
  | [] => []
  | input :: rest =>
      if own input then
        (m.step s input).1 :: ownOutputs (m.step s input).2 rest
      else
        ownOutputs (m.step s input).2 rest

variable {m own note}

theorem twoRuns_own {s : TwoRuns σ γ} {input : ι} (isOwn : own input)
    : ((m.twoRuns own note).step s input).2
      = ⟨(m.step s.mixed input).2, (m.step s.alone input).2, s.noted⟩ := by
  simp only [twoRuns, if_pos isOwn]

theorem twoRuns_foreign {s : TwoRuns σ γ} {input : ι} (isForeign : ¬ own input)
    : ((m.twoRuns own note).step s input).2
      = ⟨(m.step s.mixed input).2, s.alone, note s.noted s.mixed input⟩ := by
  simp only [twoRuns, if_neg isForeign]

/-- Every input of a run is acceptable exactly if each one is after those before it. -/
theorem admits_iff_splits {ok : σ → ι → Prop} (s : σ) (inputs : List ι)
    : m.Admits ok s inputs
      ↔ ∀ before input after, inputs = before ++ input :: after → ok (m.exec s before) input := by
  induction inputs generalizing s with
  | nil => exact iff_of_true trivial (fun before input after split => by simp at split)
  | cons head rest ih =>
      rw [Admits, ih]
      constructor
      · rintro ⟨here, later⟩ before input after split
        cases before with
        | nil =>
            obtain ⟨rfl, _⟩ := List.cons.inj split
            exact here
        | cons first before =>
            obtain ⟨rfl, behind⟩ := List.cons.inj split
            exact later before input after behind
      · intro all
        exact ⟨all [] head rest rfl, fun before input after split =>
          all (head :: before) input after (by rw [split, List.cons_append])⟩

/-- The run with all inputs goes on as it does by itself. -/
theorem twoRuns_mixed (s : TwoRuns σ γ) (inputs : List ι)
    : ((m.twoRuns own note).exec s inputs).mixed = m.exec s.mixed inputs := by
  induction inputs generalizing s with
  | nil => rfl
  | cons input rest ih =>
      rw [exec, ih, exec]
      by_cases isOwn : own input
      · rw [twoRuns_own isOwn]
      · rw [twoRuns_foreign isOwn]

/-- What is acceptable by the run with all inputs is acceptable in that run. -/
theorem admits_mixed_iff {ok : σ → ι → Prop} (s : TwoRuns σ γ) (inputs : List ι)
    : (m.twoRuns own note).Admits (fun runs input => ok runs.mixed input) s inputs
      ↔ m.Admits ok s.mixed inputs := by
  rw [admits_iff_splits, admits_iff_splits]
  simp only [twoRuns_mixed]

/-- Where every input is admitted, two related states give an own input the same answer exactly
when it is acceptable there, and then they stay related; a foreign input is always acceptable and
keeps them related. Then the runs give the same answers exactly when every input is acceptable, by
induction over the inputs.
-/
theorem ownOutputs_eq_iff_of_admits {related : TwoRuns σ γ → Prop}
    {admitted ok : TwoRuns σ γ → ι → Prop}
    (foreign
      : ∀ s input,
          related s
          → ¬ own input
          → admitted s input
          → ok s input ∧ related ((m.twoRuns own note).step s input).2)
    (agrees
      : ∀ s input,
          related s
          → own input
          → admitted s input
          → ((m.step s.mixed input).1 = (m.step s.alone input).1 ↔ ok s input))
    (kept
      : ∀ s input,
          related s
          → own input
          → admitted s input
          → ok s input
          → related ((m.twoRuns own note).step s input).2)
    {s : TwoRuns σ γ} (start : related s) {inputs : List ι}
    (all : (m.twoRuns own note).Admits admitted s inputs)
    : m.ownOutputs own s.mixed inputs = m.ownOutputs own s.alone (inputs.filter own)
      ↔ (m.twoRuns own note).Admits ok s inputs := by
  induction inputs generalizing s with
  | nil => exact iff_of_true rfl trivial
  | cons input rest ih =>
      obtain ⟨here, later⟩ := all
      rw [Admits]
      by_cases isOwn : own input
      · -- Where the answers differ the lists do; otherwise the rest of the runs decides
        simp only [List.filter_cons, decide_eq_true_eq, ownOutputs, if_pos isOwn,
          List.cons.injEq, agrees s input start isOwn here]
        refine and_congr_right (fun accepted => ?_)
        have next := kept s input start isOwn here accepted
        rw [twoRuns_own isOwn] at next later ⊢
        exact ih next later
      · obtain ⟨accepted, next⟩ := foreign s input start isOwn here
        simp only [List.filter_cons, decide_eq_true_eq, ownOutputs, if_neg isOwn, accepted,
          true_and]
        rw [twoRuns_foreign isOwn] at next later ⊢
        exact ih next later

/-- Where any two related states give an own input the same answer exactly when it is acceptable,
the runs do so exactly when every input is.
-/
theorem ownOutputs_eq_iff {related : TwoRuns σ γ → Prop} {ok : TwoRuns σ γ → ι → Prop}
    (foreign
      : ∀ s input,
          related s
          → ¬ own input
          → ok s input ∧ related ((m.twoRuns own note).step s input).2)
    (agrees
      : ∀ s input,
          related s
          → own input
          → ((m.step s.mixed input).1 = (m.step s.alone input).1 ↔ ok s input))
    (kept
      : ∀ s input,
          related s
          → own input
          → ok s input
          → related ((m.twoRuns own note).step s input).2)
    {s : TwoRuns σ γ} (start : related s) (inputs : List ι)
    : m.ownOutputs own s.mixed inputs = m.ownOutputs own s.alone (inputs.filter own)
      ↔ (m.twoRuns own note).Admits ok s inputs := by
  have all : (m.twoRuns own note).Admits (fun _ _ => True) s inputs :=
    ((m.twoRuns own note).admits_iff_history _ _).mpr (fun _ _ => trivial)
  exact ownOutputs_eq_iff_of_admits (fun s input start isOwn _ => foreign s input start isOwn)
    (fun s input start isOwn _ => agrees s input start isOwn)
    (fun s input start isOwn _ accepted => kept s input start isOwn accepted) start all

/-- Where related states give an acceptable own input the same answer, and every input keeps
them related, the runs give the same answers; by induction over the inputs.
-/
theorem ownOutputs_eq_of_admits {related : TwoRuns σ γ → Prop} {ok : TwoRuns σ γ → ι → Prop}
    (foreign
      : ∀ s input, related s → ¬ own input → related ((m.twoRuns own note).step s input).2)
    (agrees
      : ∀ s input,
          related s
          → own input
          → ok s input
          → (m.step s.mixed input).1 = (m.step s.alone input).1
            ∧ related ((m.twoRuns own note).step s input).2)
    {s : TwoRuns σ γ} (start : related s) {inputs : List ι}
    (admitted : (m.twoRuns own note).Admits ok s inputs)
    : m.ownOutputs own s.mixed inputs = m.ownOutputs own s.alone (inputs.filter own) := by
  induction inputs generalizing s with
  | nil => rfl
  | cons input rest ih =>
      obtain ⟨accepted, later⟩ := admitted
      by_cases isOwn : own input
      · obtain ⟨same, next⟩ := agrees s input start isOwn accepted
        have equal := ih next later
        rw [twoRuns_own isOwn] at equal
        simp only [List.filter_cons, decide_eq_true_eq, ownOutputs, if_pos isOwn, same, equal]
      · have equal := ih (foreign s input start isOwn) later
        rw [twoRuns_foreign isOwn] at equal
        simp only [List.filter_cons, decide_eq_true_eq, ownOutputs, if_neg isOwn, equal]

end Machine

end Foundation
