import PettyFlow.Foundation.ReplayCache

/-! Which call of a run the record was made for that a later call is answered with. -/

namespace Foundation

/-- A step of a run stands between the inputs before it and after it. -/
theorem Machine.mem_history_split {σ ι ο : Type} {m : Machine σ ι ο} {s : σ} {inputs : List ι}
    {event : Event σ ι ο} (member : event ∈ m.history s inputs)
    : ∃ before after,
        inputs = before ++ event.input :: after
        ∧ event = m.event (m.exec s before) event.input := by
  obtain ⟨first, later, split⟩ := List.append_of_mem member
  obtain ⟨before, rest, rfl, _, there⟩ := m.history_split split
  cases rest with
  | nil => cases there
  | cons input after =>
      obtain ⟨rfl, _⟩ := List.cons.inj there
      exact ⟨before, after, rfl, rfl⟩

namespace ReplayCache

variable {σ ι ο κ τ ρ φ : Type} {m : Machine σ ι ο} (c : ReplayCache m κ τ ρ)

/-- The step finds no record under its key, and is answered with one of its own. -/
structure Makes (event : Event σ ι ο) (r : ρ) : Prop where
  missed : ∀ k ∈ c.key event.input, c.record event.before k = none
  returned : c.returned event.output = some r

/-- What the call is answered with was made for a call of the run that asked for the same, or
for the call itself.
-/
def AnsweredAlike (asks : ι → φ) (s : σ) (before : List ι) (call : ι) : Prop :=
  ∀ r ∈ c.returned (m.step (m.exec s before) call).1,
    ∃ event ∈ m.history s (before ++ [call]),
      c.Makes event r ∧ asks event.input = asks call

/-- Every record that is made is filed, and tells its key. -/
def TellsKey (own : ρ → κ) : Prop :=
  ∀ s i,
    (∀ k ∈ c.key i, c.record s k = none)
    → ∀ r ∈ c.returned (m.step s i).1, c.alone i = .posted ∧ c.key i = some (own r)

variable [DecidableEq κ]

/-- The first call of a run that files a record under the key. -/
def filer (k : κ) (calls : List ι) : Option ι :=
  calls.find? (fun i => c.alone i = .posted ∧ c.key i = some k)

theorem filer_append (k : κ) (calls later : List ι)
    : c.filer k (calls ++ later) = (c.filer k calls).or (c.filer k later) := by
  rw [filer, List.find?_append]
  rfl

variable {s : σ}

/-- The record of a key was made by the first call that files under it, and there is none when
no call does; by induction over the run, from its end.
-/
theorem record_filer (empty : ∀ k, c.record s k = none) (k : κ) (calls : List ι)
    : (c.filer k calls = none ∧ c.record (m.exec s calls) k = none)
      ∨ ∃ event ∈ m.history s calls,
          ∃ r,
            c.filer k calls = some event.input
            ∧ c.Makes event r
            ∧ c.record (m.exec s calls) k = some r := by
  induction calls using List.reverseRecOn with
  | nil => exact Or.inl ⟨rfl, empty k⟩
  | append_singleton calls last ih =>
      rw [filer_append, m.exec_append, m.history_append]
      rcases ih with ⟨nobody, free⟩ | ⟨event, member, r, first, makes, found⟩
      · by_cases files : c.alone last = .posted ∧ c.key last = some k
        · -- The call is the first one to file under the key
          have missed : ∀ other ∈ c.key last, c.record (m.exec s calls) other = none := by
            intro other same
            rw [files.2] at same
            obtain rfl := Option.some.inj same
            exact free
          obtain ⟨r, returned, filed⟩ := c.miss_filed _ last missed files.1 k files.2
          refine Or.inr ⟨m.event (m.exec s calls) last,
            List.mem_append_right _ (List.mem_singleton.mpr rfl), r, ?_, ⟨missed, returned⟩, filed⟩
          rw [nobody, Option.none_or, filer, List.find?_cons_of_pos (by simpa using files)]
          rfl
        · refine Or.inl ⟨?_, ?_⟩
          · rw [nobody, Option.none_or, filer,
              List.find?_cons_of_neg (by simpa using files), List.find?_nil]
          · rcases c.hit_or_miss (m.exec s calls) last with ⟨other, held, looked, hit⟩ | missed
            · exact (c.hit_record _ last other held looked hit k).trans free
            · have unfiled : c.alone last = .posted → c.key last ≠ some k :=
                fun posted same => files ⟨posted, same⟩
              exact (c.miss_record _ last missed k unfiled).trans free
      · -- A record that is filed stays, and so does the first call that filed
        refine Or.inr ⟨event, List.mem_append_left _ member, r, ?_, makes, ?_⟩
        · rw [first, Option.some_or]
        · exact c.record_kept last found

/-- A call of the run that makes a record is the first one to file under its key. -/
theorem filer_of_makes (empty : ∀ k, c.record s k = none) {own : ρ → κ} (tells : c.TellsKey own)
    {calls : List ι} {event : Event σ ι ο} {r : ρ} (member : event ∈ m.history s calls)
    (makes : c.Makes event r)
    : c.filer (own r) calls = some event.input := by
  obtain ⟨before, after, rfl, step⟩ := Machine.mem_history_split member
  have missed := makes.missed
  have returned := makes.returned
  rw [step] at missed returned
  obtain ⟨posted, key⟩ := tells _ _ missed r returned
  have nobody : c.filer (own r) before = none := by
    rcases c.record_filer empty (own r) before with ⟨nobody, _⟩ | ⟨_, _, _, _, _, found⟩
    · exact nobody
    · cases (missed _ key).symm.trans found
  rw [filer_append, nobody, Option.none_or, filer,
    List.find?_cons_of_pos (by simpa using ⟨posted, key⟩)]

/-- In a run from an empty cache a call is answered with what was made for a call that asked for
the same, exactly when the first call that files under its key has asked for the same.
-/
theorem answeredAlike_iff (empty : ∀ k, c.record s k = none) {own : ρ → κ}
    (tells : c.TellsKey own) (asks : ι → φ) (before : List ι) {call : ι} {k : κ}
    (looked : c.key call = some k)
    : c.AnsweredAlike asks s before call
      ↔ ∀ first ∈ c.filer k before, asks first = asks call := by
  constructor
  · intro alike first files
    rcases c.record_filer empty k before with ⟨nobody, _⟩ | ⟨event, member, r, filed, makes, found⟩
    · cases nobody.symm.trans files
    · obtain rfl := Option.some.inj (filed.symm.trans files)
      obtain ⟨maker, there, makesToo, same⟩ :=
        alike r (c.hit_returned _ call k r looked found)
      -- A record tells its key, so both calls have made it for the same key
      have here := c.filer_of_makes empty tells
        (m.history_append s before [call] ▸ List.mem_append_left _ member) makes
      have first : maker.input = event.input :=
        Option.some.inj ((c.filer_of_makes empty tells there makesToo).symm.trans here)
      rw [← first]
      exact same
  · intro agree r returned
    rw [m.history_append]
    rcases c.hit_or_miss (m.exec s before) call with ⟨other, held, looked', hit⟩ | missed
    · obtain rfl := Option.some.inj (looked.symm.trans looked')
      obtain rfl := Option.some.inj
        ((c.hit_returned _ call k held looked hit).symm.trans returned)
      rcases c.record_filer empty k before
        with ⟨_, free⟩ | ⟨event, member, r, filed, makes, found⟩
      · cases free.symm.trans hit
      · obtain rfl := Option.some.inj (found.symm.trans hit)
        exact ⟨event, List.mem_append_left _ member, makes, agree event.input filed⟩
    · exact ⟨m.event (m.exec s before) call,
        List.mem_append_right _ (List.mem_singleton.mpr rfl), ⟨missed, returned⟩, rfl⟩

end ReplayCache

/-- A posting service files every record that it makes, if what it posts tells its key. -/
theorem Posting.cache_tellsKey {σ ι ε κ τ ρ : Type} [DecidableEq κ] (p : Posting σ ι ε κ τ ρ)
    {own : ρ → κ}
    (posts : ∀ s i posted next, p.post s i = .ok (posted, next) → p.key i = some (own posted))
    : p.cache.TellsKey own := by
  intro s i missed r returned
  rcases p.step_miss missed with ⟨_, error, step⟩ | ⟨alone, key, posted, next, ok, step⟩
  · rw [step] at returned
    cases returned
  · rw [step] at returned
    obtain rfl := Option.some.inj returned
    exact ⟨alone, key.trans (posts s i posted next ok)⟩

end Foundation
