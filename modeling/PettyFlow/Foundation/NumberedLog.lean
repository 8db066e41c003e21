import PettyFlow.Foundation.ReplayCache

/-! Posting services that number what they post and look it up again by its number, as the first in
their log that has it.
-/

namespace Foundation

/-- In a log whose numbers differ a look-up by number finds what has it. -/
theorem find_number_of_nodup {ρ ν : Type} [DecidableEq ν] {number : ρ → ν} {log : List ρ} {r : ρ}
    (different : (log.map number).Nodup) (member : r ∈ log)
    : log.find? (fun other => number other = number r) = some r := by
  induction log with
  | nil => cases member
  | cons head rest ih =>
      obtain ⟨unused, rest_different⟩ := List.nodup_cons.mp different
      rcases List.mem_cons.mp member with rfl | later
      · exact List.find?_cons_of_pos (decide_eq_true rfl)
      · have other : number head ≠ number r :=
          fun same => unused (same ▸ List.mem_map_of_mem later)
        rw [List.find?_cons_of_neg (by simp [other])]
        exact ih rest_different later

/-- A posting service that adds what it posts to a log, under a number that the call brings. -/
structure NumberedPosting {σ ι ε κ τ ρ : Type} [DecidableEq κ] (p : Posting σ ι ε κ τ ρ)
    (ν : Type) where
  log : σ → List ρ
  number : ρ → ν
  drawn : ι → ν
  post_log
    : ∀ s i posted next,
        p.post s i = .ok (posted, next)
        → log next = log s ++ [posted] ∧ number posted = drawn i

namespace Posting

variable {σ ι ε κ τ ρ : Type} [DecidableEq κ] (p : Posting σ ι ε κ τ ρ)

/-- The calls that post, where some keys are filed before: those that can and whose key is new. -/
def newCalls (filed : List κ) : List ι → List ι
  | [] => []
  | call :: rest =>
      if p.alone call = .posted then
        match p.key call with
        | none => call :: newCalls filed rest
        | some key =>
            if key ∈ filed then
              newCalls filed rest
            else
              call :: newCalls (key :: filed) rest
      else
        newCalls filed rest

/-- The calls that post among the first ones of a run are the first ones that post. -/
theorem newCalls_prefix {filed : List κ} {first calls : List ι} (isPrefix : first <+: calls)
    : p.newCalls filed first <+: p.newCalls filed calls := by
  induction calls generalizing filed first with
  | nil => rw [List.prefix_nil.mp isPrefix]
  | cons call rest ih =>
      cases first with
      | nil => exact List.nil_prefix
      | cons head tail =>
          obtain ⟨rfl, tails⟩ := List.cons_prefix_cons.mp isPrefix
          rw [newCalls, newCalls]
          split
          · split
            · exact List.cons_prefix_cons.mpr ⟨rfl, ih tails⟩
            · split
              · exact ih tails
              · exact List.cons_prefix_cons.mpr ⟨rfl, ih tails⟩
          · exact ih tails

/-- A call that can post is one that passes its checks. -/
theorem lookupKey_of_posted {call : ι} (posts : p.alone call = .posted)
    : p.lookupKey call = p.key call := by
  unfold alone at posts
  unfold lookupKey
  cases checked : p.checks call with
  | error error =>
      rw [checked] at posts
      cases posts
  | ok done => rfl

/-- A call that cannot post changes nothing. -/
theorem step_of_not_posted {s : σ} {call : ι} (never : p.alone call ≠ .posted)
    : (p.machine.step s call).2 = s := by
  rcases p.cache.hit_or_miss s call with ⟨key, r, looked, found⟩ | miss
  · rw [p.step_hit looked found]
  · rcases p.step_miss miss with ⟨_, error, step⟩ | ⟨posts, _⟩
    · rw [step]
    · exact absurd posts never

end Posting

namespace NumberedPosting

variable {σ ι ε κ τ ρ ν : Type} [DecidableEq κ] {p : Posting σ ι ε κ τ ρ}
  (n : NumberedPosting p ν)

/-- After a run the log has a number more for each call that posts, by induction over the calls. -/
theorem numbers_exec {s : σ} {filed : List κ} (calls : List ι)
    (known : ∀ key, (∃ r, (p.records s).get? key = some r) ↔ key ∈ filed)
    : (n.log (p.machine.exec s calls)).map n.number
      = (n.log s).map n.number ++ (p.newCalls filed calls).map n.drawn := by
  induction calls generalizing s filed with
  | nil => simp [Machine.exec, Posting.newCalls]
  | cons call rest ih =>
      rw [Machine.exec, Posting.newCalls]
      by_cases posts : p.alone call = .posted
      · rw [if_pos posts]
        have looked := p.lookupKey_of_posted posts
        -- What a call leaves that finds no record
        have fresh (miss : ∀ key ∈ p.key call, (p.records s).get? key = none)
            : ∃ posted next,
                (p.machine.step s call).2 = next
                ∧ n.log next = n.log s ++ [posted]
                ∧ n.number posted = n.drawn call
                ∧ p.records next
                  = match p.key call with
                    | none => p.records s
                    | some key => (p.records s).set key posted := by
          rcases p.step_miss (s := s) (looked.symm ▸ miss) with
            ⟨raised, _⟩ | ⟨_, _, posted, next, ok, step⟩
          · rw [posts] at raised
            cases raised
          · obtain ⟨logged, numbered⟩ := n.post_log s call posted next ok
            exact ⟨posted, next, by rw [step], logged, numbered,
              p.post_records s call posted next ok⟩
        cases key : p.key call with
        | none =>
            obtain ⟨posted, next, step, logged, numbered, records⟩ := fresh (by simp [key])
            rw [key] at records
            rw [step, ih (by rw [records]; exact known), logged]
            simp [numbered]
        | some k =>
            dsimp only
            by_cases held : k ∈ filed
            · obtain ⟨r, found⟩ := (known k).mpr held
              rw [if_pos held, p.step_hit (looked.trans key) found]
              exact ih known
            · have missing : (p.records s).get? k = none :=
                Option.eq_none_iff_forall_ne_some.mpr
                  (fun r found => held ((known k).mp ⟨r, found⟩))
              obtain ⟨posted, next, step, logged, numbered, records⟩ :=
                fresh (by simp [key, missing])
              rw [key] at records
              have knownNext (other : κ)
                  : (∃ r, (p.records next).get? other = some r) ↔ other ∈ k :: filed := by
                rw [records, Dict.get?_set, List.mem_cons, ← known other]
                by_cases same : k = other <;> simp [same, eq_comm]
              rw [if_neg held, step, ih knownNext, logged]
              simp [numbered]
      · rw [if_neg posts, p.step_of_not_posted posts]
        exact ih known

theorem numbers_exec_of_new {s : σ} (unfiled : ∀ key, (p.records s).get? key = none)
    (unlogged : n.log s = []) (calls : List ι)
    : (n.log (p.machine.exec s calls)).map n.number = (p.newCalls [] calls).map n.drawn := by
  have none (key : κ) : (∃ r, (p.records s).get? key = some r) ↔ key ∈ ([] : List κ) := by
    simp [unfiled]
  rw [n.numbers_exec calls none, unlogged, List.map_nil, List.nil_append]

/-- What is posted has a number that a call has brought. -/
theorem exists_drawn {s : σ} (unfiled : ∀ key, (p.records s).get? key = none)
    (unlogged : n.log s = []) {calls : List ι} {r : ρ}
    (member : r ∈ n.log (p.machine.exec s calls))
    : ∃ call, n.number r = n.drawn call := by
  have listed := @List.mem_map_of_mem _ _ _ _ n.number member
  rw [n.numbers_exec_of_new unfiled unlogged] at listed
  obtain ⟨call, _, same⟩ := List.mem_map.mp listed
  exact ⟨call, same.symm⟩

/-- At every point of a run numbers differ and look-ups find what has them exactly if the calls
that post bring different numbers.
-/
theorem numbers_different_iff [DecidableEq ν] {s : σ}
    (unfiled : ∀ key, (p.records s).get? key = none) (unlogged : n.log s = []) (calls : List ι)
    : (∀ done,
        done <+: calls
        → ((n.log (p.machine.exec s done)).map n.number).Nodup
          ∧ ∀ r ∈ n.log (p.machine.exec s done),
              (n.log (p.machine.exec s done)).find? (fun other => n.number other = n.number r)
              = some r)
      ↔ ((p.newCalls [] calls).map n.drawn).Nodup := by
  have numbers := n.numbers_exec_of_new unfiled unlogged
  constructor
  · intro right
    rw [← numbers]
    exact (right calls List.prefix_rfl).1
  · intro different done isPrefix
    have here : ((n.log (p.machine.exec s done)).map n.number).Nodup := by
      rw [numbers]
      exact different.sublist ((p.newCalls_prefix isPrefix).sublist.map n.drawn)
    exact ⟨here, fun r member => find_number_of_nodup here member⟩

/-- What is posted has different numbers, each a text by which it is found. -/
structure Right (n : NumberedPosting p (Option String)) (s : σ) : Prop where
  different : (n.log s).Pairwise (fun a b => n.number a ≠ n.number b)
  found
    : ∀ r ∈ n.log s,
        ∃ text,
          n.number r = some text ∧ (n.log s).find? (fun other => n.number other = some text) = some r

/-- Where the texts are determined by remainders, these are what has to differ. -/
theorem right_iff (n : NumberedPosting p (Option String)) {s : σ}
    (unfiled : ∀ key, (p.records s).get? key = none) (unlogged : n.log s = [])
    {spelled : Nat → String} {remainder : ι → Nat}
    (drawn : ∀ call, n.drawn call = some (spelled (remainder call)))
    (injective
      : ∀ a b, spelled (remainder a) = spelled (remainder b) → remainder a = remainder b)
    (calls : List ι)
    : (∀ done, done <+: calls → n.Right (p.machine.exec s done))
      ↔ ((p.newCalls [] calls).map remainder).Nodup := by
  have texts : (p.newCalls [] calls).map n.drawn
      = ((p.newCalls [] calls).map remainder).map (fun r => some (spelled r)) := by
    rw [List.map_map]
    exact List.map_congr_left (fun call _ => drawn call)
  have different
      : ((p.newCalls [] calls).map n.drawn).Nodup
        ↔ ((p.newCalls [] calls).map remainder).Nodup := by
    rw [texts]
    refine ⟨List.Nodup.of_map _, fun nodup => nodup.map_on ?_⟩
    intro x listed y listed' same
    obtain ⟨a, _, rfl⟩ := List.mem_map.mp listed
    obtain ⟨b, _, rfl⟩ := List.mem_map.mp listed'
    exact injective a b (Option.some.inj same)
  rw [← different, ← n.numbers_different_iff unfiled unlogged]
  refine forall₂_congr (fun done _ => ?_)
  have numbered {r : ρ} (member : r ∈ n.log (p.machine.exec s done))
      : ∃ text, n.number r = some text := by
    obtain ⟨call, same⟩ := n.exists_drawn unfiled unlogged member
    exact ⟨_, same.trans (drawn call)⟩
  constructor
  · intro right
    refine ⟨List.pairwise_map.mpr right.different, fun r member => ?_⟩
    obtain ⟨text, same, found⟩ := right.found r member
    rwa [same]
  · intro ⟨nodup, found⟩
    refine ⟨List.pairwise_map.mp nodup, fun r member => ?_⟩
    obtain ⟨text, same⟩ := numbered member
    refine ⟨text, same, ?_⟩
    have here := found r member
    rwa [same] at here

end NumberedPosting

end Foundation
