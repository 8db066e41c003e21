import PettyFlow.Foundation.Dict
import PettyFlow.Foundation.Machine

/-! Machines that answer a repeated key from an earlier record, used by several tenants, and
when their tenants cannot notice each other.
-/

namespace Foundation

/-- What a call came to. -/
inductive Outcome where
  | raised
  | posted
  | answered
deriving DecidableEq

/-- A machine with a replay cache. A call that passes its own checks looks its key up: it is
answered with the record found, or else it makes its effect, and its own record is filed
where it succeeds.
-/
structure ReplayCache {σ ι ο : Type} (m : Machine σ ι ο) (κ τ ρ : Type) where
  key : ι → Option κ
  tenant : ι → τ
  record : σ → κ → Option ρ
  owner : ρ → τ
  returned : ο → Option ρ
  outcome : Event σ ι ο → Outcome
  /-- What the call comes to where it finds no record. -/
  alone : ι → Outcome
  hit_returned
    : ∀ s i k r,
        key i = some k → record s k = some r → returned (m.step s i).1 = some r
  hit_outcome
    : ∀ s i k r,
        key i = some k → record s k = some r → outcome (m.event s i) = .answered
  hit_record
    : ∀ s i k r,
        key i = some k
        → record s k = some r
        → ∀ other, record (m.step s i).2 other = record s other
  miss_outcome
    : ∀ s i, (∀ k ∈ key i, record s k = none) → outcome (m.event s i) = alone i
  miss_owner
    : ∀ s i,
        (∀ k ∈ key i, record s k = none)
        → ∀ r ∈ returned (m.step s i).1, owner r = tenant i
  miss_filed
    : ∀ s i,
        (∀ k ∈ key i, record s k = none)
        → alone i = .posted
        → ∀ k ∈ key i, ∃ r, returned (m.step s i).1 = some r ∧ record (m.step s i).2 k = some r
  miss_record
    : ∀ s i,
        (∀ k ∈ key i, record s k = none)
        → ∀ other,
            (alone i = .posted → key i ≠ some other)
            → record (m.step s i).2 other = record s other

namespace ReplayCache

variable {σ ι ο κ τ ρ : Type} {m : Machine σ ι ο} (c : ReplayCache m κ τ ρ)

/-- Every record a call is answered with belongs to its tenant. -/
def OwnRecords (s : σ) (calls : List ι) : Prop :=
  ∀ event ∈ m.history s calls, ∀ r ∈ c.returned event.output, c.owner r = c.tenant event.input

/-- What the calls of one tenant come to within a run. -/
def outcomesOf [DecidableEq τ] (s : σ) (calls : List ι) (t : τ) : List Outcome :=
  ((m.history s calls).filter (fun event => decide (c.tenant event.input = t))).map c.outcome

/-- The tenants of a run cannot notice each other: each gets its own records only, and what
its calls come to is what they come to without the calls of the others.
-/
structure Isolated [DecidableEq τ] (s : σ) (calls : List ι) : Prop where
  own : c.OwnRecords s calls
  unaffected
    : ∀ t,
        c.outcomesOf s calls t
        = c.outcomesOf s (calls.filter (fun i => decide (c.tenant i = t))) t

/-- No call files a record under a key that a later call of another tenant looks up. -/
def KeysApart (calls : List ι) : Prop :=
  calls.Pairwise (fun i j =>
    c.alone i = .posted → ∀ k, c.key i = some k → c.key j = some k → c.tenant i = c.tenant j)

/-- The records that the calls can find belong to their tenants. -/
def Compatible (s : σ) (calls : List ι) : Prop :=
  ∀ i ∈ calls, ∀ k ∈ c.key i, ∀ r ∈ c.record s k, c.owner r = c.tenant i

/-- A call either finds a record or none. -/
theorem hit_or_miss (s : σ) (i : ι)
    : (∃ k r, c.key i = some k ∧ c.record s k = some r)
      ∨ ∀ k ∈ c.key i, c.record s k = none := by
  cases key : c.key i with
  | none => exact Or.inr nofun
  | some k =>
      cases found : c.record s k with
      | none => exact Or.inr (fun _ same => Option.some.inj same ▸ found)
      | some r => exact Or.inl ⟨k, r, rfl, found⟩

/-- A record once filed is never replaced. -/
theorem record_kept {s : σ} {k : κ} {r : ρ} (i : ι) (found : c.record s k = some r)
    : c.record (m.step s i).2 k = some r := by
  rcases c.hit_or_miss s i with ⟨key, held, looked, hit⟩ | miss
  · rw [c.hit_record s i key held looked hit, found]
  · rw [c.miss_record s i miss k, found]
    intro _ same
    rw [miss k same] at found
    cases found

/-- A record present after a call was there before, or is the one the call filed. -/
theorem record_origin {s : σ} {k : κ} {r : ρ} {i : ι}
    (found : c.record (m.step s i).2 k = some r)
    : c.record s k = some r
      ∨ c.alone i = .posted ∧ c.key i = some k ∧ c.owner r = c.tenant i := by
  rcases c.hit_or_miss s i with ⟨key, held, looked, hit⟩ | miss
  · rw [c.hit_record s i key held looked hit] at found
    exact Or.inl found
  · by_cases filed : c.alone i = .posted ∧ c.key i = some k
    · obtain ⟨posted, key⟩ := filed
      obtain ⟨own, returned, stored⟩ := c.miss_filed s i miss posted k key
      obtain rfl := Option.some.inj (found.symm.trans stored)
      exact Or.inr ⟨posted, key, c.miss_owner s i miss r returned⟩
    · rw [c.miss_record s i miss k (fun posted key => filed ⟨posted, key⟩)] at found
      exact Or.inl found

/-- A step keeps the records compatible with the calls that are still to come. -/
theorem Compatible.step {s : σ} {i : ι} {rest : List ι}
    (compatible : c.Compatible s (i :: rest)) (apart : c.KeysApart (i :: rest))
    : c.Compatible (m.step s i).2 rest := by
  intro j member k looked r found
  rcases c.record_origin found with old | ⟨posted, key, owner⟩
  · exact compatible j (List.mem_cons_of_mem _ member) k looked r old
  · rw [owner]
    exact (List.pairwise_cons.mp apart).1 j member posted k key looked

/-- With compatible records a call is answered with its own tenant's record. -/
theorem Compatible.own {s : σ} {i : ι} {rest : List ι}
    (compatible : c.Compatible s (i :: rest)) {r : ρ}
    (returned : c.returned (m.step s i).1 = some r)
    : c.owner r = c.tenant i := by
  rcases c.hit_or_miss s i with ⟨k, held, looked, hit⟩ | miss
  · obtain rfl := Option.some.inj (returned.symm.trans (c.hit_returned s i k held looked hit))
    exact compatible i List.mem_cons_self k looked r hit
  · exact c.miss_owner s i miss r returned

/-- Keys kept apart give every call its own records, by induction over the calls. -/
theorem KeysApart.ownRecords {s : σ} {calls : List ι} (apart : c.KeysApart calls)
    (compatible : c.Compatible s calls)
    : c.OwnRecords s calls := by
  induction calls generalizing s with
  | nil => exact nofun
  | cons i rest ih =>
      intro event member r returned
      rcases List.mem_cons.mp member with rfl | later
      · exact Compatible.own c compatible returned
      · exact ih (List.pairwise_cons.mp apart).2 (Compatible.step c compatible apart)
          event later r returned

/-- If every call gets its own records, then keys are kept apart and the records were
compatible, by induction over the calls: a record met by a later call is still the one that
an earlier call got or filed.
-/
theorem OwnRecords.keysApart {s : σ} {calls : List ι} (own : c.OwnRecords s calls)
    : c.KeysApart calls ∧ c.Compatible s calls := by
  induction calls generalizing s with
  | nil => exact ⟨List.Pairwise.nil, nofun⟩
  | cons i rest ih =>
      have ownHere {r : ρ} (returned : c.returned (m.step s i).1 = some r)
          : c.owner r = c.tenant i :=
        own _ List.mem_cons_self r returned
      obtain ⟨apart, compatible⟩ :=
        ih (s := (m.step s i).2) (fun event member => own event (List.mem_cons_of_mem _ member))
      refine ⟨List.pairwise_cons.mpr ⟨fun j member posted k key looked => ?_, apart⟩, ?_⟩
      · have filed : ∃ r, c.record (m.step s i).2 k = some r ∧ c.owner r = c.tenant i := by
          rcases c.hit_or_miss s i with ⟨k', held, looked', hit⟩ | miss
          · obtain rfl := Option.some.inj (key.symm.trans looked')
            exact ⟨held, c.record_kept i hit, ownHere (c.hit_returned s i k held key hit)⟩
          · obtain ⟨r, returned, stored⟩ := c.miss_filed s i miss posted k key
            exact ⟨r, stored, ownHere returned⟩
        obtain ⟨r, stored, owner⟩ := filed
        rw [← owner]
        exact compatible j member k looked r stored
      · intro j member k looked r found
        rcases List.mem_cons.mp member with rfl | later
        · exact ownHere (c.hit_returned s j k r looked found)
        · exact compatible j later k looked r (c.record_kept i found)

/-- A run and the run of one tenant alone hold records of that tenant under the same keys. -/
def InStep (t : τ) (s alone : σ) : Prop :=
  ∀ k, (∃ r, c.record s k = some r ∧ c.owner r = t) ↔ ∃ r, c.record alone k = some r

/-- A call of the tenant comes to the same in both runs and keeps them in step. -/
theorem InStep.own {s alone : σ} {i : ι} {rest : List ι}
    (inStep : c.InStep (c.tenant i) s alone) (compatible : c.Compatible s (i :: rest))
    : c.outcome (m.event s i) = c.outcome (m.event alone i)
      ∧ c.InStep (c.tenant i) (m.step s i).2 (m.step alone i).2 := by
  rcases c.hit_or_miss s i with ⟨k, held, looked, hit⟩ | miss
  · have owner := compatible i List.mem_cons_self k looked held hit
    obtain ⟨other, hitAlone⟩ := (inStep k).mp ⟨held, hit, owner⟩
    refine ⟨?_, fun k' => ?_⟩
    · rw [c.hit_outcome s i k held looked hit, c.hit_outcome alone i k other looked hitAlone]
    · rw [c.hit_record s i k held looked hit, c.hit_record alone i k other looked hitAlone]
      exact inStep k'
  · -- A record of the run alone would be in the mixed run as well
    have missAlone : ∀ k ∈ c.key i, c.record alone k = none := by
      intro k looked
      cases found : c.record alone k with
      | none => rfl
      | some other =>
          obtain ⟨r, hit, _⟩ := (inStep k).mpr ⟨other, found⟩
          rw [miss k looked] at hit
          cases hit
    refine ⟨by rw [c.miss_outcome s i miss, c.miss_outcome alone i missAlone], fun k' => ?_⟩
    by_cases filed : c.alone i = .posted ∧ c.key i = some k'
    · obtain ⟨posted, key⟩ := filed
      obtain ⟨r, returned, stored⟩ := c.miss_filed s i miss posted k' key
      obtain ⟨other, _, storedAlone⟩ := c.miss_filed alone i missAlone posted k' key
      exact ⟨fun _ => ⟨other, storedAlone⟩,
        fun _ => ⟨r, stored, c.miss_owner s i miss r returned⟩⟩
    · have unfiled : c.alone i = .posted → c.key i ≠ some k' :=
        fun posted key => filed ⟨posted, key⟩
      rw [c.miss_record s i miss k' unfiled, c.miss_record alone i missAlone k' unfiled]
      exact inStep k'

/-- A call of another tenant files no record of the tenant, so the runs stay in step. -/
theorem InStep.other {t : τ} {s alone : σ} {i : ι} (inStep : c.InStep t s alone)
    (different : c.tenant i ≠ t)
    : c.InStep t (m.step s i).2 alone := by
  intro k
  rw [← inStep k]
  constructor
  · rintro ⟨r, found, owner⟩
    rcases c.record_origin found with old | ⟨_, _, filer⟩
    · exact ⟨r, old, owner⟩
    · exact absurd (filer.symm.trans owner) different
  · rintro ⟨r, found, owner⟩
    exact ⟨r, c.record_kept i found, owner⟩

theorem outcomesOf_own [DecidableEq τ] (s : σ) (i : ι) (rest : List ι)
    : c.outcomesOf s (i :: rest) (c.tenant i)
      = c.outcome (m.event s i) :: c.outcomesOf (m.step s i).2 rest (c.tenant i) := by
  simp [outcomesOf, Machine.history, Machine.event]

theorem outcomesOf_other [DecidableEq τ] (s : σ) {i : ι} {t : τ} (rest : List ι)
    (different : c.tenant i ≠ t)
    : c.outcomesOf s (i :: rest) t = c.outcomesOf (m.step s i).2 rest t := by
  simp [outcomesOf, Machine.history, Machine.event, different]

/-- With keys kept apart, a tenant's calls come to the same with and without the calls of
the others, by induction over the calls with both runs in step.
-/
theorem KeysApart.unaffected [DecidableEq τ] {t : τ} {s alone : σ} {calls : List ι}
    (apart : c.KeysApart calls) (compatible : c.Compatible s calls)
    (inStep : c.InStep t s alone)
    : c.outcomesOf s calls t
      = c.outcomesOf alone (calls.filter (fun i => decide (c.tenant i = t))) t := by
  induction calls generalizing s alone with
  | nil => rfl
  | cons i rest ih =>
      have later := (List.pairwise_cons.mp apart).2
      have next := Compatible.step c compatible apart
      by_cases same : c.tenant i = t
      · subst same
        obtain ⟨outcome, following⟩ := InStep.own c inStep compatible
        rw [List.filter_cons_of_pos (by simp), outcomesOf_own, outcomesOf_own, outcome,
          ih later next following]
      · rw [List.filter_cons_of_neg (by simpa using same), c.outcomesOf_other s rest same,
          ih later next (InStep.other c inStep same)]

/-- From an empty cache the tenants of a run are isolated exactly when no call files a
record under a key that a later call of another tenant looks up.
-/
theorem isolated_iff [DecidableEq τ] {s : σ} (empty : ∀ k, c.record s k = none)
    (calls : List ι)
    : c.Isolated s calls ↔ c.KeysApart calls := by
  have compatible : c.Compatible s calls := by
    intro i _ k _ r found
    rw [Option.mem_def, empty k] at found
    cases found
  constructor
  · exact fun isolated => (OwnRecords.keysApart c isolated.own).1
  · intro apart
    refine { own := KeysApart.ownRecords c apart compatible, unaffected := fun t => ?_ }
    refine KeysApart.unaffected c apart compatible (fun k => ?_)
    simp [empty]

end ReplayCache

/-- One call to a cache kept in a dictionary: after its checks it is answered with the
record found, or else it posts and its own record is returned.
-/
def replayOrPost {ε ρ σ : Type} (s : σ) (checks : Except ε Unit) (found : Option ρ)
    (post : Except ε (ρ × σ))
    : Except ε ρ × σ :=
  match checks, found with
  | .error error, _ => (.error error, s)
  | .ok _, some existing => (.ok existing, s)
  | .ok _, none =>
      match post with
      | .error error => (.error error, s)
      | .ok (posted, next) => (.ok posted, next)

/-- A service whose calls post under a key. Whether a call posts depends on the call alone;
posting files the record under the call's key and counts one posting more.
-/
structure Posting (σ ι ε κ τ ρ : Type) [DecidableEq κ] where
  checks : ι → Except ε Unit
  key : ι → Option κ
  tenant : ι → τ
  records : σ → Dict κ ρ
  owner : ρ → τ
  count : σ → Nat
  post : σ → ι → Except ε (ρ × σ)
  succeeds : ι → Bool
  post_raised : ∀ s i, succeeds i = false → ∃ error, post s i = .error error
  post_ok : ∀ s i, succeeds i = true → ∃ posted next, post s i = .ok (posted, next)
  post_owner : ∀ s i posted next, post s i = .ok (posted, next) → owner posted = tenant i
  post_records
    : ∀ s i posted next,
        post s i = .ok (posted, next)
        → records next
          = match key i with
            | none => records s
            | some k => (records s).set k posted
  post_count
    : ∀ s i posted next,
        (∀ k ∈ key i, (records s).get? k = none)
        → post s i = .ok (posted, next)
        → count next = count s + 1

namespace Posting

variable {σ ι ε κ τ ρ : Type} [DecidableEq κ] (p : Posting σ ι ε κ τ ρ)

def machine : Machine σ ι (Except ε ρ) where
  step s i := replayOrPost s (p.checks i) ((p.key i).bind (p.records s).get?) (p.post s i)

/-- The key that a call looks up, if its checks let it. -/
def lookupKey (i : ι) : Option κ :=
  match p.checks i with
  | .error _ => none
  | .ok _ => p.key i

def alone (i : ι) : Outcome :=
  match p.checks i with
  | .error _ => .raised
  | .ok _ => if p.succeeds i then .posted else .raised

/-- A call has posted when the count has changed. -/
def outcome (event : Event σ ι (Except ε ρ)) : Outcome :=
  match event.output with
  | .error _ => .raised
  | .ok _ => if p.count event.after = p.count event.before then .answered else .posted

theorem step_hit {s : σ} {i : ι} {k : κ} {r : ρ} (looked : p.lookupKey i = some k)
    (found : (p.records s).get? k = some r)
    : p.machine.step s i = (.ok r, s) := by
  unfold lookupKey at looked
  simp only [machine, replayOrPost]
  cases checked : p.checks i with
  | error => simp [checked] at looked
  | ok =>
      simp only [checked] at looked
      simp [looked, found]

/-- A call that finds no record raises and changes nothing, or posts. -/
theorem step_miss {s : σ} {i : ι} (miss : ∀ k ∈ p.lookupKey i, (p.records s).get? k = none)
    : (p.alone i = .raised ∧ ∃ error, p.machine.step s i = (.error error, s))
      ∨ p.alone i = .posted
        ∧ p.lookupKey i = p.key i
        ∧ ∃ posted next,
            p.post s i = .ok (posted, next) ∧ p.machine.step s i = (.ok posted, next) := by
  unfold lookupKey at miss ⊢
  simp only [alone, machine, replayOrPost]
  cases checked : p.checks i with
  | error error => exact Or.inl ⟨rfl, error, rfl⟩
  | ok =>
      simp only [checked] at miss
      have missing : (p.key i).bind (p.records s).get? = none := by
        cases key : p.key i with
        | none => rfl
        | some k => exact miss k key
      rw [missing]
      cases success : p.succeeds i with
      | false =>
          obtain ⟨error, raised⟩ := p.post_raised s i success
          exact Or.inl ⟨rfl, error, by rw [raised]⟩
      | true =>
          obtain ⟨posted, next, ok⟩ := p.post_ok s i success
          exact Or.inr ⟨rfl, rfl, posted, next, ok, by rw [ok]⟩

/-- Every posting service is a replay cache. -/
def cache : ReplayCache p.machine κ τ ρ where
  key := p.lookupKey
  tenant := p.tenant
  record s k := (p.records s).get? k
  owner := p.owner
  returned output := output.toOption
  outcome := p.outcome
  alone := p.alone
  hit_returned s i k r looked found := by
    rw [p.step_hit looked found]
    rfl
  hit_outcome s i k r looked found := by
    rw [p.machine.event_of_step (p.step_hit looked found)]
    simp [outcome]
  hit_record s i k r looked found other := by
    rw [p.step_hit looked found]
  miss_outcome s i miss := by
    rcases p.step_miss miss with ⟨alone, error, step⟩ | ⟨alone, key, posted, next, ok, step⟩
    · rw [p.machine.event_of_step step, alone]
      rfl
    · have grown := p.post_count s i posted next (key ▸ miss) ok
      rw [p.machine.event_of_step step, alone]
      simp [outcome, grown]
  miss_owner s i miss r returned := by
    rcases p.step_miss miss with ⟨_, error, step⟩ | ⟨_, _, posted, next, ok, step⟩
    · rw [step] at returned
      cases returned
    · rw [step] at returned
      obtain rfl := Option.some.inj returned
      exact p.post_owner s i posted next ok
  miss_filed s i miss alone k looked := by
    rcases p.step_miss miss with ⟨raised, _⟩ | ⟨_, key, posted, next, ok, step⟩
    · rw [raised] at alone
      cases alone
    · have filed := p.post_records s i posted next ok
      rw [← key, looked] at filed
      refine ⟨posted, by rw [step]; rfl, ?_⟩
      rw [step, filed]
      exact Dict.get?_set_self _ _ _
  miss_record s i miss other unfiled := by
    rcases p.step_miss miss with ⟨_, error, step⟩ | ⟨alone, key, posted, next, ok, step⟩
    · rw [step]
    · have filed := p.post_records s i posted next ok
      rw [step, filed]
      cases own : p.key i with
      | none => rfl
      | some k =>
          refine Dict.get?_set_ne _ _ ?_
          rintro rfl
          exact unfiled alone (key.trans own)

end Posting

end Foundation
