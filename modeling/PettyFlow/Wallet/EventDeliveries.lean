import PettyFlow.Foundation.Pool
import PettyFlow.Wallet.ProviderEvents

/-! Deliveries of one provider event that are taken in at the same time. A delivery claims the
event before it validates its transition, and the others are answered by the claim.
-/

namespace PettyFlow.Wallet

open Foundation Idempotency

/-- An event of a provider, as every delivery of it carries it. Its payload can be written, so
that it has a fingerprint; any other raises before the store is asked.
-/
structure Callback where
  tenantId : String
  provider : String
  eventId : String
  payload : Json
  printable : payload.printable = true

def Callback.eventKey (callback : Callback) : EventKey :=
  (callback.tenantId, callback.provider, callback.eventId)

/-- How far a delivery has come. Each has its own view of the settlement's state. -/
inductive DeliveryPhase where
  | waiting (current : SettlementState)
  | claimed (current : SettlementState)
  | refused (error : SettlementTransitionError)
  | finished (answer : Except ManagerError Bool)

/-- One atomic step of one delivery. -/
def deliveryAct (digests : Digests) (callback : Callback) (s : SQLiteIdempotencyStore)
    : DeliveryPhase → Int
      → Option (Except ManagerError Bool) × SQLiteIdempotencyStore × DeliveryPhase
  | .waiting current, now =>
      match s.claimProviderEvent now callback.tenantId callback.provider callback.eventId
          (payloadDigest digests callback.payload) with
      | (.error error, s) => (some (.error (.store error)), s, .finished (.error (.store error)))
      | (.ok false, s) => (some (.ok false), s, .finished (.ok false))
      | (.ok true, s) => (none, s, .claimed current)
  | .claimed current, _ =>
      match requestedState callback.payload with
      | .error error => (some (.error error), s, .finished (.error error))
      | .ok requested =>
          match validateSettlementTransition current requested with
          | .error error => (none, s, .refused error)
          | .ok _ => (some (.ok true), s, .finished (.ok true))
  | .refused error, _ =>
      (some (.error (.settlementTransition error)),
        s.abandonProviderEvent callback.tenantId callback.provider callback.eventId,
        .finished (.error (.settlementTransition error)))
  | .finished answer, _ => (none, s, .finished answer)

/-- The steps of one delivery, taken without a pause, are the manager's method. -/
theorem ingestProviderEvent_steps (digests : Digests) (hmac : Bytes → Bytes → Bytes)
    (s : DisbursementManager) (now : Int) (audit : Draw) (callback : Callback)
    {payload : ProviderPayload} (written : payloadJson payload = .ok callback.payload)
    (current : SettlementState)
    : let call :=
        s.ingestProviderEvent digests hmac now audit callback.tenantId callback.provider
          callback.eventId payload current
      let first := deliveryAct digests callback s.backends.store (.waiting current) now
      let second := deliveryAct digests callback first.2.1 first.2.2 now
      let third := deliveryAct digests callback second.2.1 second.2.2 now
      third.2 = (call.2.backends.store, .finished call.1) := by
  unfold DisbursementManager.ingestProviderEvent
  rw [written]
  dsimp only
  cases claim : s.backends.store.claimProviderEvent now callback.tenantId callback.provider
      callback.eventId (payloadDigest digests callback.payload) with
  | mk answer store =>
  cases answer with
  | error error => simp [deliveryAct, claim, DisbursementManager.withStore]
  | ok isNew =>
  cases isNew with
  | false => simp [deliveryAct, claim, DisbursementManager.withStore, DisbursementManager.log]
  | true =>
      cases status : requestedState callback.payload with
      | error error => simp [deliveryAct, claim, status, DisbursementManager.withStore]
      | ok requested =>
          cases transition : validateSettlementTransition current requested <;>
            simp [deliveryAct, claim, status, transition, DisbursementManager.withStore,
              DisbursementManager.log]

/-- The deliveries of a type, any number of them. -/
abbrev Deliveries (W : Type) := Pool W SQLiteIdempotencyStore DeliveryPhase

def deliveriesMachine (digests : Digests) (callback : Callback) (W : Type) [DecidableEq W]
    : Machine (Deliveries W) (W × Int) (Option (Except ManagerError Bool)) :=
  Pool.machine (deliveryAct digests callback)

/-- Nobody has claimed the event yet, and each delivery has its view of the settlement. -/
def Deliveries.opened {W : Type} (s : SQLiteIdempotencyStore) (view : W → SettlementState)
    : Deliveries W :=
  ⟨s, fun delivery => .waiting (view delivery)⟩

/-- The delivery has claimed the event and does not give the claim back, or not yet. -/
def DeliveryPhase.claim? : DeliveryPhase → Option Unit
  | claimed _ | refused _ | finished (.ok true) => some ()
  | waiting _ | finished _ => none

/-- The event may take the settlement from the current state to the one that it reports. -/
def Callback.Legal (callback : Callback) (current : SettlementState) : Prop :=
  ∃ requested, requestedState callback.payload = .ok requested ∧ requested ∈ current.transitions

namespace Deliveries

variable {W : Type}

/-- At most one delivery is answered that the event was accepted. -/
def AcceptedOnce (s : Deliveries W) : Prop :=
  ∀ left right,
    s.phase left = .finished (.ok true) → s.phase right = .finished (.ok true) → left = right

/-- A delivery that is answered as a replay is the replay of one that was accepted. -/
def ReplaysAccepted (s : Deliveries W) : Prop :=
  (∃ delivery, s.phase delivery = .finished (.ok false))
  → ∃ delivery, s.phase delivery = .finished (.ok true)

/-- Every delivery that has begun is over. -/
def Settled (s : Deliveries W) : Prop :=
  ∀ delivery,
    (∃ current, s.phase delivery = .waiting current)
    ∨ ∃ answer, s.phase delivery = .finished answer

/-- A delivery claims the event only when no other one holds a claim that it will give back. -/
def ClaimsStay (callback : Callback) (s : Deliveries W) (input : W × Int) : Prop :=
  (∃ current, s.phase input.1 = .waiting current)
  → ∀ other,
      (∀ current, s.phase other = .claimed current → callback.Legal current)
      ∧ ∀ error, s.phase other ≠ .refused error

/-- A delivery claims the event only when no other one holds a claim and has yet to decide. -/
def ClaimsDecided (s : Deliveries W) (input : W × Int) : Prop :=
  (∃ current, s.phase input.1 = .waiting current)
  → ∀ other,
      (∀ current, s.phase other ≠ .claimed current)
      ∧ ∀ error, s.phase other ≠ .refused error

theorem ClaimsDecided.stay {callback : Callback} {s : Deliveries W} {input : W × Int}
    (decided : ClaimsDecided s input)
    : ClaimsStay callback s input :=
  fun waiting other =>
    ⟨fun current claimed => absurd claimed ((decided waiting other).1 current),
      (decided waiting other).2⟩

/-- The event is claimed in the store exactly while some delivery holds the claim, and only one
does.
-/
structure Claims (digests : Digests) (callback : Callback) (s : Deliveries W) : Prop where
  exclusive : Pool.Exclusive DeliveryPhase.claim? s.phase
  held
    : ∀ event,
        s.shared.providerEvents.get? callback.eventKey = some event
        → event.payloadFingerprint = payloadDigest digests callback.payload
          ∧ ∃ holder, (s.phase holder).claim? = some ()
  free
    : s.shared.providerEvents.get? callback.eventKey = none
      → ∀ delivery, (s.phase delivery).claim? = none

section Steps

variable {digests : Digests} {callback : Callback} [DecidableEq W] {s : Deliveries W}

/-- What a step does when the event reports a state: a waiting delivery claims the event, or is
answered as the replay of the delivery that holds it; a claimed one is accepted or refused by its
own view; a refused one gives the claim back; and a finished one rests.
-/
theorem step_cases (claims : Claims digests callback s) {requested : SettlementState}
    (status : requestedState callback.payload = .ok requested) (delivery : W) (now : Int)
    : let after := ((deliveriesMachine digests callback W).step s (delivery, now)).2
      (∃ current,
        s.phase delivery = .waiting current
        ∧ (∀ other, (s.phase other).claim? = none)
        ∧ after.phase = Function.update s.phase delivery (.claimed current)
        ∧ after.shared.providerEvents.get? callback.eventKey
          = some ⟨payloadDigest digests callback.payload, now⟩)
      ∨ (∃ current holder,
        s.phase delivery = .waiting current
        ∧ (s.phase holder).claim? = some ()
        ∧ after = ⟨s.shared, Function.update s.phase delivery (.finished (.ok false))⟩)
      ∨ (∃ current,
        s.phase delivery = .claimed current
        ∧ requested ∈ current.transitions
        ∧ after = ⟨s.shared, Function.update s.phase delivery (.finished (.ok true))⟩)
      ∨ (∃ current error,
        s.phase delivery = .claimed current
        ∧ requested ∉ current.transitions
        ∧ after = ⟨s.shared, Function.update s.phase delivery (.refused error)⟩)
      ∨ (∃ error,
        s.phase delivery = .refused error
        ∧ after.phase
          = Function.update s.phase delivery (.finished (.error (.settlementTransition error)))
        ∧ after.shared.providerEvents.get? callback.eventKey = none)
      ∨ ((∃ answer, s.phase delivery = .finished answer) ∧ after = s) := by
  simp only [deliveriesMachine, Pool.machine]
  cases phase : s.phase delivery with
  | waiting current =>
      cases lookup : s.shared.providerEvents.get? callback.eventKey with
      | none =>
          refine Or.inl ⟨current, rfl, claims.free lookup, ?_⟩
          unfold Callback.eventKey at lookup
          simp only [deliveryAct, SQLiteIdempotencyStore.claimProviderEvent, lookup]
          exact ⟨trivial, Dict.get?_set_self _ _ _⟩
      | some event =>
          -- The claim that is on file is that of a delivery which still holds it
          obtain ⟨same, holder, holds⟩ := claims.held event lookup
          refine Or.inr (Or.inl ⟨current, holder, rfl, holds, ?_⟩)
          unfold Callback.eventKey at lookup
          simp [deliveryAct, SQLiteIdempotencyStore.claimProviderEvent, lookup, same]
  | claimed current =>
      by_cases legal : requested ∈ current.transitions
      · refine Or.inr (Or.inr (Or.inl ⟨current, rfl, legal, ?_⟩))
        simp [deliveryAct, status, validateSettlementTransition, legal]
      · obtain ⟨error, illegal⟩
            : ∃ error, validateSettlementTransition current requested = .error error :=
          ⟨_, if_neg legal⟩
        refine Or.inr (Or.inr (Or.inr (Or.inl ⟨current, error, rfl, legal, ?_⟩)))
        simp only [deliveryAct, status, illegal]
  | refused error =>
      refine Or.inr (Or.inr (Or.inr (Or.inr (Or.inl ⟨error, rfl, rfl, ?_⟩))))
      exact (Dict.get?_erase _ _ _).trans (if_pos rfl)
  | finished answer =>
      refine Or.inr (Or.inr (Or.inr (Or.inr (Or.inr ⟨⟨answer, rfl⟩, ?_⟩))))
      simp only [deliveryAct, ← phase, Function.update_eq_self]

omit [DecidableEq W] in
theorem Claims.opened {store : SQLiteIdempotencyStore}
    (unclaimed : store.providerEvents.get? callback.eventKey = none)
    (view : W → SettlementState)
    : Claims digests callback (.opened store view) where
  exclusive := nofun
  held _ found := nomatch unclaimed.symm.trans found
  free _ _ := rfl

/-- Every step keeps the claims in order. -/
theorem Claims.step (claims : Claims digests callback s) {requested : SettlementState}
    (status : requestedState callback.payload = .ok requested) (input : W × Int)
    : Claims digests callback ((deliveriesMachine digests callback W).step s input).2 := by
  obtain ⟨delivery, now⟩ := input
  have cases := step_cases claims status delivery now
  generalize ((deliveriesMachine digests callback W).step s (delivery, now)).2 = after at cases ⊢
  obtain ⟨shared, phase⟩ := after
  -- A step that neither takes nor gives back the claim changes nothing about it
  have sameClaim {next : DeliveryPhase} (same : next.claim? = (s.phase delivery).claim?) (other : W)
      : (Function.update s.phase delivery next other).claim? = (s.phase other).claim? := by
    by_cases own : other = delivery
    · rw [own, Function.update_self, same]
    · rw [Function.update_of_ne own]
  have kept {next : DeliveryPhase} (same : next.claim? = (s.phase delivery).claim?)
      : Claims digests callback ⟨s.shared, Function.update s.phase delivery next⟩ := by
    refine ⟨?_, fun event found => ?_, fun free other => ?_⟩
    · exact claims.exclusive.update (fun held holds => Or.inl (same.symm.trans holds))
    · obtain ⟨ours, holder, holds⟩ := claims.held event found
      exact ⟨ours, holder, (sameClaim same holder).trans holds⟩
    · exact (sameClaim same other).trans (claims.free free other)
  rcases cases with ⟨current, waiting, nobody, rfl, written⟩
    | ⟨current, holder, waiting, _, rfl, rfl⟩ | ⟨current, claimed, _, rfl, rfl⟩
    | ⟨current, error, claimed, _, rfl, rfl⟩
    | ⟨error, refused, rfl, erased⟩ | ⟨_, rfl⟩
  · refine ⟨?_, fun event found => ?_, fun free => ?_⟩
    · exact claims.exclusive.update (fun _ _ => Or.inr (fun other => by simp [nobody other]))
    · obtain rfl := Option.some.inj (written.symm.trans found)
      exact ⟨rfl, delivery, by simp [DeliveryPhase.claim?]⟩
    · cases written.symm.trans free
  · exact kept (by rw [waiting]; rfl)
  · exact kept (by rw [claimed]; rfl)
  · exact kept (by rw [claimed]; rfl)
  · -- The claim that is given back was the only one
    have others (other : W) (different : other ≠ delivery) : (s.phase other).claim? = none := by
      cases holds : (s.phase other).claim? with
      | none => rfl
      | some held =>
          exact absurd (claims.exclusive other delivery held holds (by rw [refused]; rfl)) different
    refine ⟨?_, fun event found => ?_, fun _ other => ?_⟩
    · exact claims.exclusive.update (fun _ holds => nomatch holds)
    · cases erased.symm.trans found
    · dsimp only
      by_cases own : other = delivery
      · rw [own, Function.update_self]
        rfl
      · rw [Function.update_of_ne own]
        exact others other own
  · exact claims

/-- A step keeps a delivery where it was, unless it is the delivery's own. -/
theorem step_phase_ne (input : W × Int) {other : W} (different : other ≠ input.1)
    : ((deliveriesMachine digests callback W).step s input).2.phase other = s.phase other :=
  Function.update_of_ne different _ _

/-- A finished delivery stays finished. -/
theorem step_finished (input : W × Int) {delivery : W} {answer : Except ManagerError Bool}
    (finished : s.phase delivery = .finished answer)
    : ((deliveriesMachine digests callback W).step s input).2.phase delivery
      = .finished answer := by
  by_cases own : delivery = input.1
  · subst own
    simp [deliveriesMachine, Pool.machine, finished, deliveryAct]
  · rw [step_phase_ne input own, finished]

/-- Some delivery was accepted, or holds the claim and will be accepted. -/
def WillAccept (callback : Callback) (s : Deliveries W) : Prop :=
  ∃ delivery,
    s.phase delivery = .finished (.ok true)
    ∨ ∃ current, s.phase delivery = .claimed current ∧ callback.Legal current

/-- A delivery that is accepted, or will be, stays so. -/
theorem WillAccept.step (accepts : WillAccept callback s) (input : W × Int)
    : WillAccept callback ((deliveriesMachine digests callback W).step s input).2 := by
  obtain ⟨delivery, accepted | ⟨current, claimed, legal⟩⟩ := accepts
  · exact ⟨delivery, Or.inl (step_finished input accepted)⟩
  · by_cases own : delivery = input.1
    · subst own
      obtain ⟨requested, status, allowed⟩ := legal
      refine ⟨input.1, Or.inl ?_⟩
      simp [deliveriesMachine, Pool.machine, claimed, deliveryAct, status,
        validateSettlementTransition, allowed]
    · refine ⟨delivery, Or.inr ⟨current, ?_, legal⟩⟩
      rw [step_phase_ne input own, claimed]

/-- A step that answers a replay finds the holder of the claim: one that has been accepted, or
one that has yet to decide.
-/
theorem replay_step (claims : Claims digests callback s) {requested : SettlementState}
    (status : requestedState callback.payload = .ok requested) {input : W × Int} {delivery : W}
    (replayed
      : ((deliveriesMachine digests callback W).step s input).2.phase delivery
        = .finished (.ok false))
    : s.phase delivery = .finished (.ok false)
      ∨ (delivery = input.1
        ∧ (∃ current, s.phase delivery = .waiting current)
        ∧ ∃ holder, (s.phase holder).claim? = some ()) := by
  by_cases own : delivery = input.1
  · subst own
    rcases step_cases claims status input.1 input.2 with ⟨current, _, _, after, _⟩
      | ⟨current, holder, waiting, holds, after⟩ | ⟨current, _, _, after⟩
      | ⟨current, error, _, _, after⟩ | ⟨error, _, after, _⟩ | ⟨_, after⟩
    · rw [after, Function.update_self] at replayed
      cases replayed
    · exact Or.inr ⟨rfl, ⟨current, waiting⟩, holder, holds⟩
    · rw [after] at replayed
      cases (Function.update_self _ _ _).symm.trans replayed
    · rw [after] at replayed
      cases (Function.update_self _ _ _).symm.trans replayed
    · rw [after, Function.update_self] at replayed
      cases replayed
    · rw [after] at replayed
      exact Or.inl replayed
  · rw [step_phase_ne input own] at replayed
    exact Or.inl replayed

/-- While no claim is given back under a replay, a replayed event is or will be accepted. -/
theorem willAccept_step (claims : Claims digests callback s) {requested : SettlementState}
    (status : requestedState callback.payload = .ok requested) {input : W × Int}
    (stay : ClaimsStay callback s input)
    (accepts : (∃ delivery, s.phase delivery = .finished (.ok false)) → WillAccept callback s)
    (replayed
      : ∃ delivery,
          ((deliveriesMachine digests callback W).step s input).2.phase delivery
          = .finished (.ok false))
    : WillAccept callback ((deliveriesMachine digests callback W).step s input).2 := by
  obtain ⟨delivery, replayed⟩ := replayed
  rcases replay_step claims status replayed with before | ⟨rfl, waiting, holder, holds⟩
  · exact (accepts ⟨delivery, before⟩).step input
  · obtain ⟨legal, notRefused⟩ := stay waiting holder
    suffices accepts : WillAccept callback s from accepts.step input
    refine ⟨holder, ?_⟩
    cases phase : s.phase holder with
    | waiting current => rw [phase] at holds; cases holds
    | claimed current => exact Or.inr ⟨current, rfl, legal current phase⟩
    | refused error => exact absurd phase (notRefused error)
    | finished answer =>
        rw [phase] at holds
        match answer with
        | .ok true => exact Or.inl rfl
        | .ok false | .error _ => cases holds

/-- While every claim is decided before the next one, a replayed event has been accepted. -/
theorem replaysAccepted_step (claims : Claims digests callback s) {requested : SettlementState}
    (status : requestedState callback.payload = .ok requested) {input : W × Int}
    (decided : ClaimsDecided s input) (accepted : s.ReplaysAccepted)
    : ((deliveriesMachine digests callback W).step s input).2.ReplaysAccepted := by
  rintro ⟨delivery, replayed⟩
  rcases replay_step claims status replayed with before | ⟨rfl, waiting, holder, holds⟩
  · obtain ⟨other, finished⟩ := accepted ⟨delivery, before⟩
    exact ⟨other, step_finished input finished⟩
  · obtain ⟨notClaimed, notRefused⟩ := decided waiting holder
    refine ⟨holder, step_finished input ?_⟩
    cases phase : s.phase holder with
    | waiting current => rw [phase] at holds; cases holds
    | claimed current => exact absurd phase (notClaimed current)
    | refused error => exact absurd phase (notRefused error)
    | finished answer =>
        rw [phase] at holds
        match answer with
        | .ok true => rfl
        | .ok false | .error _ => cases holds

/-- A claim that meets an undecided one is answered as a replay, and nobody was accepted. -/
theorem claimsDecided_of_replaysAccepted (claims : Claims digests callback s)
    {requested : SettlementState} (status : requestedState callback.payload = .ok requested)
    {input : W × Int}
    (accepted : ((deliveriesMachine digests callback W).step s input).2.ReplaysAccepted)
    : ClaimsDecided s input := by
  rintro ⟨current, waiting⟩ other
  suffices undecided
      : (s.phase other).claim? = some () → s.phase other = .finished (.ok true) by
    refine ⟨fun view claimed => ?_, fun error refused => ?_⟩
    · cases claimed.symm.trans (undecided (by rw [claimed]; rfl))
    · cases refused.symm.trans (undecided (by rw [refused]; rfl))
  intro holds
  rcases step_cases claims status input.1 input.2 with ⟨_, _, nobody, _⟩ | ⟨_, _, _, _, after⟩
    | ⟨_, claimed, _⟩ | ⟨_, _, claimed, _⟩ | ⟨_, refused, _⟩ | ⟨⟨_, finished⟩, _⟩
  · cases (nobody other).symm.trans holds
  · -- The accepted delivery holds the claim, and only one delivery does
    rw [after] at accepted
    obtain ⟨delivery, finished⟩ := accepted ⟨input.1, Function.update_self _ _ _⟩
    dsimp only at finished
    by_cases own : delivery = input.1
    · rw [own, Function.update_self] at finished
      cases finished
    · rw [Function.update_of_ne own] at finished
      rw [claims.exclusive other delivery () holds (by rw [finished]; rfl)]
      exact finished
  · cases waiting.symm.trans claimed
  · cases waiting.symm.trans claimed
  · cases waiting.symm.trans refused
  · cases waiting.symm.trans finished

end Steps

end Deliveries

open Deliveries in
/-- However the deliveries of one event interleave: at most one is accepted; while no delivery
claims the event under a claim that is given back, a replayed event has been accepted when all
deliveries are over; and it has been accepted whenever a replay is answered exactly while no
delivery claims the event under an undecided claim.
-/
theorem deliveries_answered {W : Type} [DecidableEq W] (digests : Digests) (callback : Callback)
    (store : SQLiteIdempotencyStore) (view : W → SettlementState) (inputs : List (W × Int))
    (unclaimed : store.providerEvents.get? callback.eventKey = none)
    (status : ∃ requested, requestedState callback.payload = .ok requested)
    : let m := deliveriesMachine digests callback W
      let s := Deliveries.opened store view
      (m.exec s inputs).AcceptedOnce
      ∧ (m.Admits (ClaimsStay callback) s inputs
        → (m.exec s inputs).Settled
        → (m.exec s inputs).ReplaysAccepted)
      ∧ ((∀ done, done <+: inputs → (m.exec s done).ReplaysAccepted)
        ↔ m.Admits ClaimsDecided s inputs) := by
  obtain ⟨requested, status⟩ := status
  intro m s
  have opened : Claims digests callback s := Claims.opened unclaimed view
  have anyStep : m.Admits (fun _ _ => True) s inputs :=
    (m.admits_iff_history _ _).mpr (fun _ _ => trivial)
  have claims : Claims digests callback (m.exec s inputs) :=
    m.exec_invariant (fun _ input claims _ => claims.step status input) opened anyStep
  have nobody : ¬ ∃ delivery, s.phase delivery = .finished (.ok false) := nofun
  refine ⟨?_, ?_, ?_⟩
  · intro left right leftAccepted rightAccepted
    exact claims.exclusive left right () (by rw [leftAccepted]; rfl) (by rw [rightAccepted]; rfl)
  · intro stay settled replayed
    have kept :=
      m.exec_invariant
        (motive := fun s =>
          Claims digests callback s
          ∧ ((∃ delivery, s.phase delivery = .finished (.ok false)) → WillAccept callback s))
        (fun _ input kept stay =>
          ⟨kept.1.step status input, willAccept_step kept.1 status stay kept.2⟩)
        ⟨opened, fun replayed => absurd replayed nobody⟩ stay
    obtain ⟨delivery, accepted | ⟨current, claimed, _⟩⟩ := kept.2 replayed
    · exact ⟨delivery, accepted⟩
    -- When all deliveries are over nobody is left with a claim to decide
    · rcases settled delivery with ⟨_, waiting⟩ | ⟨_, finished⟩
      · cases claimed.symm.trans waiting
      · cases claimed.symm.trans finished
  · apply m.throughout_iff (fun _ s => s.ReplaysAccepted)
      (fun _ s => Claims digests callback s ∧ s.ReplaysAccepted)
    · exact fun _ _ kept => kept.2
    · exact fun _ _ input kept decided =>
        ⟨kept.1.step status input, replaysAccepted_step kept.1 status decided kept.2⟩
    · exact fun _ _ _ kept accepted => claimsDecided_of_replaysAccepted kept.1 status accepted
    · exact ⟨opened, fun replayed => absurd replayed nobody⟩

section Sample

/-- The SHA-256 of the text of a report that a settlement is being processed. -/
def callbackDigests : Digests :=
  ⟨fun _ => 0x919925d805fdcd6e423aab938601261e61b3abc4ea4a1e5dda59cc7b226d161d, fun _ => 0⟩

def sampleCallback : Callback :=
  ⟨"TENANT-ORG", "bank", "evt-1", .obj [("status", .str "processing")], rfl⟩

/-- One delivery sees the settlement completed, and the other one pending. -/
def sampleView : Bool → SettlementState
  | false => .completed
  | true => .pending

/-- The first delivery claims the event, the second one is answered, the first one fails. -/
def crossedDeliveries : List (Bool × Int) := [(false, 100), (true, 100), (false, 100), (false, 100)]

/-- The second delivery is accepted, and then the first one is answered as its replay. -/
def orderlyDeliveries : List (Bool × Int) := [(true, 100), (true, 100), (false, 101)]

theorem orderlyDeliveries_decided
    : (deliveriesMachine callbackDigests sampleCallback Bool).Admits Deliveries.ClaimsDecided
        (.opened DisbursementManager.sampleManager.backends.store sampleView)
        orderlyDeliveries := by
  refine ⟨fun _ other => ⟨nofun, nofun⟩, ?_, ?_, trivial⟩
  · rintro ⟨current, waiting⟩
    cases waiting
  · intro _ other
    cases other <;> exact ⟨nofun, nofun⟩

theorem deliveries_answered_sample
    : let m := deliveriesMachine callbackDigests sampleCallback Bool
      let s := Deliveries.opened DisbursementManager.sampleManager.backends.store sampleView
      (m.exec s orderlyDeliveries).AcceptedOnce
      ∧ (m.exec s orderlyDeliveries).Settled
      ∧ (m.exec s orderlyDeliveries).ReplaysAccepted
      ∧ ∀ done, done <+: orderlyDeliveries → (m.exec s done).ReplaysAccepted := by
  intro m s
  obtain ⟨once, answered, throughout⟩ :=
    deliveries_answered callbackDigests sampleCallback
      DisbursementManager.sampleManager.backends.store sampleView orderlyDeliveries rfl
      ⟨.processing, rfl⟩
  have decided := orderlyDeliveries_decided
  have stay : m.Admits (Deliveries.ClaimsStay sampleCallback) s orderlyDeliveries :=
    (m.admits_iff_history _ _).mpr
      (fun event member => ((m.admits_iff_history _ _).mp decided event member).stay)
  have settled : (m.exec s orderlyDeliveries).Settled := by
    intro delivery
    cases delivery with
    | false => exact Or.inr ⟨.ok false, rfl⟩
    | true => exact Or.inr ⟨.ok true, rfl⟩
  exact ⟨once, settled, answered stay settled, throughout.mpr decided⟩

/-- Both deliveries are over, one is answered as a replay, and none was accepted. -/
theorem crossed_deliveries_lose_event
    : let s :=
        (deliveriesMachine callbackDigests sampleCallback Bool).exec
          (.opened DisbursementManager.sampleManager.backends.store sampleView) crossedDeliveries
      s.Settled ∧ ¬ s.ReplaysAccepted := by
  intro s
  have first
      : s.phase false
        = .finished (.error (.settlementTransition
            ⟨"illegal settlement transition: completed -> processing"⟩)) :=
    rfl
  have second : s.phase true = .finished (.ok false) := rfl
  refine ⟨fun delivery => Or.inr ?_, fun accepted => ?_⟩
  · cases delivery with
    | false => exact ⟨_, first⟩
    | true => exact ⟨_, second⟩
  · obtain ⟨delivery, finished⟩ := accepted ⟨true, second⟩
    cases delivery with
    | false => cases first.symm.trans finished
    | true => cases second.symm.trans finished

end Sample

end PettyFlow.Wallet
