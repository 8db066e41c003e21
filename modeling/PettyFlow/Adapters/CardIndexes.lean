import PettyFlow.Adapters.CardIssuer

/-! The two tables of the card issuer hold the same cards on a run exactly as long as no
card is cancelled.
-/

namespace PettyFlow.Adapters

open Foundation

abbrev CardEvent := Event CardIssuerAdapter CardCall CardAnswer

/-- Every card is filed once by tenant and key and once by identifier, and both tables say
the same of it.
-/
structure IndexesAgree (s : CardIssuerAdapter) : Prop where
  issued
    : ∀ key card,
        s.issuedCards.get? key = some card
        → key = .scoped card.tenantId card.idempotencyKey
          ∧ s.cardsById.get? card.cardId = some card
  byId
    : ∀ cardId card,
        s.cardsById.get? cardId = some card
        → card.cardId = cardId
          ∧ s.issuedCards.get? (.scoped card.tenantId card.idempotencyKey) = some card

/-- What a step of the issuer promises: the tables agree after it; a card it returns is the
one found by its identifier; and a key under which a card is stored, cancelled or not, is
answered with that card.
-/
structure Coherent (event : CardEvent) : Prop where
  agree : IndexesAgree event.after
  shown
    : ∀ card,
        event.output = .card card → event.after.getCard card.cardId none = some card
  replayed
    : ∀ draw request cardId card,
        event.input = .createVirtualCard draw request
        → event.before.cardsById.get? cardId = some card
        → card.tenantId = request.tenantId
        → card.idempotencyKey = request.idempotencyKey
        → event.output = .card card

/-- A card that is issued gets an identifier that no stored card has. -/
def FreshCard (s : CardIssuerAdapter) : CardCall → Prop
  | .createVirtualCard draw request =>
      s.issuedCards.get? (.scoped request.tenantId request.idempotencyKey) = none
      → s.cardsById.get? (cardId draw.uuid) = none
  | .cancelCard .. => True

instance (s : CardIssuerAdapter) : (call : CardCall) → Decidable (FreshCard s call)
  | .createVirtualCard _ _ => inferInstanceAs (Decidable (_ → _))
  | .cancelCard _ _ => isTrue trivial

/-- The step is not a cancellation that finds its card. -/
def FindsNoCard (s : CardIssuerAdapter) : CardCall → Prop
  | .createVirtualCard .. => True
  | .cancelCard cardId tenantId => s.getCard cardId tenantId = none

theorem getCard_none (s : CardIssuerAdapter) (cardId : String)
    : s.getCard cardId none = s.cardsById.get? cardId := by
  unfold CardIssuerAdapter.getCard
  cases s.cardsById.get? cardId <;> simp

theorem CardIssuerAdapter.cancelCard_none {s : CardIssuerAdapter} {cardId : String}
    {tenantId : Option String} (missing : s.getCard cardId tenantId = none)
    : s.cancelCard cardId tenantId = (false, s) := by
  unfold CardIssuerAdapter.getCard at missing
  unfold CardIssuerAdapter.cancelCard
  cases found : s.cardsById.get? cardId with
  | none => rfl
  | some card =>
      simp only [found] at missing ⊢
      split at missing
      · rename_i foreign
        rw [if_pos foreign]
      · cases missing

/-- A cancellation that finds its card files it under the bare key. -/
theorem CardIssuerAdapter.cancelCard_some {s : CardIssuerAdapter} {cardId : String}
    {tenantId : Option String} {card : VirtualCardResult}
    (found : s.getCard cardId tenantId = some card)
    : (s.cancelCard cardId tenantId).2.issuedCards.get? (.bare card.idempotencyKey)
      = some { card with cardStatus := .cancelled } := by
  unfold CardIssuerAdapter.getCard at found
  unfold CardIssuerAdapter.cancelCard
  cases stored : s.cardsById.get? cardId with
  | none => simp [stored] at found
  | some held =>
      simp only [stored] at found ⊢
      split at found
      · cases found
      · rename_i own
        obtain rfl := Option.some.inj found
        rw [if_neg own]
        exact Dict.get?_set_self _ _ _

/-- Filing a new card in both tables keeps them in agreement, because neither its key nor
its identifier was in use.
-/
theorem IndexesAgree.add {s : CardIssuerAdapter} (agree : IndexesAgree s)
    {card : VirtualCardResult}
    (newKey : s.issuedCards.get? (.scoped card.tenantId card.idempotencyKey) = none)
    (newId : s.cardsById.get? card.cardId = none)
    : IndexesAgree
        {
          s with
          issuedCards := s.issuedCards.set (.scoped card.tenantId card.idempotencyKey) card
          cardsById := s.cardsById.set card.cardId card
        } where
  issued := by
    intro key other stored
    rw [Dict.get?_set] at stored
    split at stored
    · rename_i here
      obtain rfl := Option.some.inj stored
      exact ⟨here.symm, Dict.get?_set_self _ _ _⟩
    · -- An older card keeps its identifier, which is not the new one
      obtain ⟨own, filed⟩ := agree.issued key other stored
      refine ⟨own, ?_⟩
      rw [Dict.get?_set_ne _ _ ?_]
      · exact filed
      · intro same
        rw [same, filed] at newId
        cases newId
  byId := by
    intro cardId other stored
    rw [Dict.get?_set] at stored
    split at stored
    · rename_i here
      obtain rfl := Option.some.inj stored
      exact ⟨here, Dict.get?_set_self _ _ _⟩
    · -- An older card keeps its key, which was taken before the new one was filed
      obtain ⟨same, filed⟩ := agree.byId cardId other stored
      refine ⟨same, ?_⟩
      rw [Dict.get?_set_ne _ _ ?_]
      · exact filed
      · intro same
        rw [same, filed] at newKey
        cases newKey

theorem CardIssuerAdapter.createVirtualCard_replay (digests : Digests)
    {s : CardIssuerAdapter} (draw : Draw) {request : VirtualCardRequest}
    {existing : VirtualCardResult}
    (stored
      : s.issuedCards.get? (.scoped request.tenantId request.idempotencyKey) = some existing)
    : s.createVirtualCard digests draw request = (existing, s) := by
  unfold CardIssuerAdapter.createVirtualCard
  rw [stored]

theorem CardIssuerAdapter.createVirtualCard_issue (digests : Digests)
    {s : CardIssuerAdapter} (draw : Draw) {request : VirtualCardRequest}
    (missing : s.issuedCards.get? (.scoped request.tenantId request.idempotencyKey) = none)
    : s.createVirtualCard digests draw request
      = (issue digests s.backend draw request,
        {
          s with
          issuedCards :=
            s.issuedCards.set (.scoped request.tenantId request.idempotencyKey)
              (issue digests s.backend draw request)
          cardsById :=
            s.cardsById.set (cardId draw.uuid) (issue digests s.backend draw request)
        }) := by
  unfold CardIssuerAdapter.createVirtualCard
  rw [missing]
  rfl

/-- A creation keeps the promise: a stored key is answered from both tables, and a new card
is filed in both.
-/
theorem Coherent.ofCreate (digests : Digests) {s : CardIssuerAdapter} {draw : Draw}
    {request : VirtualCardRequest} (agree : IndexesAgree s)
    (fresh : FreshCard s (.createVirtualCard draw request))
    : Coherent ((cardMachine digests).event s (.createVirtualCard draw request)) := by
  cases stored : s.issuedCards.get? (.scoped request.tenantId request.idempotencyKey) with
  | some existing =>
      -- The key has a card, so the step is a replay and changes nothing
      have step
          : (cardMachine digests).step s (.createVirtualCard draw request)
            = (.card existing, s) :=
        congrArg (Prod.map CardAnswer.card id)
          (CardIssuerAdapter.createVirtualCard_replay digests draw stored)
      rw [(cardMachine digests).event_of_step step]
      refine { agree := agree, shown := ?_, replayed := ?_ }
      · rintro card ⟨⟩
        rw [getCard_none]
        exact (agree.issued _ _ stored).2
      · rintro _ _ cardId card ⟨⟩ found tenant key
        have filed := (agree.byId cardId card found).2
        rw [tenant, key, stored] at filed
        exact congrArg CardAnswer.card (Option.some.inj filed)
  | none =>
      -- The key is free, and the card that is issued is filed in both tables
      have step := congrArg (Prod.map CardAnswer.card id)
        (CardIssuerAdapter.createVirtualCard_issue digests draw stored)
      change (cardMachine digests).step s (.createVirtualCard draw request) = (_, _) at step
      rw [(cardMachine digests).event_of_step step]
      refine { agree := ?_, shown := ?_, replayed := ?_ }
      · exact @IndexesAgree.add s agree (CardIssuerAdapter.issue digests s.backend draw request)
          stored (fresh stored)
      · rintro card ⟨⟩
        rw [getCard_none]
        exact Dict.get?_set_self _ _ _
      · rintro _ _ cardId card ⟨⟩ found tenant key
        have filed := (agree.byId cardId card found).2
        rw [tenant, key, stored] at filed
        cases filed

/-- A step that cancels no card keeps its promise. -/
theorem Coherent.ofStep (digests : Digests) {s : CardIssuerAdapter} {call : CardCall}
    (agree : IndexesAgree s) (fresh : FreshCard s call) (quiet : FindsNoCard s call)
    : Coherent ((cardMachine digests).event s call) := by
  cases call with
  | createVirtualCard draw request => exact Coherent.ofCreate digests agree fresh
  | cancelCard cardId tenantId =>
      have step
          : (cardMachine digests).step s (.cancelCard cardId tenantId)
            = (.cancelled false, s) :=
        congrArg (Prod.map CardAnswer.cancelled id)
          (CardIssuerAdapter.cancelCard_none quiet)
      rw [(cardMachine digests).event_of_step step]
      refine { agree := agree, shown := ?_, replayed := ?_ }
      · intro card shown
        cases shown
      · intro _ _ _ _ created
        cases created

/-- After a step that cancels a card the tables disagree: the cancelled card is filed under
a key that is not the card's own.
-/
theorem FindsNoCard.ofCoherent (digests : Digests) {s : CardIssuerAdapter} {call : CardCall}
    (coherent : Coherent ((cardMachine digests).event s call))
    : FindsNoCard s call := by
  cases call with
  | createVirtualCard => exact trivial
  | cancelCard cardId tenantId =>
      cases found : s.getCard cardId tenantId with
      | none => exact found
      | some card =>
          -- A cancelled card is filed under a key that is not its own
          have filed := CardIssuerAdapter.cancelCard_some found
          have own := (coherent.agree.issued _ _ filed).1
          cases own

theorem new_agree (backend : CardIssuerBackend) : IndexesAgree (.new backend) := by
  constructor <;>
    · intro key card stored
      cases stored

/-- On a run with fresh card identifiers every step keeps its promise exactly when no step
is a cancellation that finds its card.
-/
theorem cards_coherent_iff (digests : Digests) (backend : CardIssuerBackend)
    (calls : List CardCall) (fresh : (cardMachine digests).Admits FreshCard (.new backend) calls)
    : (∀ event ∈ (cardMachine digests).history (.new backend) calls, Coherent event)
      ↔ ∀ event ∈ (cardMachine digests).history (.new backend) calls,
          FindsNoCard event.before event.input := by
  constructor
  · intro coherent event member
    obtain ⟨_, _, step⟩ := (cardMachine digests).mem_history (motive := fun _ => True)
      (fun _ _ _ _ => trivial) trivial fresh member
    have promise := coherent event member
    rw [step] at promise
    exact FindsNoCard.ofCoherent digests promise
  · intro quiet event member
    have admitted : (cardMachine digests).Admits
        (fun s call => FreshCard s call ∧ FindsNoCard s call) (.new backend) calls := by
      rw [Machine.admits_iff_history] at fresh ⊢
      exact fun event member => ⟨fresh event member, quiet event member⟩
    obtain ⟨agree, ⟨isFresh, isQuiet⟩, step⟩ := (cardMachine digests).mem_history
      (motive := IndexesAgree) (fun _ _ agree ok => (Coherent.ofStep digests agree ok.1 ok.2).agree)
      (new_agree backend) admitted member
    rw [step]
    exact Coherent.ofStep digests agree isFresh isQuiet

section Sample

/-- The digests that the sample run meets: of its request's parameters and of its card's
identifier.
-/
def sampleDigests : Digests where
  sha256 := fun _ => 0x4afa32b93c63e108b5eff722ecb1c302f8e9cea01e62a32be1bb788eed88ddf7
  md5 := fun _ => 0xe64bb107c68cab2af5d470e3a3576c51

def sampleDraw : Draw := ⟨⟨0x123e4567e89b42d3a456426614174000⟩, ⟨1709164800123456⟩⟩

def sampleRequest : VirtualCardRequest where
  tenantId := "acme"
  custodianId := "dana"
  fundId := "float"
  spendingLimitScaled := 1000000
  currency := "USD"
  cardholderName := "Dana"
  idempotencyKey := "retry-1"
  metadata := .empty
  limitPositive := by decide
  currencyLength := by decide

/-- A card that is created, cancelled and asked for again with the same key. -/
def cancelledCard : List CardCall :=
  [
    .createVirtualCard sampleDraw sampleRequest,
    .cancelCard "card_123e4567e89b42d3" (some "acme"),
    .createVirtualCard sampleDraw sampleRequest
  ]

theorem cards_coherent_iff_sample
    : (∀ event ∈ (cardMachine sampleDigests).history (.new .mock) cancelledCard, Coherent event)
      ↔ ∀ event ∈ (cardMachine sampleDigests).history (.new .mock) cancelledCard,
          FindsNoCard event.before event.input :=
  cards_coherent_iff sampleDigests .mock cancelledCard (by decide)

/-- The repeated request is answered with the active card although the card is cancelled. -/
theorem cancelledCard_incoherent
    : (cardMachine sampleDigests).Admits FreshCard (.new .mock) cancelledCard
      ∧ ¬ ∀ event ∈ (cardMachine sampleDigests).history (.new .mock) cancelledCard,
          Coherent event := by
  refine ⟨by decide, fun coherent => ?_⟩
  have repeated := coherent _
    (List.mem_cons_of_mem _ (List.mem_cons_of_mem _ List.mem_cons_self))
  have shown := repeated.shown _ rfl
  revert shown
  decide

end Sample

end PettyFlow.Adapters
