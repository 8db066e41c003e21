import PettyFlow.Wallet.DisburseCalls
import PettyFlow.Wallet.SingleOwner

/-! A key that is used again while its result is kept: the same request is given the result, and
any other request is refused.
-/

namespace PettyFlow.Wallet

open Foundation Idempotency

/-- Two requests ask for the same, whatever the order in which the metadata were inserted. -/
structure SameRequest (request other : FloatDisbursementRequest) : Prop where
  custodian : other.custodianId = request.custodianId
  fund : other.fundId = request.fundId
  amount : other.amountScaled = request.amountScaled
  channel : other.channel = request.channel
  currency : other.currency = request.currency
  recipient : other.recipientAddress = request.recipientAddress
  cardholder : other.cardholderName = request.cardholderName
  description : other.description = request.description
  metadata : other.metadata = request.metadata

/-- The digest tells the texts of two requests apart. -/
def Distinguishes (digests : Digests) (request other : FloatDisbursementRequest) : Prop :=
  digests.sha256 (request.payload.text .compact) = digests.sha256 (other.payload.text .compact)
  → request.payload.text .compact = other.payload.text .compact

theorem channel_value_injective {channel other : DisbursementChannel}
    (same : channel.value = other.value)
    : channel = other := by
  have named := DisbursementChannel.ofValue?_value channel
  rw [same, DisbursementChannel.ofValue?_value] at named
  exact (Option.some.inj named).symm

theorem payload_plain (request : FloatDisbursementRequest) : request.payload.Plain := by
  simp [FloatDisbursementRequest.payload, Json.Plain, Json.PlainMembers, ofTexts_plain]

/-- Requests with the same payload ask for the same: each field is a member of its own. -/
theorem sameRequest_of_payload {request other : FloatDisbursementRequest}
    (same : request.payload.sortKeys = other.payload.sortKeys)
    : SameRequest request other := by
  have member (name : String)
      : (request.payload.member? name).map Json.sortKeys
        = (other.payload.member? name).map Json.sortKeys := by
    rw [← Json.member?_sortKeys, ← Json.member?_sortKeys, same]
  simp only [FloatDisbursementRequest.payload, Json.member?_obj] at member
  refine ⟨?_, ?_, ?_, ?_, ?_, ?_, ?_, ?_, ?_⟩
  · simpa [List.lookup] using (member "custodian_id").symm
  · simpa [List.lookup] using (member "fund_id").symm
  · simpa [List.lookup] using (member "amount_scaled").symm
  · apply channel_value_injective
    simpa [List.lookup] using (member "channel").symm
  · simpa [List.lookup] using (member "currency").symm
  · simpa [List.lookup] using (member "recipient_address").symm
  · simpa [List.lookup] using (member "cardholder_name").symm
  · simpa [List.lookup] using (member "description").symm
  · have texts : Json.ofTexts request.metadata = Json.ofTexts other.metadata := by
      simpa [List.lookup] using member "metadata"
    have read := Json.texts?_ofTexts request.metadata
    rw [texts, Json.texts?_ofTexts] at read
    exact Option.some.inj read

theorem SameRequest.payload {request other : FloatDisbursementRequest}
    (same : SameRequest request other) (tenant : other.tenantId = request.tenantId)
    : other.payload = request.payload := by
  obtain ⟨custodian, fund, amount, channel, currency, recipient, cardholder, description,
    metadata⟩ := same
  simp only [FloatDisbursementRequest.payload, tenant, custodian, fund, amount, channel, currency,
    recipient, cardholder, description, metadata]

/-- Requests of one tenant have the same fingerprint exactly when they ask for the same. -/
theorem fingerprint_eq_iff {digests : Digests} {request other : FloatDisbursementRequest}
    (tenant : other.tenantId = request.tenantId)
    (distinguishes : Distinguishes digests request other)
    : request.fingerprint digests = other.fingerprint digests ↔ SameRequest request other := by
  constructor
  · intro same
    have texts := distinguishes (hexDigest_injective (String.ofList_injective same))
    exact sameRequest_of_payload
      (Json.text_injective .compact (payload_plain request) (payload_plain other) texts)
  · intro same
    unfold FloatDisbursementRequest.fingerprint
    rw [same.payload tenant]

namespace DisbursementManager

/-- The key of a request has the record of its result, written at a time. -/
def Holds (digests : Digests) (s : DisbursementManager) (request : FloatDisbursementRequest)
    (result : FloatDisbursementResult) (since : Int)
    : Prop :=
  ∃ text,
    resultText result = some text
    ∧ s.backends.store.record? request.recordKey
      = some ⟨request.fingerprint digests, text, .completed, since⟩

variable {digests : Digests} {hmac : Bytes → Bytes → Bytes} {s : DisbursementManager}
  {request : FloatDisbursementRequest} {result : FloatDisbursementResult} {since : Int}

/-- The owner of a key that returns a result has filed it. -/
theorem holds_of_completed {draw : DisburseDraw}
    (free : (s.backends.store.purge draw.storeTime).record? request.recordKey = none)
    (completed : (s.disburseFloat digests hmac draw request).1 = .ok result)
    : (s.disburseFloat digests hmac draw request).2.Holds digests request result
        draw.storeTime := by
  have outcome := disburseFloat_outcome digests hmac s draw request
  generalize (s.disburseFloat digests hmac draw request).2 = after at outcome ⊢
  rw [completed] at outcome
  generalize answered : Except.ok (ε := ManagerError) result = answer at outcome
  cases outcome with
  | unprinted => cases answered
  | refused => cases answered
  | reused _ _ _ found => cases free.symm.trans found
  | unpaid => cases answered
  | unwritten => cases answered
  | unfiled => cases answered
  | completed _ result' text _ _ _ _ written _ records =>
      obtain rfl := Except.ok.inj answered
      exact ⟨text, written, (records _).trans (if_pos rfl)⟩

/-- A call that returns a result was for a request that can be written. -/
theorem printable_of_ok {draw : DisburseDraw}
    (completed : (s.disburseFloat digests hmac draw request).1 = .ok result)
    : request.Printable := by
  by_contra unprintable
  rw [disburseFloat_unprintable digests hmac s draw unprintable] at completed
  cases completed

/-- A record in its retention time outlasts a purge. -/
theorem Holds.purge (held : s.Holds digests request result since) {now : Int}
    (young : now - s.backends.store.retentionSeconds ≤ since)
    : ∃ text,
        resultText result = some text
        ∧ (s.backends.store.purge now).record? request.recordKey
          = some ⟨request.fingerprint digests, text, .completed, since⟩ := by
  obtain ⟨text, written, found⟩ := held
  refine ⟨text, written, ?_⟩
  rw [SQLiteIdempotencyStore.record?_purge_eq, found]
  simp [Option.filter_some, Int.not_lt.mpr young]

/-- A call in the retention time keeps the record, whatever its outcome. -/
theorem Holds.disburseFloat (held : s.Holds digests request result since) {draw : DisburseDraw}
    {other : FloatDisbursementRequest}
    (young : draw.storeTime - s.backends.store.retentionSeconds ≤ since)
    : (s.disburseFloat digests hmac draw other).2.Holds digests request result since := by
  obtain ⟨text, written, found⟩ := held.purge young
  -- A call that owns its key owns another one, since this one is taken
  have kept {after : DisbursementManager} {record : Option IdempotencyRecord}
      (free : (s.backends.store.purge draw.storeTime).record? other.recordKey = none)
      (records
        : ∀ key,
            after.backends.store.record? key
            = if other.recordKey = key then
                record
              else
                (s.backends.store.purge draw.storeTime).record? key)
      : after.Holds digests request result since := by
    refine ⟨text, written, ?_⟩
    rw [records, if_neg, found]
    intro same
    rw [same] at free
    cases free.symm.trans found
  have outcome := disburseFloat_outcome digests hmac s draw other
  generalize (s.disburseFloat digests hmac draw other).1 = answer at outcome
  generalize (s.disburseFloat digests hmac draw other).2 = after at outcome ⊢
  cases outcome with
  | unprinted => exact held
  | refused _ _ _ backends =>
      obtain ⟨text, written, found⟩ := held
      exact ⟨text, written, by rw [backends, found]⟩
  | reused _ _ _ _ _ backends => exact ⟨text, written, by rw [backends]; exact found⟩
  | unpaid _ _ _ free _ _ _ records => exact kept free records
  | unwritten _ _ _ free _ _ records => exact kept free records
  | unfiled _ _ _ _ _ free _ _ _ _ _ records => exact kept free records
  | completed _ _ _ _ _ free _ _ _ records => exact kept free records

/-- Every call of a run in the retention time keeps the record, by induction over the run. -/
theorem Holds.exec (hmac : Bytes → Bytes → Bytes) (held : s.Holds digests request result since)
    {calls : List ManagerCall}
    (young
      : ∀ call ∈ calls, call.storeTime - s.backends.store.retentionSeconds ≤ since)
    : ((managerMachine digests hmac).exec s calls).Holds digests request result since
      ∧ ((managerMachine digests hmac).exec s calls).backends.store.retentionSeconds
        = s.backends.store.retentionSeconds := by
  induction calls generalizing s with
  | nil => exact ⟨held, rfl⟩
  | cons call rest ih =>
      have first := young call List.mem_cons_self
      have step
          : ((managerMachine digests hmac).step s call).2.Holds digests request result since
            ∧ ((managerMachine digests hmac).step s call).2.backends.store.retentionSeconds
              = s.backends.store.retentionSeconds := by
        cases call with
        | disburseFloat draw other =>
            exact ⟨held.disburseFloat first, disburseFloat_retentionSeconds _ _ _ _ _⟩
        | ingestProviderEvent now audit tenantId provider eventId payload currentState =>
            obtain ⟨records, retention⟩ :=
              ingestProviderEvent_frame digests hmac s now audit tenantId provider eventId payload
                currentState
            obtain ⟨text, written, found⟩ := held
            refine ⟨⟨text, written, ?_⟩, retention⟩
            exact (congrArg (Dict.get? · _) records).trans found
      obtain ⟨kept, retention⟩ := step
      -- No call changes the retention time, so the rest of the run is in time as well
      have later :=
        ih kept (fun call member => by
          rw [retention]
          exact young call (List.mem_cons_of_mem _ member))
      rw [retention] at later
      exact later

/-- While a key has the record of a result, the same request is given the result, whatever its
payment would do, and another request is refused, or raises if it cannot be written.
-/
theorem Holds.answers (held : s.Holds digests request result since)
    (printable : request.Printable) {draw : DisburseDraw} {other : FloatDisbursementRequest} (sameKey : other.recordKey = request.recordKey)
    (distinguishes : Distinguishes digests request other)
    (young : draw.storeTime - s.backends.store.retentionSeconds ≤ since)
    : let call := s.disburseFloat digests hmac draw other
      (SameRequest request other
        → call.1 = .ok result
          ∧ call.2.backends.cardIssuer = s.backends.cardIssuer
          ∧ call.2.backends.mobileAdapter = s.backends.mobileAdapter)
      ∧ (¬ SameRequest request other
        → (other.Printable
            → call.1
              = .error
                  (.store
                    (.idempotencyConflict
                      "idempotency key was already used for a different request")))
          ∧ (¬ other.Printable → call.1 = .error (.valueError tooLargeToWrite))
          ∧ call.2.backends = s.backends) := by
  obtain ⟨text, written, found⟩ := held.purge young
  rw [← sameKey] at found
  have fingerprints := fingerprint_eq_iff (congrArg Prod.fst sameKey) distinguishes
  have outcome := disburseFloat_outcome digests hmac s draw other
  dsimp only
  generalize (s.disburseFloat digests hmac draw other).1 = answer at outcome ⊢
  generalize (s.disburseFloat digests hmac draw other).2 = after at outcome ⊢
  cases outcome with
  | unprinted unprintable =>
      refine ⟨fun same => absurd ?_ unprintable, fun _ => ⟨?_, fun _ => rfl, rfl⟩⟩
      · unfold FloatDisbursementRequest.Printable
        rw [same.amount]
        exact printable
      · exact fun printable => absurd printable unprintable
  | refused _ printable refuses backends =>
      obtain ⟨record, found', different⟩ := refuses
      obtain rfl := Option.some.inj (found.symm.trans found')
      refine ⟨fun same => absurd (fingerprints.mpr same) different, fun _ => ⟨fun _ => rfl, ?_, ?_⟩⟩
      · exact fun unprintable => absurd printable unprintable
      · exact backends
  | reused _ record _ found' same backends =>
      obtain rfl := Option.some.inj (found.symm.trans found')
      refine ⟨fun _ => ⟨?_, by rw [backends], by rw [backends]⟩, fun different => ?_⟩
      · simp [storedAnswer, resultOfText_resultText written, orRaise]
      · exact absurd (fingerprints.mp same) different
  | unpaid _ _ _ free => cases free.symm.trans found
  | unwritten _ _ _ free => cases free.symm.trans found
  | unfiled _ _ _ _ _ free => cases free.symm.trans found
  | completed _ _ _ _ _ free => cases free.symm.trans found

section Sample

def sampleDraw (storeTime : Int) (fault : Option String) : DisburseDraw :=
  ⟨storeTime, samplePayment fault, ⟨1700000000000000⟩, ⟨⟨1⟩, ⟨1700000000000000⟩⟩⟩

end Sample

end DisbursementManager

end PettyFlow.Wallet
