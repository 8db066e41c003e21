import PettyFlow.Wallet.DisbursementManager

/-! Settlement events of providers: an event is claimed before its payload is interpreted,
and the claim is given back only when the transition is illegal.
-/

namespace PettyFlow.Wallet

open Foundation Idempotency

/-- A member of an event's payload: a JSON value, or a value that has no JSON text because of
its type, because it contains itself, or because it is nested too deeply.
-/
inductive PayloadValue where
  | json (value : Json)
  | other (typeName : String)
  | circular
  | deep (container : String)

abbrev ProviderPayload := SortedMap String PayloadValue

/-- The value that is written, or what writing raises. -/
def PayloadValue.toJson : PayloadValue → Except ManagerError Json
  | json value =>
      if value.printable then .ok value else .error (.valueError tooLargeToWrite)
  | other typeName => .error (.typeError s!"Object of type {typeName} is not JSON serializable")
  | circular => .error (.valueError "Circular reference detected")
  | deep container =>
      .error (.recursionError
        s!"maximum recursion depth exceeded while encoding a JSON {container}")

def membersJson : List (String × PayloadValue) → Except ManagerError (List (String × Json))
  | [] => .ok []
  | (name, value) :: rest => do
      let value ← value.toJson
      let rest ← membersJson rest
      return (name, value) :: rest

/-- The payload as a JSON value that is written; a value without a JSON text raises. -/
def payloadJson (payload : ProviderPayload) : Except ManagerError Json :=
  (membersJson payload.entries).map .obj

/-- The settlement state that a payload reports. -/
def requestedState (payload : Json) : Except ManagerError SettlementState :=
  match payload.member? "status" with
  | none => .error (.keyError "status")
  | some (.str text) => orRaise (SettlementState.ofValue? text) (.notASettlementState (.str text))
  | some value => .error (.notASettlementState value)

namespace DisbursementManager

/-- Claim an event and validate the transition that it reports. -/
def ingestProviderEvent (digests : Digests) (hmac : Bytes → Bytes → Bytes)
    (s : DisbursementManager) (now : Int) (audit : Draw) (tenantId provider eventId : String)
    (payload : ProviderPayload) (currentState : SettlementState)
    : Except ManagerError Bool × DisbursementManager :=
  match payloadJson payload with
  | .error error => (.error error, s)
  | .ok payload =>
      match s.backends.store.claimProviderEvent now tenantId provider eventId
          (payloadDigest digests payload) with
      | (.error error, store) => (.error (.store error), s.withStore store)
      | (.ok false, store) =>
          (.ok false,
            (s.withStore store).log hmac audit tenantId "PROVIDER_EVENT_REPLAYED"
              [("provider", .str provider), ("event_id", .str eventId)])
      | (.ok true, store) =>
          -- The status is read outside of the block that gives the claim back
          match requestedState payload with
          | .error error => (.error error, s.withStore store)
          | .ok requested =>
              match validateSettlementTransition currentState requested with
              | .error error =>
                  (.error (.settlementTransition error),
                    s.withStore (store.abandonProviderEvent tenantId provider eventId))
              | .ok _ =>
                  (.ok true,
                    (s.withStore store).log hmac audit tenantId "PROVIDER_EVENT_ACCEPTED"
                      [
                        ("provider", .str provider),
                        ("event_id", .str eventId),
                        ("status", .str requested.value)
                      ])

/-- The claimed events of the manager's store. -/
def claimed (s : DisbursementManager) (key : EventKey) : Option ProviderEvent :=
  s.backends.store.providerEvents.get? key

end DisbursementManager

/-- The value has a JSON text. -/
def PayloadValue.Writable (value : PayloadValue) : Prop :=
  ∃ json, value = .json json ∧ json.printable = true

/-- The payload has no value without a JSON text. -/
def Serialisable (payload : ProviderPayload) : Prop :=
  ∀ entry ∈ payload.entries, entry.2.Writable

/-- The payload reports a settlement state. -/
def ReportsState (payload : ProviderPayload) : Prop :=
  ∃ state : SettlementState, payload.entries.lookup "status" = some (.json (.str state.value))

theorem toJson_ok {value : PayloadValue} {json : Json} (written : value.toJson = .ok json)
    : value = .json json ∧ json.printable = true := by
  cases value with
  | json value =>
      rw [PayloadValue.toJson] at written
      split at written
      · rename_i printable
        obtain rfl := Except.ok.inj written
        exact ⟨rfl, printable⟩
      · cases written
  | _ => cases written

theorem toJson_json {json : Json} (printable : json.printable = true)
    : (PayloadValue.json json).toJson = .ok json :=
  if_pos printable

/-- Written members are those of the payload, by induction over them. -/
theorem membersJson_ok {members : List (String × PayloadValue)} {json : List (String × Json)}
    (written : membersJson members = .ok json)
    : (∀ entry ∈ members, entry.2.Writable)
      ∧ ∀ name value, json.lookup name = some value ↔ members.lookup name = some (.json value) := by
  induction members generalizing json with
  | nil =>
      obtain rfl : [] = json := Except.ok.inj written
      exact ⟨nofun, fun _ _ => ⟨nofun, nofun⟩⟩
  | cons head rest ih =>
      obtain ⟨key, value⟩ := head
      obtain ⟨own, ownWritten, written⟩ := bind_ok written
      obtain ⟨later, restWritten, written⟩ := bind_ok written
      obtain rfl : (key, own) :: later = json := Except.ok.inj written
      obtain ⟨rfl, printable⟩ := toJson_ok ownWritten
      obtain ⟨everyJson, lookups⟩ := ih restWritten
      refine ⟨List.forall_mem_cons.mpr ⟨⟨own, rfl, printable⟩, everyJson⟩, fun name sought => ?_⟩
      rw [SortedMap.lookup_entry, SortedMap.lookup_entry]
      split
      · simp
      · exact lookups name sought

theorem membersJson_total {members : List (String × PayloadValue)}
    (everyJson : ∀ entry ∈ members, entry.2.Writable)
    : ∃ json, membersJson members = .ok json := by
  induction members with
  | nil => exact ⟨[], rfl⟩
  | cons head rest ih =>
      obtain ⟨key, value⟩ := head
      obtain ⟨⟨own, rfl, printable⟩, everyRest⟩ := List.forall_mem_cons.mp everyJson
      obtain ⟨later, written⟩ := ih everyRest
      refine ⟨(key, own) :: later, ?_⟩
      rw [membersJson, toJson_json printable, written]
      rfl

/-- A payload is written exactly when it is serialisable, and then reports its state. -/
theorem payloadJson_error_iff (payload : ProviderPayload)
    : (∃ error, payloadJson payload = .error error) ↔ ¬ Serialisable payload := by
  constructor
  · rintro ⟨error, raised⟩ everyJson
    obtain ⟨json, written⟩ := membersJson_total everyJson
    rw [payloadJson, written] at raised
    cases raised
  · intro opaqueValue
    cases written : membersJson payload.entries with
    | error error => exact ⟨error, by rw [payloadJson, written]; rfl⟩
    | ok json => exact absurd (membersJson_ok written).1 opaqueValue

theorem requestedState_ok_iff {payload : ProviderPayload} {json : Json}
    (written : payloadJson payload = .ok json)
    : (∃ state, requestedState json = .ok state) ↔ ReportsState payload := by
  unfold payloadJson at written
  cases members : membersJson payload.entries with
  | error error =>
      rw [members] at written
      cases written
  | ok json =>
      rw [members] at written
      obtain rfl := Except.ok.inj written
      -- The members of the text are the entries of the payload that were given
      have lookups := (membersJson_ok members).2 "status"
      constructor
      · rintro ⟨state, requested⟩
        unfold requestedState at requested
        split at requested
        · cases requested
        · rename_i text status
          have named := SettlementState.value_of_ofValue? (orRaise_ok requested)
          exact ⟨state, by rw [named]; exact (lookups _).mp status⟩
        · cases requested
      · rintro ⟨state, status⟩
        refine ⟨state, ?_⟩
        have status := (lookups _).mpr status
        unfold requestedState
        rw [Json.member?_obj, status]
        dsimp only
        rw [SettlementState.ofValue?_value]
        rfl

namespace DisbursementManager

section Ingestion

variable (digests : Digests) (hmac : Bytes → Bytes → Bytes) (s : DisbursementManager) (now : Int)
  (audit : Draw) (tenantId provider eventId : String) (currentState : SettlementState)

/-- An event that is not claimed yet is claimed; the claim outlasts a payload that reports
no state, and is given back when the transition is illegal.
-/
theorem ingest_unclaimed {payload : ProviderPayload} {json : Json}
    (written : payloadJson payload = .ok json)
    (unclaimed : s.claimed (tenantId, provider, eventId) = none)
    : let store : SQLiteIdempotencyStore :=
        {
          s.backends.store with
          providerEvents :=
            s.backends.store.providerEvents.set (tenantId, provider, eventId)
              ⟨payloadDigest digests json, now⟩
        }
      let call :=
        s.ingestProviderEvent digests hmac now audit tenantId provider eventId payload currentState
      (∀ error, requestedState json = .error error → call = (.error error, s.withStore store))
      ∧ ∀ state,
          requestedState json = .ok state
          → call.1 = .ok true
            ∨ ∃ error,
                call
                = (.error (.settlementTransition error),
                  s.withStore (store.abandonProviderEvent tenantId provider eventId)) := by
  -- Nobody holds the event, so the delivery claims it
  have claim
      : s.backends.store.claimProviderEvent now tenantId provider eventId (payloadDigest digests json)
        = (.ok true,
          {
            s.backends.store with
            providerEvents :=
              s.backends.store.providerEvents.set (tenantId, provider, eventId)
                ⟨payloadDigest digests json, now⟩
          }) := by
    unfold claimed at unclaimed
    unfold SQLiteIdempotencyStore.claimProviderEvent
    rw [unclaimed]
  unfold ingestProviderEvent
  rw [written]
  dsimp only
  rw [claim]
  dsimp only
  constructor
  · intro error failed
    rw [failed]
  · intro state requested
    rw [requested]
    dsimp only
    cases validateSettlementTransition currentState state with
    | error error => exact Or.inr ⟨error, rfl⟩
    | ok state => exact Or.inl rfl

/-- A claimed event is answered as a replay or refused, and no claim changes. -/
theorem ingest_claimed {payload : ProviderPayload} {json : Json}
    (written : payloadJson payload = .ok json) {event : ProviderEvent}
    (known : s.claimed (tenantId, provider, eventId) = some event)
    : let call :=
        s.ingestProviderEvent digests hmac now audit tenantId provider eventId payload currentState
      (event.payloadFingerprint = payloadDigest digests json → call.1 = .ok false)
      ∧ (event.payloadFingerprint ≠ payloadDigest digests json
        → ∃ error, call = (.error error, s)) := by
  unfold claimed at known
  unfold ingestProviderEvent SQLiteIdempotencyStore.claimProviderEvent
  rw [written]
  dsimp only
  rw [known]
  dsimp only
  constructor
  · intro same
    rw [if_neg (not_not.mpr same)]
  · intro different
    rw [if_pos different]
    exact ⟨_, rfl⟩

theorem ingest_unwritten {payload : ProviderPayload} {error : ManagerError}
    (raised : payloadJson payload = .error error)
    : s.ingestProviderEvent digests hmac now audit tenantId provider eventId payload currentState
      = (.error error, s) := by
  unfold ingestProviderEvent
  rw [raised]

/-- An event that is not claimed is never answered as a replay. -/
theorem ingest_ne_replay (payload : ProviderPayload)
    (unclaimed : s.claimed (tenantId, provider, eventId) = none)
    : (s.ingestProviderEvent digests hmac now audit tenantId provider eventId payload
        currentState).1
      ≠ .ok false := by
  cases written : payloadJson payload with
  | error error =>
      rw [ingest_unwritten digests hmac s now audit tenantId provider eventId currentState written]
      exact nofun
  | ok json =>
      obtain ⟨failed, judged⟩ :=
        ingest_unclaimed digests hmac s now audit tenantId provider eventId currentState written
          unclaimed
      cases requested : requestedState json with
      | error error =>
          rw [failed error requested]
          exact nofun
      | ok state =>
          rcases judged state requested with accepted | ⟨error, raised⟩
          · rw [accepted]
            exact nofun
          · rw [raised]
            exact nofun

/-- If the call raises, all claims are as before, and the same event is not answered as a
replay when it is delivered again.
-/
def FailureRestores (payload : ProviderPayload) : Prop :=
  let call :=
    s.ingestProviderEvent digests hmac now audit tenantId provider eventId payload currentState
  ∀ error,
    call.1 = .error error
    → (∀ key, call.2.claimed key = s.claimed key)
      ∧ ∀ laterNow laterAudit laterState,
          (call.2.ingestProviderEvent digests hmac laterNow laterAudit tenantId provider eventId
            payload laterState).1
          ≠ .ok false

/-- A failed call restores the claims exactly when its payload has no JSON text, or its
event was claimed before, or the payload reports a settlement state.
-/
theorem failureRestores_iff (payload : ProviderPayload)
    : FailureRestores digests hmac s now audit tenantId provider eventId currentState payload
      ↔ ¬ Serialisable payload
        ∨ (∃ event, s.claimed (tenantId, provider, eventId) = some event)
        ∨ ReportsState payload := by
  cases written : payloadJson payload with
  | error error =>
      have unwritten (s : DisbursementManager) (now : Int) (audit : Draw) (state : SettlementState) :=
        ingest_unwritten digests hmac s now audit tenantId provider eventId state written
      refine iff_of_true ?_ (Or.inl ((payloadJson_error_iff payload).mp ⟨error, written⟩))
      intro _ _
      rw [unwritten s now audit currentState]
      refine ⟨fun _ => rfl, fun laterNow laterAudit laterState => ?_⟩
      rw [unwritten s laterNow laterAudit laterState]
      exact nofun
  | ok json =>
      cases known : s.claimed (tenantId, provider, eventId) with
      | some event =>
          have claimed (now : Int) (audit : Draw) (state : SettlementState) :=
            ingest_claimed digests hmac s now audit tenantId provider eventId state written known
          refine iff_of_true ?_ (Or.inr (Or.inl ⟨event, rfl⟩))
          intro error failed
          by_cases same : event.payloadFingerprint = payloadDigest digests json
          · rw [(claimed now audit currentState).1 same] at failed
            cases failed
          · obtain ⟨conflict, refused⟩ := (claimed now audit currentState).2 same
            rw [refused]
            refine ⟨fun _ => rfl, fun laterNow laterAudit laterState => ?_⟩
            obtain ⟨again, refusedAgain⟩ := (claimed laterNow laterAudit laterState).2 same
            rw [refusedAgain]
            exact nofun
      | none =>
          obtain ⟨failed, judged⟩ :=
            ingest_unclaimed digests hmac s now audit tenantId provider eventId currentState
              written known
          have serialisable : Serialisable payload := by
            by_contra unwritten
            obtain ⟨error, raised⟩ := (payloadJson_error_iff payload).mpr unwritten
            rw [written] at raised
            cases raised
          have reports := requestedState_ok_iff written
          cases requested : requestedState json with
          | error error =>
              -- The claim stays, so that the event is not what it was
              refine iff_of_false ?_ ?_
              · intro restores
                obtain ⟨same, _⟩ := restores error (by rw [failed error requested])
                have own := same (tenantId, provider, eventId)
                rw [failed error requested, known] at own
                simp [claimed, withStore] at own
              · rintro (unwritten | ⟨event, other⟩ | reported)
                · exact unwritten serialisable
                · cases other
                · obtain ⟨state, ok⟩ := reports.mpr reported
                  rw [requested] at ok
                  cases ok
          | ok state =>
              refine iff_of_true ?_ (Or.inr (Or.inr (reports.mp ⟨state, requested⟩)))
              intro error raised
              rcases judged state requested with accepted | ⟨illegal, refused⟩
              · rw [accepted] at raised
                cases raised
              · have restored
                    : ∀ key,
                        (s.ingestProviderEvent digests hmac now audit tenantId provider eventId
                          payload currentState).2.claimed key
                        = s.claimed key := by
                  intro key
                  rw [refused]
                  simp only [claimed, withStore, SQLiteIdempotencyStore.abandonProviderEvent,
                    Dict.get?_erase, Dict.get?_set]
                  split
                  · rename_i own
                    rw [← own]
                    exact known.symm
                  · rfl
                refine ⟨restored, fun laterNow laterAudit laterState => ?_⟩
                exact ingest_ne_replay digests hmac _ laterNow laterAudit tenantId provider eventId
                  laterState payload ((restored _).trans known)

end Ingestion

/-- The SHA-256 of the text of an empty object; the other digest plays no part. -/
def sampleDigests : Digests :=
  ⟨fun _ => 0x44136fa355b3678a1146ad16f7e8649e94fb4fc21fe77e8310c060f61caaff8a, fun _ => 0⟩

/-- A manager with an empty store, on which nothing has happened. -/
def sampleManager : DisbursementManager :=
  {
    backends := ⟨⟨604800, .empty, .empty, by decide⟩, .new .mock, .new .mock false⟩
    idempotencyTtlSeconds := 86400
    auditLogger := .new (utf8 "worm-audit-system-secret-key-32b")
    results := .empty
    auditTrail := []
    ttlPositive := by decide
  }

/-- An event without a status raises, stays claimed, and is answered as a replay when it is
delivered again.
-/
theorem missingStatus_stays_claimed
    : let deliver (s : DisbursementManager) :=
        s.ingestProviderEvent sampleDigests (fun _ _ => []) 100 ⟨⟨1⟩, ⟨0⟩⟩ "TENANT-ORG" "bank"
          "evt-1" .empty .pending
      (deliver sampleManager).1 = .error (.keyError "status")
      ∧ sampleManager.claimed ("TENANT-ORG", "bank", "evt-1") = none
      ∧ (deliver sampleManager).2.claimed ("TENANT-ORG", "bank", "evt-1") ≠ none
      ∧ (deliver (deliver sampleManager).2).1 = .ok false := by
  refine ⟨rfl, rfl, ?_, rfl⟩
  decide

end DisbursementManager

end PettyFlow.Wallet
