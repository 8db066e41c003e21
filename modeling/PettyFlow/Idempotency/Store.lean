import PettyFlow.Foundation.Dict
import PettyFlow.Foundation.Digest
import PettyFlow.Foundation.Json

/-! The idempotency store: which keys of a tenant are reserved or answered, and which
provider events are claimed. Every method is one transaction; times are in seconds.
-/

namespace PettyFlow.Idempotency

open Foundation

inductive RecordStatus where
  | inProgress
  | completed
  | failed
deriving DecidableEq

structure IdempotencyRecord where
  requestFingerprint : String
  resultJson : String
  status : RecordStatus
  createdAt : Int
deriving DecidableEq

structure ProviderEvent where
  payloadFingerprint : String
  createdAt : Int
deriving DecidableEq

/-- What a caller sees of a record. -/
structure StoredIdempotencyResult where
  tenantId : String
  key : String
  requestFingerprint : String
  resultJson : String
  status : RecordStatus
deriving DecidableEq

/-- The exceptions of the store, by class, with their texts. -/
inductive StoreError where
  | valueError (message : String)
  | idempotencyConflict (message : String)
  | providerEventConflict (message : String)
deriving DecidableEq

def StoreError.message : StoreError → String
  | valueError message => message
  | idempotencyConflict message => message
  | providerEventConflict message => message

/-- A tenant with one of its idempotency keys. -/
abbrev RecordKey := String × String

/-- A tenant, a provider and an event of it. -/
abbrev EventKey := String × String × String

structure SQLiteIdempotencyStore where
  retentionSeconds : Int
  records : Dict RecordKey IdempotencyRecord
  providerEvents : Dict EventKey ProviderEvent
  retentionPositive : 0 < retentionSeconds

/-- The digest of a payload's text, with sorted names and without blanks, for a payload that can
be written.
-/
def payloadDigest (digests : Digests) (requestPayload : Json) : String :=
  String.ofList (hexDigest (digests.sha256 (requestPayload.text .compact)))

/-- The fingerprint of a payload; one that cannot be written raises. -/
def fingerprint (digests : Digests) (requestPayload : Json) : Option String :=
  (requestPayload.dumps .compact).map (fun text => String.ofList (hexDigest (digests.sha256 text)))

theorem fingerprint_of_printable (digests : Digests) {requestPayload : Json}
    (printable : requestPayload.printable = true)
    : fingerprint digests requestPayload = some (payloadDigest digests requestPayload) := by
  rw [fingerprint, Json.dumps_of_printable .compact printable]
  rfl

theorem fingerprint_of_unprintable (digests : Digests) {requestPayload : Json}
    (unprintable : ¬ requestPayload.printable = true)
    : fingerprint digests requestPayload = none := by
  rw [fingerprint, Json.dumps, if_neg unprintable]
  rfl

namespace SQLiteIdempotencyStore

def new (retentionSeconds : Int) : Except StoreError SQLiteIdempotencyStore :=
  if retentionPositive : 0 < retentionSeconds then
    .ok ⟨retentionSeconds, .empty, .empty, retentionPositive⟩
  else
    .error (.valueError "retention_seconds must be positive")

/-- Forget what is older than the retention time. -/
def purge (s : SQLiteIdempotencyStore) (now : Int) : SQLiteIdempotencyStore :=
  {
    s with
    records := s.records.filter (fun _ record => !decide (record.createdAt < now - s.retentionSeconds))
    providerEvents :=
      s.providerEvents.filter (fun _ event => !decide (event.createdAt < now - s.retentionSeconds))
  }

/-- Reserve a key, or return its record. A conflict takes the purge back as well. -/
def reserve (s : SQLiteIdempotencyStore) (now : Int) (tenantId key requestFingerprint : String)
    : Except StoreError (Option StoredIdempotencyResult) × SQLiteIdempotencyStore :=
  let purged := s.purge now
  match purged.records.get? (tenantId, key) with
  | some record =>
      if record.requestFingerprint ≠ requestFingerprint then
        (.error (.idempotencyConflict "idempotency key was already used for a different request"),
          s)
      else
        (.ok (some ⟨tenantId, key, record.requestFingerprint, record.resultJson, record.status⟩),
          purged)
  | none =>
      (.ok none,
        {
          purged with
          records :=
            purged.records.set (tenantId, key) ⟨requestFingerprint, "", .inProgress, now⟩
        })

/-- The older name of `reserve`. -/
def getOrReserve (s : SQLiteIdempotencyStore) (now : Int)
    (tenantId key requestFingerprint : String) (resultJson : Option String)
    : Except StoreError (Option StoredIdempotencyResult) × SQLiteIdempotencyStore :=
  match resultJson with
  | some _ =>
      (.error (.valueError "result_json is no longer accepted when reserving a key"), s)
  | none => s.reserve now tenantId key requestFingerprint

/-- The record that a caller with this fingerprint has in progress. -/
def inProgress? (s : SQLiteIdempotencyStore) (tenantId key requestFingerprint : String)
    : Option IdempotencyRecord :=
  (s.records.get? (tenantId, key)).filter (fun record =>
    record.requestFingerprint = requestFingerprint && record.status = .inProgress)

/-- Write the result of a record in progress. -/
def finish (s : SQLiteIdempotencyStore) (status : RecordStatus) (message : String)
    (tenantId key requestFingerprint resultJson : String)
    : Except StoreError StoredIdempotencyResult × SQLiteIdempotencyStore :=
  match s.inProgress? tenantId key requestFingerprint with
  | none => (.error (.idempotencyConflict message), s)
  | some record =>
      (.ok ⟨tenantId, key, requestFingerprint, resultJson, status⟩,
        {
          s with
          records := s.records.set (tenantId, key) { record with resultJson, status }
        })

def complete (s : SQLiteIdempotencyStore) (tenantId key requestFingerprint resultJson : String)
    : Except StoreError StoredIdempotencyResult × SQLiteIdempotencyStore :=
  s.finish .completed "idempotency record cannot be completed" tenantId key requestFingerprint
    resultJson

def fail (s : SQLiteIdempotencyStore) (tenantId key requestFingerprint resultJson : String)
    : Except StoreError StoredIdempotencyResult × SQLiteIdempotencyStore :=
  s.finish .failed "idempotency record cannot be failed" tenantId key requestFingerprint
    resultJson

/-- Release a key whose call failed before it had a result. -/
def abandon (s : SQLiteIdempotencyStore) (tenantId key requestFingerprint : String)
    : SQLiteIdempotencyStore :=
  match s.inProgress? tenantId key requestFingerprint with
  | none => s
  | some _ => { s with records := s.records.erase (tenantId, key) }

/-- Claim an event; the answer is false for an identical replay. -/
def claimProviderEvent (s : SQLiteIdempotencyStore) (now : Int)
    (tenantId provider eventId payloadFingerprint : String)
    : Except StoreError Bool × SQLiteIdempotencyStore :=
  match s.providerEvents.get? (tenantId, provider, eventId) with
  | some event =>
      if event.payloadFingerprint ≠ payloadFingerprint then
        (.error
          (.providerEventConflict "provider event ID was already used for a different payload"),
          s)
      else
        (.ok false, s)
  | none =>
      (.ok true,
        {
          s with
          providerEvents :=
            s.providerEvents.set (tenantId, provider, eventId) ⟨payloadFingerprint, now⟩
        })

/-- Release a claimed event that failed the validation after its claim. -/
def abandonProviderEvent (s : SQLiteIdempotencyStore) (tenantId provider eventId : String)
    : SQLiteIdempotencyStore :=
  { s with providerEvents := s.providerEvents.erase (tenantId, provider, eventId) }

/-- The record of a key, as it is stored. -/
def record? (s : SQLiteIdempotencyStore) (key : RecordKey) : Option IdempotencyRecord :=
  s.records.get? key

/-- No record is older than the retention time. -/
def Young (s : SQLiteIdempotencyStore) (now : Int) : Prop :=
  ∀ entry ∈ s.records.entries, now - s.retentionSeconds ≤ entry.2.createdAt

instance (s : SQLiteIdempotencyStore) (now : Int) : Decidable (s.Young now) :=
  inferInstanceAs (Decidable (∀ entry ∈ s.records.entries, _))

/-- A purge keeps the records that are not older than the retention time. -/
theorem record?_purge_eq (s : SQLiteIdempotencyStore) (now : Int) (key : RecordKey)
    : (s.purge now).record? key
      = (s.record? key).filter (fun record =>
          !decide (record.createdAt < now - s.retentionSeconds)) :=
  Dict.get?_filter _ _ _

/-- While all records are young, none is purged. -/
theorem record?_purge {s : SQLiteIdempotencyStore} {now : Int} (young : s.Young now)
    (key : RecordKey)
    : (s.purge now).record? key = s.record? key := by
  rw [record?_purge_eq]
  cases found : s.record? key with
  | none => rfl
  | some record =>
      have kept := young (key, record) ((s.records.mem_entries_iff key record).mpr found)
      simp [Option.filter_some, Int.not_lt.mpr kept]

/-- The key has a young record of another request, so that a reservation is refused. -/
def Refuses (s : SQLiteIdempotencyStore) (now : Int) (tenantId key requestFingerprint : String)
    : Prop :=
  ∃ record ∈ (s.purge now).record? (tenantId, key), record.requestFingerprint ≠ requestFingerprint

instance (s : SQLiteIdempotencyStore) (now : Int) (tenantId key requestFingerprint : String)
    : Decidable (s.Refuses now tenantId key requestFingerprint) :=
  inferInstanceAs (Decidable (∃ record ∈ (s.purge now).record? (tenantId, key), _))

/-- The store in which a key has been reserved after the purge. -/
def reserved (s : SQLiteIdempotencyStore) (now : Int) (tenantId key requestFingerprint : String)
    : SQLiteIdempotencyStore :=
  {
    s.purge now with
    records :=
      (s.purge now).records.set (tenantId, key) ⟨requestFingerprint, "", .inProgress, now⟩
  }

theorem record?_reserved (s : SQLiteIdempotencyStore) (now : Int)
    (tenantId key requestFingerprint : String) (other : RecordKey)
    : (s.reserved now tenantId key requestFingerprint).record? other
      = if (tenantId, key) = other then
          some ⟨requestFingerprint, "", .inProgress, now⟩
        else
          (s.purge now).record? other :=
  Dict.get?_set _ _ _ _

section Reserve

variable {s : SQLiteIdempotencyStore} {now : Int} {tenantId key requestFingerprint : String}

theorem reserve_refused (refuses : s.Refuses now tenantId key requestFingerprint)
    : s.reserve now tenantId key requestFingerprint
      = (.error (.idempotencyConflict "idempotency key was already used for a different request"),
        s) := by
  obtain ⟨record, found, different⟩ := refuses
  unfold record? at found
  unfold reserve
  dsimp only
  rw [Option.mem_def.mp found]
  exact if_pos different

theorem reserve_found {record : IdempotencyRecord}
    (found : (s.purge now).record? (tenantId, key) = some record)
    (same : record.requestFingerprint = requestFingerprint)
    : s.reserve now tenantId key requestFingerprint
      = (.ok (some ⟨tenantId, key, record.requestFingerprint, record.resultJson, record.status⟩),
        s.purge now) := by
  unfold record? at found
  unfold reserve
  dsimp only
  rw [found]
  exact if_neg (not_not.mpr same)

theorem reserve_free (free : (s.purge now).record? (tenantId, key) = none)
    : s.reserve now tenantId key requestFingerprint
      = (.ok none, s.reserved now tenantId key requestFingerprint) := by
  unfold record? at free
  unfold reserve
  dsimp only
  rw [free]
  rfl

theorem not_refuses_of_free (free : (s.purge now).record? (tenantId, key) = none)
    : ¬ s.Refuses now tenantId key requestFingerprint := by
  rintro ⟨record, found, _⟩
  cases free.symm.trans found

theorem not_refuses_of_same {record : IdempotencyRecord}
    (found : (s.purge now).record? (tenantId, key) = some record)
    (same : record.requestFingerprint = requestFingerprint)
    : ¬ s.Refuses now tenantId key requestFingerprint := by
  rintro ⟨refused, other, different⟩
  obtain rfl := Option.some.inj (found.symm.trans other)
  exact different same

/-- A reservation is refused, or returns the young record of the key, or takes the key. -/
@[elab_as_elim]
theorem reserve_elim
    {motive
      : Except StoreError (Option StoredIdempotencyResult) × SQLiteIdempotencyStore → Prop}
    (refused
      : s.Refuses now tenantId key requestFingerprint
        → motive
            (.error
              (.idempotencyConflict "idempotency key was already used for a different request"),
            s))
    (found
      : ∀ record,
          (s.purge now).record? (tenantId, key) = some record
          → record.requestFingerprint = requestFingerprint
          → motive
              (.ok (some
                ⟨tenantId, key, record.requestFingerprint, record.resultJson, record.status⟩),
              s.purge now))
    (free
      : (s.purge now).record? (tenantId, key) = none
        → motive (.ok none, s.reserved now tenantId key requestFingerprint))
    : motive (s.reserve now tenantId key requestFingerprint) := by
  cases lookup : (s.purge now).record? (tenantId, key) with
  | none =>
      rw [reserve_free lookup]
      exact free lookup
  | some record =>
      by_cases same : record.requestFingerprint = requestFingerprint
      · rw [reserve_found lookup same]
        exact found record lookup same
      · have refuses : s.Refuses now tenantId key requestFingerprint := ⟨record, lookup, same⟩
        rw [reserve_refused refuses]
        exact refused refuses

end Reserve

/-- A reservation returns the young record of the same request, is refused for another
request, or takes a free key.
-/
theorem reserve_cases {s : SQLiteIdempotencyStore} {now : Int} (young : s.Young now)
    (tenantId key requestFingerprint : String)
    : let call := s.reserve now tenantId key requestFingerprint
      (∃ record,
        s.record? (tenantId, key) = some record
        ∧ call.1
          = .ok (some ⟨tenantId, key, record.requestFingerprint, record.resultJson, record.status⟩)
        ∧ call.2.record? = s.record?)
      ∨ (∃ error, call = (.error error, s))
      ∨ s.record? (tenantId, key) = none
        ∧ call.1 = .ok none
        ∧ ∀ other,
            call.2.record? other
            = if (tenantId, key) = other then
                some ⟨requestFingerprint, "", .inProgress, now⟩
              else
                s.record? other := by
  have lookups := record?_purge young
  dsimp only
  refine reserve_elim ?_ ?_ ?_
  · intro _
    exact Or.inr (Or.inl ⟨_, rfl⟩)
  · intro record found _
    refine Or.inl ⟨record, ?_, rfl, funext lookups⟩
    rw [← lookups]
    exact found
  · intro free
    refine Or.inr (Or.inr ⟨?_, rfl, fun other => ?_⟩)
    · rw [← lookups]
      exact free
    · rw [← lookups]
      exact record?_reserved _ _ _ _ _ _

/-- The caller that has a key in progress. -/
def Reserved (s : SQLiteIdempotencyStore) (key : RecordKey) (requestFingerprint : String)
    : Prop :=
  ∃ record,
    s.record? key = some record
    ∧ record.requestFingerprint = requestFingerprint
    ∧ record.status = .inProgress

theorem inProgress?_of_record? {s : SQLiteIdempotencyStore} {tenantId key : String}
    {record : IdempotencyRecord} (found : s.record? (tenantId, key) = some record)
    (status : record.status = .inProgress)
    : s.inProgress? tenantId key record.requestFingerprint = some record := by
  unfold record? at found
  simp [inProgress?, found, status]

/-- The caller that has a key in progress writes its result into the record. -/
theorem complete_record {s : SQLiteIdempotencyStore} {tenantId key : String}
    {record : IdempotencyRecord} (found : s.record? (tenantId, key) = some record)
    (status : record.status = .inProgress) (resultJson : String)
    : let call := s.complete tenantId key record.requestFingerprint resultJson
      call.1 = .ok ⟨tenantId, key, record.requestFingerprint, resultJson, .completed⟩
      ∧ ∀ other,
          call.2.record? other
          = if (tenantId, key) = other then
              some { record with resultJson, status := .completed }
            else
              s.record? other := by
  unfold complete finish
  rw [inProgress?_of_record? found status]
  exact ⟨rfl, fun other => Dict.get?_set _ _ _ _⟩

/-- The caller that has a key in progress completes it. -/
theorem complete_reserved {s : SQLiteIdempotencyStore} {tenantId key requestFingerprint : String}
    (reserved : s.Reserved (tenantId, key) requestFingerprint) (resultJson : String)
    : let call := s.complete tenantId key requestFingerprint resultJson
      call.1 = .ok ⟨tenantId, key, requestFingerprint, resultJson, .completed⟩
      ∧ ∃ record : IdempotencyRecord,
          record.resultJson = resultJson
          ∧ record.status = .completed
          ∧ ∀ other,
              call.2.record? other
              = if (tenantId, key) = other then some record else s.record? other := by
  obtain ⟨record, found, rfl, status⟩ := reserved
  obtain ⟨answer, records⟩ := complete_record found status resultJson
  exact ⟨answer, _, rfl, rfl, records⟩

/-- The caller that has a key in progress frees it. -/
theorem abandon_reserved {s : SQLiteIdempotencyStore} {tenantId key requestFingerprint : String}
    (reserved : s.Reserved (tenantId, key) requestFingerprint) (other : RecordKey)
    : (s.abandon tenantId key requestFingerprint).record? other
      = if (tenantId, key) = other then none else s.record? other := by
  obtain ⟨record, found, rfl, status⟩ := reserved
  unfold abandon
  rw [inProgress?_of_record? found status]
  exact Dict.get?_erase _ _ _

/-- Abandoning takes the record of the key when it is in progress with the fingerprint. -/
theorem record?_abandon (s : SQLiteIdempotencyStore) (tenantId key requestFingerprint : String)
    (other : RecordKey)
    : (s.abandon tenantId key requestFingerprint).record? other
      = if (tenantId, key) = other then
          (s.record? other).filter (fun record =>
            !(record.requestFingerprint = requestFingerprint && record.status = .inProgress))
        else
          s.record? other := by
  unfold abandon
  -- Only a record in progress with this fingerprint is erased
  cases found : s.inProgress? tenantId key requestFingerprint with
  | none =>
      dsimp only
      split
      · rename_i same
        subst same
        unfold inProgress? at found
        unfold record?
        rw [Option.filter_eq_none_iff] at found
        cases lookup : s.records.get? (tenantId, key) with
        | none => rfl
        | some record =>
            have kept := Bool.not_eq_true _ ▸ found record lookup
            rw [Option.filter_some, if_pos (by rw [kept]; rfl)]
      · rfl
  | some record =>
      dsimp only [record?]
      rw [Dict.get?_erase]
      split
      · rename_i same
        subst same
        obtain ⟨lookup, ours⟩ := Option.filter_eq_some_iff.mp found
        rw [lookup, Option.filter_some, if_neg (by simpa using ours)]
      · rfl

theorem record?_of_purge {s : SQLiteIdempotencyStore} {now : Int} {key : RecordKey}
    {record : IdempotencyRecord} (found : (s.purge now).record? key = some record)
    : s.record? key = some record := by
  rw [record?_purge_eq] at found
  exact (Option.filter_eq_some_iff.mp found).1

/-- A reservation writes no terminal record. -/
theorem record?_of_reserve {s : SQLiteIdempotencyStore} {now : Int}
    {tenantId key requestFingerprint : String} {other : RecordKey} {record : IdempotencyRecord}
    (found : (s.reserve now tenantId key requestFingerprint).2.record? other = some record)
    (terminal : record.status ≠ .inProgress)
    : s.record? other = some record := by
  revert found
  refine reserve_elim ?_ ?_ ?_
  · exact fun _ found => found
  · exact fun _ _ _ found => record?_of_purge found
  · intro _ found
    dsimp only at found
    rw [record?_reserved] at found
    split at found
    · obtain rfl := Option.some.inj found
      exact absurd rfl terminal
    · exact record?_of_purge found

/-- Finishing writes one record, and only when it succeeds. -/
theorem record?_of_finish {s : SQLiteIdempotencyStore} {status : RecordStatus}
    {message tenantId key requestFingerprint resultJson : String} {other : RecordKey}
    {record : IdempotencyRecord}
    (found
      : (s.finish status message tenantId key requestFingerprint resultJson).2.record? other
        = some record)
    : s.record? other = some record
      ∨ ((tenantId, key) = other
        ∧ ∃ stored,
            (s.finish status message tenantId key requestFingerprint resultJson).1
            = .ok stored) := by
  unfold finish at found ⊢
  split at found
  · exact Or.inl found
  · replace found := (Dict.get?_set _ _ _ _).symm.trans found
    split at found
    · rename_i own
      exact Or.inr ⟨own, _, rfl⟩
    · exact Or.inl found

@[simp] theorem reserve_retentionSeconds (s : SQLiteIdempotencyStore) (now : Int)
    (tenantId key requestFingerprint : String)
    : (s.reserve now tenantId key requestFingerprint).2.retentionSeconds = s.retentionSeconds := by
  refine reserve_elim ?_ ?_ ?_ <;> intros <;> rfl

@[simp] theorem finish_retentionSeconds (s : SQLiteIdempotencyStore) (status : RecordStatus)
    (message tenantId key requestFingerprint resultJson : String)
    : (s.finish status message tenantId key requestFingerprint resultJson).2.retentionSeconds
      = s.retentionSeconds := by
  unfold finish
  split <;> rfl

@[simp] theorem abandon_retentionSeconds (s : SQLiteIdempotencyStore)
    (tenantId key requestFingerprint : String)
    : (s.abandon tenantId key requestFingerprint).retentionSeconds = s.retentionSeconds := by
  unfold abandon
  split <;> rfl

@[simp] theorem abandon_providerEvents (s : SQLiteIdempotencyStore)
    (tenantId key requestFingerprint : String)
    : (s.abandon tenantId key requestFingerprint).providerEvents = s.providerEvents := by
  unfold abandon
  split <;> rfl

end SQLiteIdempotencyStore

/-- A store, and the time on its clock. -/
structure TimedStore where
  store : SQLiteIdempotencyStore
  now : Int

end PettyFlow.Idempotency
