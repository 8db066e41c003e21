import PettyFlow.Foundation.TwoRuns
import PettyFlow.Idempotency.Store

/-! One tenant's calls of the store, beside the same calls when no other tenant makes any. The
rows of a tenant are its own, but every reservation purges the rows of all tenants.
-/

namespace PettyFlow.Idempotency

open Foundation

inductive StoreCall where
  | reserve (key requestFingerprint : String)
  | complete (key requestFingerprint resultJson : String)
  | fail (key requestFingerprint resultJson : String)
  | abandon (key requestFingerprint : String)
  | claimProviderEvent (provider eventId payloadFingerprint : String)
  | abandonProviderEvent (provider eventId : String)

inductive StoreAnswer where
  | reserved (result : Except StoreError (Option StoredIdempotencyResult))
  | finished (result : Except StoreError StoredIdempotencyResult)
  | claimed (result : Except StoreError Bool)
  | done
deriving DecidableEq

namespace SQLiteIdempotencyStore

/-- Call the method that a tenant asks for. -/
def call (s : SQLiteIdempotencyStore) (now : Int) (tenantId : String)
    : StoreCall → StoreAnswer × SQLiteIdempotencyStore
  | .reserve key requestFingerprint =>
      let (result, s) := s.reserve now tenantId key requestFingerprint
      (.reserved result, s)
  | .complete key requestFingerprint resultJson =>
      let (result, s) := s.complete tenantId key requestFingerprint resultJson
      (.finished result, s)
  | .fail key requestFingerprint resultJson =>
      let (result, s) := s.fail tenantId key requestFingerprint resultJson
      (.finished result, s)
  | .abandon key requestFingerprint => (.done, s.abandon tenantId key requestFingerprint)
  | .claimProviderEvent provider eventId payloadFingerprint =>
      let (result, s) := s.claimProviderEvent now tenantId provider eventId payloadFingerprint
      (.claimed result, s)
  | .abandonProviderEvent provider eventId =>
      (.done, s.abandonProviderEvent tenantId provider eventId)

end SQLiteIdempotencyStore

inductive StoreInput where
  | advance (seconds : Nat)
  | call (tenantId : String) (call : StoreCall)

def storeMachine : Machine TimedStore StoreInput StoreAnswer where
  step s
    | .advance seconds => (.done, { s with now := s.now + seconds })
    | .call tenantId call =>
        let (answer, store) := s.store.call s.now tenantId call
        (answer, { s with store })

/-- What is left of a run when the calls of all other tenants are deleted. -/
def Remains (tenantId : String) : StoreInput → Prop
  | .advance _ => True
  | .call other _ => other = tenantId

instance (tenantId : String) : DecidablePred (Remains tenantId) := fun input =>
  match input with
  | .advance _ => isTrue trivial
  | .call other _ => inferInstanceAs (Decidable (other = tenantId))

/-- Every call of the tenant has the same outcome as when no other tenant makes a call. -/
def Isolated (tenantId : String) (s : TimedStore) (inputs : List StoreInput) : Prop :=
  storeMachine.ownOutputs (Remains tenantId) s inputs
  = storeMachine.ownOutputs (Remains tenantId) s (inputs.filter (Remains tenantId))

instance (tenantId : String) (s : TimedStore) (inputs : List StoreInput)
    : Decidable (Isolated tenantId s inputs) :=
  inferInstanceAs (Decidable (_ = _))

/-- The time before which the last reservation of another tenant has purged all rows. -/
def notePurge (purgedBefore : Option Int) (s : TimedStore) : StoreInput → Option Int
  | .call tenantId (.reserve key requestFingerprint) =>
      if s.store.Refuses s.now tenantId key requestFingerprint then
        purgedBefore
      else
        some (s.now - s.store.retentionSeconds)
  | _ => purgedBefore

/-- A row of that age is not purged. -/
def Spared (purgedBefore : Option Int) (createdAt : Int) : Prop :=
  ∀ time ∈ purgedBefore, time ≤ createdAt

instance (purgedBefore : Option Int) : DecidablePred (Spared purgedBefore) := fun createdAt =>
  inferInstanceAs (Decidable (∀ time ∈ purgedBefore, time ≤ createdAt))

/-- The row that the tenant's call would act on, if no other tenant made a call, was not too
old at the last reservation of another tenant.
-/
def Undisturbed (tenantId : String) (s : TwoRuns TimedStore (Option Int)) : StoreInput → Prop
  | .call other (.complete key requestFingerprint _)
  | .call other (.fail key requestFingerprint _) =>
      other = tenantId
      → ∀ record ∈ s.alone.store.inProgress? tenantId key requestFingerprint,
          Spared s.noted record.createdAt
  | .call other (.claimProviderEvent provider eventId _) =>
      other = tenantId
      → ∀ event ∈ s.alone.store.providerEvents.get? (tenantId, provider, eventId),
          Spared s.noted event.createdAt
  | _ => True

/-- The tenant's rows are those of the run without the other tenants, less the purged ones. -/
structure RowsSpared (tenantId : String) (s : TwoRuns TimedStore (Option Int)) : Prop where
  clock : s.mixed.now = s.alone.now
  retention : s.mixed.store.retentionSeconds = s.alone.store.retentionSeconds
  past : ∀ time ∈ s.noted, time ≤ s.mixed.now - s.mixed.store.retentionSeconds
  records
    : ∀ key,
        s.mixed.store.record? (tenantId, key)
        = (s.alone.store.record? (tenantId, key)).filter (fun record =>
            Spared s.noted record.createdAt)
  events
    : ∀ provider eventId,
        s.mixed.store.providerEvents.get? (tenantId, provider, eventId)
        = (s.alone.store.providerEvents.get? (tenantId, provider, eventId)).filter (fun event =>
            Spared s.noted event.createdAt)

section Rows

variable {υ : Type} {created : υ → Int} {noted : Option Int} {time : Int}

theorem filter_spared {row : Option υ} (spared : ∀ value ∈ row, Spared noted (created value))
    : row.filter (fun value => Spared noted (created value)) = row := by
  cases row with
  | none => rfl
  | some value => simp [Option.filter_some, spared value rfl]

/-- A later purge makes up for the earlier ones. -/
theorem purge_spared (past : ∀ earlier ∈ noted, earlier ≤ time) (row : Option υ)
    : (row.filter (fun value => Spared noted (created value))).filter (fun value =>
        !decide (created value < time))
      = row.filter (fun value => !decide (created value < time)) := by
  cases row with
  | none => rfl
  | some value =>
      by_cases spared : Spared noted (created value)
      · simp [Option.filter_some, spared]
      · -- What the earlier purges took, the later one takes as well
        have old : created value < time := by
          by_contra young
          exact spared (fun earlier member => (past earlier member).trans (not_lt.mp young))
        simp [Option.filter_some, spared, old]

theorem spared_of_purged (past : ∀ earlier ∈ noted, earlier ≤ time) {row : Option υ} {value : υ}
    (kept : value ∈ row.filter (fun value => !decide (created value < time)))
    : Spared noted (created value) := by
  obtain ⟨_, young⟩ := Option.filter_eq_some_iff.mp kept
  intro earlier member
  have := past earlier member
  simp at young
  omega

theorem filter_purged (row : Option υ)
    : row.filter (fun value => !decide (created value < time))
      = row.filter (fun value => Spared (some time) (created value)) := by
  cases row with
  | none => rfl
  | some value => simp [Option.filter_some, Spared]

end Rows

namespace RowsSpared

variable {tenantId : String} {s : TwoRuns TimedStore (Option Int)}

theorem refl (tenantId : String) (s : TimedStore) : RowsSpared tenantId ⟨s, s, none⟩ where
  clock := rfl
  retention := rfl
  past := nofun
  records _ := (filter_spared nofun).symm
  events _ _ := (filter_spared nofun).symm

/-- After a purge in both runs the tenant's records are the same. -/
theorem record?_purge (rows : RowsSpared tenantId s) (key : String)
    : (s.mixed.store.purge s.mixed.now).record? (tenantId, key)
      = (s.alone.store.purge s.alone.now).record? (tenantId, key) := by
  rw [SQLiteIdempotencyStore.record?_purge_eq, SQLiteIdempotencyStore.record?_purge_eq,
    rows.records, ← rows.clock, ← rows.retention]
  exact purge_spared rows.past _

theorem inProgress? (rows : RowsSpared tenantId s) (key requestFingerprint : String)
    : s.mixed.store.inProgress? tenantId key requestFingerprint
      = (s.alone.store.inProgress? tenantId key requestFingerprint).filter (fun record =>
          Spared s.noted record.createdAt) := by
  have same := rows.records key
  unfold SQLiteIdempotencyStore.record? at same
  unfold SQLiteIdempotencyStore.inProgress?
  rw [same]
  cases s.alone.store.records.get? (tenantId, key) with
  | none => rfl
  | some record =>
      simp only [Option.filter_some]
      split <;> split <;> simp_all [Option.filter_some]

/-- A record written now is young, and in both runs it is the same. -/
theorem set_record (rows : RowsSpared tenantId s) (key : String) (record : IdempotencyRecord)
    (spared : Spared s.noted record.createdAt)
    : RowsSpared tenantId
        ⟨
          {
            s.mixed with
            store :=
              {
                s.mixed.store with
                records := s.mixed.store.records.set (tenantId, key) record
              }
          },
          {
            s.alone with
            store :=
              {
                s.alone.store with
                records := s.alone.store.records.set (tenantId, key) record
              }
          },
          s.noted
        ⟩ where
  clock := rows.clock
  retention := rows.retention
  past := rows.past
  records other := by
    have same := rows.records other
    unfold SQLiteIdempotencyStore.record? at same ⊢
    rw [Dict.get?_set, Dict.get?_set]
    split
    · simp [Option.filter_some, spared]
    · exact same
  events := rows.events

/-- What is written now is spared by every purge up to now. -/
theorem spared_now (rows : RowsSpared tenantId s) : Spared s.noted s.mixed.now := by
  intro time member
  have := rows.past time member
  have := s.mixed.store.retentionPositive
  omega

/-- A purge in both runs. -/
theorem purged (rows : RowsSpared tenantId s)
    : RowsSpared tenantId
        ⟨
          { s.mixed with store := s.mixed.store.purge s.mixed.now },
          { s.alone with store := s.alone.store.purge s.alone.now },
          s.noted
        ⟩ where
  clock := rows.clock
  retention := rows.retention
  past := rows.past
  records key := by
    change (s.mixed.store.purge s.mixed.now).record? (tenantId, key) = _
    rw [rows.record?_purge]
    refine (filter_spared (fun record kept => ?_)).symm
    rw [SQLiteIdempotencyStore.record?_purge_eq, ← rows.clock, ← rows.retention] at kept
    exact spared_of_purged rows.past kept
  events provider eventId := by
    have mixedPurge :=
      Dict.get?_filter s.mixed.store.providerEvents
        (fun _ event => !decide (event.createdAt < s.mixed.now - s.mixed.store.retentionSeconds))
        (tenantId, provider, eventId)
    have alonePurge :=
      Dict.get?_filter s.alone.store.providerEvents
        (fun _ event => !decide (event.createdAt < s.alone.now - s.alone.store.retentionSeconds))
        (tenantId, provider, eventId)
    change (s.mixed.store.purge s.mixed.now).providerEvents.get? _ = _ at mixedPurge
    change (s.alone.store.purge s.alone.now).providerEvents.get? _ = _ at alonePurge
    dsimp only
    rw [mixedPurge, alonePurge, rows.events, ← rows.clock, ← rows.retention,
      purge_spared rows.past]
    exact (filter_spared (fun event kept => spared_of_purged rows.past kept)).symm

/-- A reservation of the tenant has the same outcome in both runs. -/
theorem reserve (rows : RowsSpared tenantId s) (key requestFingerprint : String)
    : let mixed := s.mixed.store.reserve s.mixed.now tenantId key requestFingerprint
      let alone := s.alone.store.reserve s.alone.now tenantId key requestFingerprint
      mixed.1 = alone.1
      ∧ RowsSpared tenantId
          ⟨{ s.mixed with store := mixed.2 }, { s.alone with store := alone.2 }, s.noted⟩ := by
  obtain ⟨⟨mixed, now⟩, ⟨alone, aloneNow⟩, noted⟩ := s
  obtain rfl : now = aloneNow := rows.clock
  dsimp only
  -- The tenant's own purge takes all that an earlier one of another tenant took
  cases lookup : (alone.purge now).record? (tenantId, key) with
  | none =>
      rw [SQLiteIdempotencyStore.reserve_free lookup,
        SQLiteIdempotencyStore.reserve_free ((rows.record?_purge key).trans lookup)]
      exact ⟨rfl, rows.purged.set_record key ⟨requestFingerprint, "", .inProgress, now⟩
        rows.spared_now⟩
  | some record =>
      have mixedLookup := (rows.record?_purge key).trans lookup
      by_cases same : record.requestFingerprint = requestFingerprint
      · rw [SQLiteIdempotencyStore.reserve_found lookup same,
          SQLiteIdempotencyStore.reserve_found mixedLookup same]
        exact ⟨rfl, rows.purged⟩
      · rw [SQLiteIdempotencyStore.reserve_refused ⟨record, lookup, same⟩,
          SQLiteIdempotencyStore.reserve_refused ⟨record, mixedLookup, same⟩]
        exact ⟨rfl, rows⟩

/-- Completing and failing have the same outcome exactly when the record is spared. -/
theorem finish_agrees (rows : RowsSpared tenantId s) (status : RecordStatus)
    (message key requestFingerprint resultJson : String)
    : (s.mixed.store.finish status message tenantId key requestFingerprint resultJson).1
        = (s.alone.store.finish status message tenantId key requestFingerprint resultJson).1
      ↔ ∀ record ∈ s.alone.store.inProgress? tenantId key requestFingerprint,
          Spared s.noted record.createdAt := by
  unfold SQLiteIdempotencyStore.finish
  rw [rows.inProgress?]
  cases s.alone.store.inProgress? tenantId key requestFingerprint with
  | none => exact iff_of_true rfl nofun
  | some record =>
      by_cases spared : Spared s.noted record.createdAt
      · simp [Option.filter_some, spared]
      · -- A purged record is not in progress, and the call raises
        simp [Option.filter_some, spared]

theorem finish (rows : RowsSpared tenantId s) (status : RecordStatus)
    (message key requestFingerprint resultJson : String)
    (spared
      : ∀ record ∈ s.alone.store.inProgress? tenantId key requestFingerprint,
          Spared s.noted record.createdAt)
    : let mixed := s.mixed.store.finish status message tenantId key requestFingerprint resultJson
      let alone := s.alone.store.finish status message tenantId key requestFingerprint resultJson
      RowsSpared tenantId
        ⟨{ s.mixed with store := mixed.2 }, { s.alone with store := alone.2 }, s.noted⟩ := by
  have mixedRecord := rows.inProgress? key requestFingerprint
  rw [filter_spared spared] at mixedRecord
  unfold SQLiteIdempotencyStore.finish
  dsimp only
  cases found : s.alone.store.inProgress? tenantId key requestFingerprint with
  | none =>
      rw [mixedRecord.trans found]
      exact rows
  | some record =>
      rw [mixedRecord.trans found]
      exact rows.set_record key { record with resultJson, status } (spared record found)

/-- Abandoning takes the same record in both runs, if it is still there. -/
theorem abandon (rows : RowsSpared tenantId s) (key requestFingerprint : String)
    : RowsSpared tenantId
        ⟨
          { s.mixed with store := s.mixed.store.abandon tenantId key requestFingerprint },
          { s.alone with store := s.alone.store.abandon tenantId key requestFingerprint },
          s.noted
        ⟩ where
  clock := rows.clock
  retention := by simpa using rows.retention
  past := by simpa using rows.past
  records other := by
    dsimp only
    rw [SQLiteIdempotencyStore.record?_abandon, SQLiteIdempotencyStore.record?_abandon,
      rows.records]
    split
    · rw [Option.filter_filter, Option.filter_filter]
      simp only [Bool.and_comm]
    · rfl
  events := by simpa using rows.events

theorem claim_agrees (rows : RowsSpared tenantId s) (provider eventId payloadFingerprint : String)
    : (s.mixed.store.claimProviderEvent s.mixed.now tenantId provider eventId
          payloadFingerprint).1
        = (s.alone.store.claimProviderEvent s.alone.now tenantId provider eventId
          payloadFingerprint).1
      ↔ ∀ event ∈ s.alone.store.providerEvents.get? (tenantId, provider, eventId),
          Spared s.noted event.createdAt := by
  unfold SQLiteIdempotencyStore.claimProviderEvent
  rw [rows.events]
  cases s.alone.store.providerEvents.get? (tenantId, provider, eventId) with
  | none => exact iff_of_true rfl nofun
  | some event =>
      by_cases spared : Spared s.noted event.createdAt
      · simp only [Option.filter_some, spared, decide_true, if_true]
        refine iff_of_true ?_ (fun other same => ?_)
        · split <;> rfl
        · rwa [← Option.some.inj same]
      · -- The event is claimed anew where it was purged
        simp only [Option.filter_some, spared, decide_false]
        refine iff_of_false ?_ (fun all => spared (all event rfl))
        rw [if_neg Bool.false_ne_true]
        dsimp only
        split <;> simp

theorem claim (rows : RowsSpared tenantId s) (provider eventId payloadFingerprint : String)
    (spared
      : ∀ event ∈ s.alone.store.providerEvents.get? (tenantId, provider, eventId),
          Spared s.noted event.createdAt)
    : let mixed :=
        s.mixed.store.claimProviderEvent s.mixed.now tenantId provider eventId payloadFingerprint
      let alone :=
        s.alone.store.claimProviderEvent s.alone.now tenantId provider eventId payloadFingerprint
      RowsSpared tenantId
        ⟨{ s.mixed with store := mixed.2 }, { s.alone with store := alone.2 }, s.noted⟩ := by
  obtain ⟨⟨mixed, now⟩, ⟨alone, aloneNow⟩, noted⟩ := s
  obtain rfl : now = aloneNow := rows.clock
  -- The tenant finds its event in both stores or in neither
  have mixedEvent := rows.events provider eventId
  rw [filter_spared spared] at mixedEvent
  dsimp only at mixedEvent ⊢
  unfold SQLiteIdempotencyStore.claimProviderEvent
  cases found : alone.providerEvents.get? (tenantId, provider, eventId) with
  | none =>
      rw [mixedEvent.trans found]
      refine ⟨rfl, rows.retention, rows.past, rows.records, fun other otherEvent => ?_⟩
      have same := rows.events other otherEvent
      dsimp only at same ⊢
      rw [Dict.get?_set, Dict.get?_set]
      split
      · simp [Option.filter_some, rows.spared_now]
      · exact same
  | some event =>
      rw [mixedEvent.trans found]
      dsimp only
      split <;> exact rows

theorem abandonEvent (rows : RowsSpared tenantId s) (provider eventId : String)
    : RowsSpared tenantId
        ⟨
          { s.mixed with store := s.mixed.store.abandonProviderEvent tenantId provider eventId },
          { s.alone with store := s.alone.store.abandonProviderEvent tenantId provider eventId },
          s.noted
        ⟩ where
  clock := rows.clock
  retention := rows.retention
  past := rows.past
  records := rows.records
  events other otherEvent := by
    have same := rows.events other otherEvent
    dsimp only [SQLiteIdempotencyStore.abandonProviderEvent] at same ⊢
    rw [Dict.get?_erase, Dict.get?_erase]
    split
    · rfl
    · exact same

/-- A row of another tenant has another key. -/
theorem foreignKey_ne {κ : Type} {other tenantId : String} (foreign : other ≠ tenantId)
    (key ownKey : κ)
    : (other, key) ≠ (tenantId, ownKey) :=
  fun same => foreign (congrArg Prod.fst same)

/-- A change of the store that leaves the tenant's rows alone. -/
theorem frame (rows : RowsSpared tenantId s) {store : SQLiteIdempotencyStore}
    (retention : store.retentionSeconds = s.mixed.store.retentionSeconds)
    (records : ∀ key, store.record? (tenantId, key) = s.mixed.store.record? (tenantId, key))
    (events
      : ∀ provider eventId,
          store.providerEvents.get? (tenantId, provider, eventId)
          = s.mixed.store.providerEvents.get? (tenantId, provider, eventId))
    : RowsSpared tenantId ⟨{ s.mixed with store }, s.alone, s.noted⟩ where
  clock := rows.clock
  retention := retention.trans rows.retention
  past := by simpa only [retention] using rows.past
  records key := (records key).trans (rows.records key)
  events provider eventId := (events provider eventId).trans (rows.events provider eventId)

/-- A reservation of another tenant that goes through purges the tenant's rows. -/
theorem foreign_reserve (rows : RowsSpared tenantId s) {other : String} (foreign : other ≠ tenantId)
    (key requestFingerprint : String)
    : let noted := notePurge s.noted s.mixed (.call other (.reserve key requestFingerprint))
      let call := s.mixed.store.reserve s.mixed.now other key requestFingerprint
      RowsSpared tenantId ⟨{ s.mixed with store := call.2 }, s.alone, noted⟩ := by
  -- The purge of another tenant is noted, as it may take records of this one
  have purged
      : RowsSpared tenantId
          ⟨
            { s.mixed with store := s.mixed.store.purge s.mixed.now },
            s.alone,
            some (s.mixed.now - s.mixed.store.retentionSeconds)
          ⟩ := by
    refine ⟨rows.clock, rows.retention, ?_, fun own => ?_, fun provider eventId => ?_⟩
    · intro time member
      exact le_of_eq (Option.some.inj member).symm
    · dsimp only
      rw [SQLiteIdempotencyStore.record?_purge_eq, rows.records, purge_spared rows.past,
        filter_purged]
    · refine (Dict.get?_filter _ _ _).trans ?_
      rw [rows.events, purge_spared rows.past, filter_purged]
  dsimp only [notePurge]
  cases lookup : (s.mixed.store.purge s.mixed.now).record? (other, key) with
  | none =>
      rw [if_neg (SQLiteIdempotencyStore.not_refuses_of_free lookup),
        SQLiteIdempotencyStore.reserve_free lookup]
      refine purged.frame rfl (fun own => ?_) (fun _ _ => rfl)
      exact Dict.get?_set_ne _ _ (foreignKey_ne foreign _ _)
  | some record =>
      by_cases same : record.requestFingerprint = requestFingerprint
      · rw [if_neg (SQLiteIdempotencyStore.not_refuses_of_same lookup same),
          SQLiteIdempotencyStore.reserve_found lookup same]
        exact purged
      · -- A conflict rolls the purge back, so it is not noted
        have refuses : s.mixed.store.Refuses s.mixed.now other key requestFingerprint :=
          ⟨record, lookup, same⟩
        rw [if_pos refuses, SQLiteIdempotencyStore.reserve_refused refuses]
        exact rows

theorem foreign_finish (rows : RowsSpared tenantId s) {other : String} (foreign : other ≠ tenantId)
    (status : RecordStatus) (message key requestFingerprint resultJson : String)
    : let call := s.mixed.store.finish status message other key requestFingerprint resultJson
      RowsSpared tenantId ⟨{ s.mixed with store := call.2 }, s.alone, s.noted⟩ := by
  unfold SQLiteIdempotencyStore.finish
  cases s.mixed.store.inProgress? other key requestFingerprint with
  | none => exact rows
  | some record =>
      refine rows.frame rfl (fun own => ?_) (fun _ _ => rfl)
      exact Dict.get?_set_ne _ _ (foreignKey_ne foreign _ _)

/-- A step of another tenant keeps the relation, by cases on its call. -/
theorem foreign_step (rows : RowsSpared tenantId s) {input : StoreInput}
    (foreign : ¬ Remains tenantId input)
    : Undisturbed tenantId s input
      ∧ RowsSpared tenantId
          ((storeMachine.twoRuns (Remains tenantId) notePurge).step s input).2 := by
  rw [Machine.twoRuns_foreign foreign]
  cases input with
  | advance seconds => exact absurd trivial foreign
  | call other call =>
      have foreign : other ≠ tenantId := foreign
      cases call with
      | reserve key requestFingerprint =>
          exact ⟨trivial, rows.foreign_reserve foreign key requestFingerprint⟩
      | complete key requestFingerprint resultJson =>
          exact ⟨fun own => absurd own foreign, rows.foreign_finish foreign _ _ _ _ _⟩
      | fail key requestFingerprint resultJson =>
          exact ⟨fun own => absurd own foreign, rows.foreign_finish foreign _ _ _ _ _⟩
      | abandon key requestFingerprint =>
          -- The record that goes is filed under another tenant
          refine ⟨trivial, rows.frame (by simp) (fun own => ?_) (fun _ _ => by simp)⟩
          rw [SQLiteIdempotencyStore.record?_abandon, if_neg (foreignKey_ne foreign _ _)]
      | claimProviderEvent provider eventId payloadFingerprint =>
          refine ⟨fun own => absurd own foreign, ?_⟩
          dsimp only [storeMachine, SQLiteIdempotencyStore.call]
          unfold SQLiteIdempotencyStore.claimProviderEvent
          cases s.mixed.store.providerEvents.get? (other, provider, eventId) with
          | none =>
              refine rows.frame rfl (fun _ => rfl) (fun _ _ => ?_)
              exact Dict.get?_set_ne _ _ (foreignKey_ne foreign _ _)
          | some event =>
              dsimp only
              split <;> exact rows
      | abandonProviderEvent provider eventId =>
          refine ⟨trivial, rows.frame rfl (fun _ => rfl) (fun _ _ => ?_)⟩
          dsimp only [SQLiteIdempotencyStore.abandonProviderEvent]
          rw [Dict.get?_erase, if_neg (foreignKey_ne foreign _ _)]

/-- A call of the tenant has the same outcome in both runs exactly when it is undisturbed. -/
theorem own_agrees (rows : RowsSpared tenantId s) {input : StoreInput}
    (own : Remains tenantId input)
    : (storeMachine.step s.mixed input).1 = (storeMachine.step s.alone input).1
      ↔ Undisturbed tenantId s input := by
  cases input with
  | advance seconds => exact iff_of_true rfl trivial
  | call other call =>
      obtain rfl : other = tenantId := own
      cases call with
      | reserve key requestFingerprint =>
          exact iff_of_true
            (congrArg StoreAnswer.reserved (rows.reserve key requestFingerprint).1) trivial
      | complete key requestFingerprint resultJson =>
          refine StoreAnswer.finished.injEq _ _ ▸ (rows.finish_agrees _ _ _ _ _).trans ?_
          exact ⟨fun spared _ => spared, fun spared => spared rfl⟩
      | fail key requestFingerprint resultJson =>
          refine StoreAnswer.finished.injEq _ _ ▸ (rows.finish_agrees _ _ _ _ _).trans ?_
          exact ⟨fun spared _ => spared, fun spared => spared rfl⟩
      | abandon key requestFingerprint => exact iff_of_true rfl trivial
      | claimProviderEvent provider eventId payloadFingerprint =>
          refine StoreAnswer.claimed.injEq _ _ ▸ (rows.claim_agrees _ _ _).trans ?_
          exact ⟨fun spared _ => spared, fun spared => spared rfl⟩
      | abandonProviderEvent provider eventId => exact iff_of_true rfl trivial

/-- An undisturbed step of the tenant keeps the relation, by cases on its call. -/
theorem own_step (rows : RowsSpared tenantId s) {input : StoreInput}
    (own : Remains tenantId input) (undisturbed : Undisturbed tenantId s input)
    : RowsSpared tenantId ((storeMachine.twoRuns (Remains tenantId) notePurge).step s input).2 := by
  rw [Machine.twoRuns_own own]
  cases input with
  | advance seconds =>
      refine ⟨congrArg (· + (seconds : Int)) rows.clock, rows.retention, fun time member => ?_,
        rows.records, rows.events⟩
      have := rows.past time member
      dsimp only [storeMachine]
      omega
  | call other call =>
      obtain rfl : other = tenantId := own
      cases call with
      | reserve key requestFingerprint => exact (rows.reserve key requestFingerprint).2
      | complete key requestFingerprint resultJson =>
          exact rows.finish _ _ _ _ _ (undisturbed rfl)
      | fail key requestFingerprint resultJson => exact rows.finish _ _ _ _ _ (undisturbed rfl)
      | abandon key requestFingerprint => exact rows.abandon key requestFingerprint
      | claimProviderEvent provider eventId payloadFingerprint =>
          exact rows.claim _ _ _ (undisturbed rfl)
      | abandonProviderEvent provider eventId => exact rows.abandonEvent provider eventId

end RowsSpared

/-- A tenant's calls have the same outcomes without the calls of all other tenants exactly
when no other tenant's reservation has purged a row that the tenant then completes, fails, or
claims again.
-/
theorem answers_isolated_iff (tenantId : String) (s : TimedStore) (inputs : List StoreInput)
    : Isolated tenantId s inputs
      ↔ (storeMachine.twoRuns (Remains tenantId) notePurge).Admits (Undisturbed tenantId)
          ⟨s, s, none⟩ inputs :=
  Machine.ownOutputs_eq_iff
    (fun _ _ rows foreign => RowsSpared.foreign_step rows foreign)
    (fun _ _ rows own => RowsSpared.own_agrees rows own)
    (fun _ _ rows own undisturbed => RowsSpared.own_step rows own undisturbed)
    (RowsSpared.refl tenantId s) inputs

section Sample

theorem weekPositive : (0 : Int) < 604800 := by decide

/-- A provider repeats an event of one tenant after eight days; on the seventh day and a
second, another tenant has made its first payment.
-/
def lateReplay : List StoreInput :=
  [
    .call "TENANT-ORG" (.claimProviderEvent "bank" "evt-1" "9f"),
    .advance 604801,
    .call "TENANT-ORG-2" (.reserve "key-1" "3c"),
    .advance 86399,
    .call "TENANT-ORG" (.claimProviderEvent "bank" "evt-1" "9f")
  ]

/-- The replay is claimed as a new event because of the other tenant's payment. -/
theorem late_replay_claimed
    : let s : TimedStore := ⟨⟨604800, .empty, .empty, weekPositive⟩, 0⟩
      storeMachine.ownOutputs (Remains "TENANT-ORG") s lateReplay
        = [.claimed (.ok true), .done, .done, .claimed (.ok true)]
      ∧ storeMachine.ownOutputs (Remains "TENANT-ORG") s
          (lateReplay.filter (Remains "TENANT-ORG"))
        = [.claimed (.ok true), .done, .done, .claimed (.ok false)]
      ∧ ¬ Isolated "TENANT-ORG" s lateReplay := by
  decide +kernel

end Sample

end PettyFlow.Idempotency
