import PettyFlow.Foundation.JsonRoundTrip
import PettyFlow.Wallet.SingleOwner

/-! Workers that also write to one audit log. A call appends its event in a step of its own,
after the step that the event is about.
-/

namespace PettyFlow.Wallet

open Foundation Audit Idempotency

/-- The events that a disbursement appends to the audit log. -/
inductive DisbursementEvent where
  | idempotencyConflict (error : StoreError)
  | resultReused
  | downstreamFailure (error : PaymentError)
  | canonicalResult (result : FloatDisbursementResult)

namespace DisbursementEvent

def eventType : DisbursementEvent → String
  | idempotencyConflict _ => "DISBURSEMENT_IDEMPOTENCY_CONFLICT"
  | resultReused => "DISBURSEMENT_RESULT_REUSED"
  | downstreamFailure _ => "DISBURSEMENT_DOWNSTREAM_FAILURE"
  | canonicalResult _ => "DISBURSEMENT_CANONICAL_RESULT"

def payload (request : FloatDisbursementRequest) : DisbursementEvent → List (String × Json)
  | idempotencyConflict error =>
      [("idempotency_key", .str request.idempotencyKey), ("error", .str error.message)]
  | resultReused => [("idempotency_key", .str request.idempotencyKey)]
  | downstreamFailure error =>
      [("idempotency_key", .str request.idempotencyKey), ("error", .str error.message)]
  | canonicalResult result =>
      [
        ("idempotency_key", .str request.idempotencyKey),
        ("disbursement_id", .str result.disbursementId),
        ("status", .str result.status)
      ]

end DisbursementEvent

/-- The event that is due after a step which has ended the work of a call. A call whose request or
result cannot be written, or whose key is in progress elsewhere, appends none.
-/
def dueEvent? : WorkerPhase → WorkerAnswer → Option DisbursementEvent
  | .idle, .finished _ (.error (.store error)) => some (.idempotencyConflict error)
  | .idle, .finished _ (.error (.valueError _)) => none
  | .idle, .finished _ (.error (.idempotencyInProgress _)) => none
  | .idle, .finished _ _ => some .resultReused
  | .refused _ error, .finished _ _ => some (.downstreamFailure error)
  | .paid _ _ _ _, .finished _ (.ok result) => some (.canonicalResult result)
  | _, _ => none

structure AuditedBackends where
  backends : Backends
  auditLogger : WORMAuditLogger

/-- A worker does the work of its call, or has an event to append before the call is over. -/
inductive AuditedPhase where
  | working (phase : WorkerPhase)
  | auditing (request : FloatDisbursementRequest) (event : DisbursementEvent)
      (outcome : Except ManagerError FloatDisbursementResult)

inductive AuditedAction where
  | work (action : WorkerAction)
  | audit (draw : Draw)
  | unfiled (message : String)

/-- One atomic step of one worker. A worker that cannot file the result that it has completed
raises, and never appends its event.
-/
def auditedAct (digests : Digests) (hmac : Bytes → Bytes → Bytes) (s : AuditedBackends)
    : AuditedPhase → AuditedAction → WorkerAnswer × AuditedBackends × AuditedPhase
  | .working phase, .work action =>
      let (answer, backends, next) := workerAct digests s.backends phase action
      match answer, dueEvent? phase answer with
      | .finished request outcome, some event =>
          (.underway, { s with backends }, .auditing request event outcome)
      | answer, _ => (answer, { s with backends }, .working next)
  | .auditing request event outcome, .audit draw =>
      let (_, auditLogger) :=
        s.auditLogger.appendEvent hmac draw request.tenantId event.eventType "system"
          (.obj (event.payload request))
      (.finished request outcome, { s with auditLogger }, .working .idle)
  | .auditing request (.canonicalResult _) _, .unfiled message =>
      (.finished request (.error (.overflowError message)), s, .working .idle)
  | phase, _ => (.notReady, s, phase)

/-- The workers of a type, any number of them. -/
abbrev AuditedWorkers (W : Type) := Pool W AuditedBackends AuditedPhase

def auditedMachine (digests : Digests) (hmac : Bytes → Bytes → Bytes) (W : Type) [DecidableEq W]
    : Machine (AuditedWorkers W) (W × AuditedAction) WorkerAnswer :=
  Pool.machine (auditedAct digests hmac)

/-- Nobody has started a call yet. -/
def AuditedWorkers.opened {W : Type} (shared : AuditedBackends) : AuditedWorkers W :=
  ⟨shared, fun _ => .working .idle⟩

/-- The idempotency key that an entry of the log is about. -/
def entryKey? (entry : AuditEntry) : Option String :=
  ((Json.loads entry.payloadJson).bind (Json.member? "idempotency_key")).bind Json.str?

/-- Every entry that reports a result as reused comes after one that reports it as canonical. -/
def ReusesFollow (entries : List AuditEntry) : Prop :=
  ∀ earlier entry later,
    entries = earlier ++ entry :: later
    → entry.eventType = "DISBURSEMENT_RESULT_REUSED"
    → ∀ key,
        entryKey? entry = some key
        → ∃ canonical ∈ earlier,
            canonical.eventType = "DISBURSEMENT_CANONICAL_RESULT" ∧ entryKey? canonical = some key

/-- The log reports a canonical result of the key. -/
def AuditedBackends.Reports (s : AuditedBackends) (key : RecordKey) : Prop :=
  ∃ entry ∈ s.auditLogger.getEntries key.1,
    entry.eventType = "DISBURSEMENT_CANONICAL_RESULT" ∧ entryKey? entry = some key.2

/-- In every log the reuses come after the canonical results, and the log of its tenant reports
every record that is no longer in progress.
-/
structure AuditedBackends.InOrder (s : AuditedBackends) : Prop where
  follow : ∀ tenantId, ReusesFollow (s.auditLogger.getEntries tenantId)
  reports
    : ∀ key record,
        s.backends.store.record? key = some record
        → record.status ≠ .inProgress
        → s.Reports key

/-- The key whose record the worker has completed, until it appends the canonical result. -/
def AuditedPhase.unlogged? : AuditedPhase → Option RecordKey
  | .auditing request (.canonicalResult _) _ => some request.recordKey
  | _ => none

/-- The key whose reuse the worker appends. -/
def AuditedPhase.reuse? : AuditedPhase → AuditedAction → Option RecordKey
  | .auditing request .resultReused _, .audit _ => some request.recordKey
  | _, _ => none

/-- The key whose record the worker has completed, and whose result it cannot file. -/
def AuditedPhase.lost? : AuditedPhase → AuditedAction → Option RecordKey
  | .auditing request (.canonicalResult _) _, .unfiled _ => some request.recordKey
  | _, _ => none

/-- A worker that appends the reuse of a result finds no worker that has completed a record of
the key and has yet to append its canonical event, and every completed result is filed.
-/
def ReusesLogged {W : Type} (s : AuditedWorkers W) (input : W × AuditedAction) : Prop :=
  (∀ key ∈ (s.phase input.1).reuse? input.2, ∀ worker, (s.phase worker).unlogged? ≠ some key)
  ∧ (s.phase input.1).lost? input.2 = none

instance {W : Type} [Fintype W] (s : AuditedWorkers W) (input : W × AuditedAction)
    : Decidable (ReusesLogged s input) :=
  inferInstanceAs
    (Decidable
      ((∀ key ∈ (s.phase input.1).reuse? input.2,
        ∀ worker, (s.phase worker).unlogged? ≠ some key)
      ∧ (s.phase input.1).lost? input.2 = none))

section SingleCall

variable (digests : Digests) (hmac : Bytes → Bytes → Bytes) (s : DisbursementManager)
  (draw : DisburseDraw) (request : FloatDisbursementRequest)

/-- The last step of a call: it appends the event that is due, unless the result cannot be filed
before that.
-/
def lastAction : AuditedAction :=
  match draw.filedAt.addSeconds s.idempotencyTtlSeconds with
  | .ok _ => .audit draw.audit
  | .error message => .unfiled message

/-- The steps of one call, taken without a pause: they leave what the manager's method leaves,
in the adapters, the store and the log, and one of them answers what the method answers. Only
the result of a payment is filed.
-/
theorem disburseFloat_audited_steps
    : let call := s.disburseFloat digests hmac draw request
      let act := auditedAct digests hmac
      let reserved :=
        act ⟨s.backends, s.auditLogger⟩ (.working .idle)
          (.work (.reserve request draw.storeTime))
      let paid := act reserved.2.1 reserved.2.2 (.work (.pay draw.payment))
      let settled := act paid.2.1 paid.2.2 (.work .settle)
      let last := if settled.2.2.unlogged?.isSome then lastAction s draw else .audit draw.audit
      let audited := act settled.2.1 settled.2.2 last
      audited.2 = (⟨call.2.backends, call.2.auditLogger⟩, .working .idle)
      ∧ .finished request call.1 ∈ [reserved.1, paid.1, settled.1, audited.1] := by
  by_cases printable : request.Printable
  swap
  · rw [DisbursementManager.disburseFloat_unprintable digests hmac s draw printable]
    simp [auditedAct, workerAct, request.fingerprint_unprintable digests printable, dueEvent?,
      AuditedPhase.unlogged?]
  rw [DisbursementManager.disburseFloat_printable digests hmac s draw printable]
  have known := request.fingerprint_payload digests printable
  unfold DisbursementManager.disburseAs
  -- The cases are those of the method: the reservation, the payment, the completion, the filing
  cases reserve : s.backends.store.getOrReserve draw.storeTime request.tenantId
      request.idempotencyKey (request.fingerprint digests) none with
  | mk answer store =>
  cases answer with
  | error error =>
      simp [auditedAct, workerAct, known, reserveKey, reserve, dueEvent?, AuditedPhase.unlogged?,
        DisbursementManager.log, DisbursementManager.withStore, DisbursementEvent.eventType,
        DisbursementEvent.payload]
  | ok found =>
  cases found with
  | some stored =>
      by_cases underway : stored.status = .inProgress
      · simp [auditedAct, workerAct, known, reserveKey, reserve, dueEvent?, storedAnswer, underway,
          AuditedPhase.unlogged?, DisbursementManager.reuse, DisbursementManager.withStore]
      · cases described : resultOfText stored.resultJson <;>
          simp [auditedAct, workerAct, known, reserveKey, reserve, dueEvent?, storedAnswer, underway, described,
            orRaise, AuditedPhase.unlogged?, DisbursementManager.reuse, DisbursementManager.log,
            DisbursementManager.withStore, DisbursementEvent.eventType,
            DisbursementEvent.payload]
  | none =>
  cases payment : { s.backends with store }.pay digests draw.payment request with
  | mk answer after =>
  cases answer with
  | error error =>
      simp [auditedAct, workerAct, known, reserveKey, reserve, payment, dueEvent?, AuditedPhase.unlogged?,
        DisbursementManager.log, DisbursementManager.withStore, DisbursementEvent.eventType,
        DisbursementEvent.payload]
  | ok result =>
      cases written : resultText result with
      | none =>
          simp [auditedAct, workerAct, known, reserveKey, reserve, payment, afterPayment_none written, written,
            dueEvent?, AuditedPhase.unlogged?, DisbursementManager.withStore,
            DisbursementManager.finish]
      | some text =>
          cases complete : after.store.complete request.tenantId request.idempotencyKey
              (request.fingerprint digests) text with
          | mk answer completed =>
          cases answer with
          | error error =>
              simp [auditedAct, workerAct, known, reserveKey, reserve, payment, afterPayment_some written, written,
                complete, dueEvent?, AuditedPhase.unlogged?, DisbursementManager.withStore,
                DisbursementManager.finish]
          | ok stored =>
              cases filed : draw.filedAt.addSeconds s.idempotencyTtlSeconds <;>
                simp [auditedAct, workerAct, known, reserveKey, reserve, payment, afterPayment_some written, written,
                  complete, filed, lastAction, dueEvent?, AuditedPhase.unlogged?,
                  DisbursementManager.withStore, DisbursementManager.finish,
                  DisbursementManager.log, DisbursementManager.recordIdempotentResult,
                  DisbursementEvent.eventType, DisbursementEvent.payload]

end SingleCall

section Work

variable {digests : Digests} {s : Backends}

theorem reserve_store (request : FloatDisbursementRequest) (now : Int)
    : (workerAct digests s .idle (.reserve request now)).2.1.store = s.store
      ∨ (workerAct digests s .idle (.reserve request now)).2.1.store
        = (s.store.reserve now request.tenantId request.idempotencyKey
            (request.fingerprint digests)).2 := by
  by_cases printable : request.Printable
  · right
    rw [workerAct_reserve_printable digests s printable]
    simp only [reserveKey, SQLiteIdempotencyStore.getOrReserve]
    split <;> rename_i same <;> rw [same]
  · left
    rw [workerAct_reserve_unprintable digests s printable]

theorem pay_store (request : FloatDisbursementRequest) (draw : PaymentDraw)
    : (workerAct digests s (.reserved request) (.pay draw)).2.1.store = s.store := by
  have paid := (Backends.pay_outcome digests s draw request).store
  simp only [workerAct]
  split
  · rename_i call
    rw [call] at paid
    exact paid
  · rename_i call
    rw [call] at paid
    unfold afterPayment
    split <;> exact paid

theorem complete_store (request : FloatDisbursementRequest) (result : FloatDisbursementResult)
    (text : String) (written : resultText result = some text)
    : (workerAct digests s (.paid request result text written) .settle).2.1.store
      = (s.store.complete request.tenantId request.idempotencyKey (request.fingerprint digests)
          text).2 := by
  simp only [workerAct]
  split <;> rename_i same <;> rw [same]

/-- A terminal record after a step was there before, or the step has completed it. -/
theorem workerAct_terminal {phase : WorkerPhase} {action : WorkerAction} {key : RecordKey}
    {record : IdempotencyRecord}
    (found : (workerAct digests s phase action).2.1.store.record? key = some record)
    (terminal : record.status ≠ .inProgress)
    : (∃ before, s.store.record? key = some before ∧ before.status ≠ .inProgress)
      ∨ ∃ request result,
          request.recordKey = key
          ∧ (workerAct digests s phase action).1 = .finished request (.ok result)
          ∧ dueEvent? phase (workerAct digests s phase action).1
            = some (.canonicalResult result) := by
  match phase, action with
  | .idle, .reserve request now =>
      refine Or.inl ⟨record, ?_, terminal⟩
      rcases @reserve_store digests s request now with unasked | reserved
      · rwa [unasked] at found
      · rw [reserved] at found
        exact SQLiteIdempotencyStore.record?_of_reserve found terminal
  | .reserved request, .pay draw =>
      rw [pay_store] at found
      exact Or.inl ⟨record, found, terminal⟩
  | .paid request result text written, .settle =>
      rw [complete_store] at found
      rcases SQLiteIdempotencyStore.record?_of_finish found with before | ⟨own, stored, isOk⟩
      · exact Or.inl ⟨record, before, terminal⟩
      · have answers
            : (workerAct digests s (.paid request result text written) .settle).1
              = .finished request (.ok result) := by
          simp only [workerAct]
          split
          · rename_i refused
            rw [SQLiteIdempotencyStore.complete] at refused
            rw [refused] at isOk
            cases isOk
          · rfl
        exact Or.inr ⟨request, result, own, answers, by rw [answers]; rfl⟩
  | .refused request error, .settle =>
      -- Abandoning only takes a record away
      left
      simp only [workerAct, SQLiteIdempotencyStore.record?_abandon] at found
      split at found
      · exact ⟨record, (Option.filter_eq_some_iff.mp found).1, terminal⟩
      · exact ⟨record, found, terminal⟩
  | .idle, .pay _ | .idle, .settle
  | .reserved _, .reserve _ _ | .reserved _, .settle
  | .paid _ _ _ _, .reserve _ _ | .paid _ _ _ _, .pay _
  | .refused _ _, .reserve _ _ | .refused _ _, .pay _ => exact Or.inl ⟨record, found, terminal⟩

/-- Only a call that has just begun is answered by a stored result. -/
theorem idle_of_reused {phase : WorkerPhase} {answer : WorkerAnswer}
    (due : dueEvent? phase answer = some .resultReused)
    : phase = .idle := by
  unfold dueEvent? at due
  split at due <;> first | rfl | cases due

/-- A call that is answered by a stored result has found a terminal record. -/
theorem reused_terminal {phase : WorkerPhase} {action : WorkerAction}
    {request : FloatDisbursementRequest} {outcome : Except ManagerError FloatDisbursementResult}
    (finished : (workerAct digests s phase action).1 = .finished request outcome)
    (due : dueEvent? phase (workerAct digests s phase action).1 = some .resultReused)
    : ∃ record,
        s.store.record? request.recordKey = some record ∧ record.status ≠ .inProgress := by
  obtain rfl := idle_of_reused due
  cases action with
  | reserve asked now =>
      by_cases printable : asked.Printable
      swap
      · rw [workerAct_reserve_unprintable digests s printable] at due
        cases due
      rw [workerAct_reserve_printable digests s printable] at finished due
      cases lookup : (s.store.purge now).record? asked.recordKey with
      | none =>
          simp only [reserveKey, SQLiteIdempotencyStore.getOrReserve,
            SQLiteIdempotencyStore.reserve_free lookup] at finished
          cases finished
      | some record =>
          by_cases same : record.requestFingerprint = asked.fingerprint digests
          · simp only [reserveKey, SQLiteIdempotencyStore.getOrReserve,
              SQLiteIdempotencyStore.reserve_found lookup same] at finished due
            obtain ⟨rfl, _⟩ := WorkerAnswer.finished.inj finished
            refine ⟨record, SQLiteIdempotencyStore.record?_of_purge lookup, fun underway => ?_⟩
            rw [storedAnswer, if_pos underway] at due
            cases due
          · simp only [reserveKey, SQLiteIdempotencyStore.getOrReserve,
              SQLiteIdempotencyStore.reserve_refused ⟨record, lookup, same⟩] at due
            cases due
  | pay draw => cases finished
  | settle => cases finished

/-- A call that finds a terminal record of its request is answered by the stored result. -/
theorem reused_of_terminal {request : FloatDisbursementRequest} {now : Int}
    {record : IdempotencyRecord} (printable : request.Printable)
    (lookup : (s.store.purge now).record? request.recordKey = some record)
    (same : record.requestFingerprint = request.fingerprint digests)
    (terminal : record.status ≠ .inProgress)
    : ∃ outcome,
        (workerAct digests s .idle (.reserve request now)).1 = .finished request outcome
        ∧ dueEvent? .idle (workerAct digests s .idle (.reserve request now)).1
          = some .resultReused := by
  rw [workerAct_reserve_printable digests s printable]
  simp only [reserveKey, SQLiteIdempotencyStore.getOrReserve,
    SQLiteIdempotencyStore.reserve_found lookup same]
  refine ⟨_, rfl, ?_⟩
  rw [storedAnswer, if_neg terminal]
  cases resultOfText record.resultJson <;> rfl

end Work

/-- The members of an event are texts. -/
theorem payload_events_plain (request : FloatDisbursementRequest) (event : DisbursementEvent)
    : (Json.obj (event.payload request)).Plain := by
  cases event <;> simp [DisbursementEvent.payload, Json.Plain, Json.PlainMembers]

/-- The entry of an event is about the key of its request. -/
theorem entryKey?_appended (hmac : Bytes → Bytes → Bytes) (log : WORMAuditLogger) (draw : Draw)
    (request : FloatDisbursementRequest) (event : DisbursementEvent)
    : entryKey?
        (log.appendEvent hmac draw request.tenantId event.eventType "system"
          (.obj (event.payload request))).1
      = some request.idempotencyKey := by
  have read := Json.loads_text .spaced (payload_events_plain request event)
  change ((Json.loads ((Json.obj (event.payload request)).text .spaced)).bind _).bind _ = _
  rw [read, Option.bind_some, Json.member?_sortKeys]
  cases event <;> rfl

theorem reused_of_eventType {event : DisbursementEvent}
    (same : event.eventType = "DISBURSEMENT_RESULT_REUSED")
    : event = .resultReused := by
  cases event with
  | resultReused => rfl
  | _ => simp [DisbursementEvent.eventType] at same

/-- An entry may follow when it reports no reuse, or its key has a canonical result before. -/
theorem ReusesFollow.snoc {entries : List AuditEntry} (follow : ReusesFollow entries)
    {entry : AuditEntry}
    (allowed
      : entry.eventType = "DISBURSEMENT_RESULT_REUSED"
        → ∀ key,
            entryKey? entry = some key
            → ∃ canonical ∈ entries,
                canonical.eventType = "DISBURSEMENT_CANONICAL_RESULT"
                ∧ entryKey? canonical = some key)
    : ReusesFollow (entries ++ [entry]) := by
  intro earlier other later split reused key about
  rcases List.eq_nil_or_concat later with rfl | ⟨before, last, rfl⟩
  · -- The entry is the new one
    obtain ⟨rfl, same⟩ := List.append_inj' split rfl
    obtain rfl := List.head_eq_of_cons_eq same
    exact allowed reused key about
  · rw [List.concat_eq_append, ← List.cons_append, ← List.append_assoc] at split
    obtain ⟨rfl, _⟩ := List.append_inj' split rfl
    exact follow earlier other before rfl reused key about

section Order

variable {W : Type}

/-- The log reports a canonical result of the key, or some worker is about to report one. -/
def Recorded (s : AuditedWorkers W) (key : RecordKey) : Prop :=
  s.shared.Reports key ∨ ∃ worker, (s.phase worker).unlogged? = some key

/-- In every log the reuses come after the canonical results, and a canonical result is recorded
for each record that has one, and for each worker that reports a reuse.
-/
structure KeepsOrder (s : AuditedWorkers W) : Prop where
  follow : ∀ tenantId, ReusesFollow (s.shared.auditLogger.getEntries tenantId)
  terminal
    : ∀ key record,
        s.shared.backends.store.record? key = some record
        → record.status ≠ .inProgress
        → Recorded s key
  reused
    : ∀ worker request outcome,
        s.phase worker = .auditing request .resultReused outcome
        → Recorded s request.recordKey

theorem KeepsOrder.opened {shared : AuditedBackends} (inOrder : shared.InOrder)
    : KeepsOrder (.opened shared : AuditedWorkers W) where
  follow := inOrder.follow
  terminal key record found terminal := Or.inl (inOrder.reports key record found terminal)
  reused _ _ _ auditing := nomatch auditing

variable [DecidableEq W] {digests : Digests} {hmac : Bytes → Bytes → Bytes}
  {s : AuditedWorkers W} {worker : W}

/-- A worker does a step of its call, and comes to the event that is due; or it appends the event
and is done; or it loses the event of a completed result; or it does nothing.
-/
theorem auditedMachine_cases (s : AuditedWorkers W) (worker : W) (action : AuditedAction)
    : let after := ((auditedMachine digests hmac W).step s (worker, action)).2
      (∃ phase work next,
        s.phase worker = .working phase
        ∧ (∀ request event outcome,
            next = .auditing request event outcome
            ↔ (workerAct digests s.shared.backends phase work).1 = .finished request outcome
              ∧ dueEvent? phase (workerAct digests s.shared.backends phase work).1 = some event)
        ∧ after
          = ⟨
              { s.shared with backends := (workerAct digests s.shared.backends phase work).2.1 },
              Function.update s.phase worker next
            ⟩)
      ∨ (∃ request event outcome draw,
          s.phase worker = .auditing request event outcome
          ∧ action = .audit draw
          ∧ after
            = ⟨
                {
                  s.shared with
                  auditLogger :=
                    (s.shared.auditLogger.appendEvent hmac draw request.tenantId event.eventType
                      "system" (.obj (event.payload request))).2
                },
                Function.update s.phase worker (.working .idle)
              ⟩)
      ∨ ((s.phase worker).lost? action).isSome
      ∨ after = s := by
  intro after
  -- An action that does not fit the phase changes nothing
  have unmoved (same : (auditedAct digests hmac s.shared (s.phase worker) action).2
        = (s.shared, s.phase worker))
      : after = s := by
    have stays : Function.update s.phase worker (s.phase worker) = s.phase :=
      Function.update_eq_self worker s.phase
    simp only [after, auditedMachine, Pool.machine, same, stays]
  cases phase : s.phase worker with
  | working before =>
      cases action with
      | work work =>
          left
          refine ⟨before, work,
            (auditedAct digests hmac s.shared (.working before) (.work work)).2.2, rfl, ?_, ?_⟩
          · intro request event outcome
            simp only [auditedAct]
            split
            · rename_i finished due
              rw [due, finished]
              simp only [AuditedPhase.auditing.injEq, WorkerAnswer.finished.injEq,
                Option.some.injEq]
              tauto
            · rename_i nothing
              refine iff_of_false (fun same => ?_) (fun ended => nothing _ _ _ ended.1 ended.2)
              cases same
          · simp only [after, auditedMachine, Pool.machine, phase, auditedAct]
            split <;> rfl
      | audit draw | unfiled message =>
          right; right; right
          exact unmoved (by rw [phase]; rfl)
  | auditing request event outcome =>
      cases action with
      | work work =>
          right; right; right
          exact unmoved (by rw [phase]; rfl)
      | audit draw =>
          right; left
          refine ⟨request, event, outcome, draw, rfl, rfl, ?_⟩
          simp only [after, auditedMachine, Pool.machine, phase, auditedAct]
      | unfiled message =>
          right; right
          cases event with
          | canonicalResult result => exact Or.inl rfl
          | _ => exact Or.inr (unmoved (by rw [phase]; rfl))

section Reuse

variable (hmac) {request : FloatDisbursementRequest} {now : Int} {record : IdempotencyRecord}
  (printable : request.Printable)

include printable

/-- A worker that finds a terminal record of its request comes to append the reuse. -/
theorem step_reuse (idle : s.phase worker = .working .idle)
    (lookup : (s.shared.backends.store.purge now).record? request.recordKey = some record)
    (same : record.requestFingerprint = request.fingerprint digests)
    (terminal : record.status ≠ .inProgress)
    : ∃ backends outcome,
        ((auditedMachine digests hmac W).step s (worker, .work (.reserve request now))).2
        = ⟨
            { s.shared with backends },
            Function.update s.phase worker (.auditing request .resultReused outcome)
          ⟩ := by
  obtain ⟨outcome, finished, due⟩ := reused_of_terminal printable lookup same terminal
  refine ⟨(workerAct digests s.shared.backends .idle (.reserve request now)).2.1, outcome, ?_⟩
  simp only [auditedMachine, Pool.machine, idle, auditedAct]
  rw [due, finished]

/-- Its next two steps report the reuse in the log, and they are free to do so when nobody has yet
to report the canonical result.
-/
theorem reuse_logged (idle : s.phase worker = .working .idle)
    (lookup : (s.shared.backends.store.purge now).record? request.recordKey = some record)
    (same : record.requestFingerprint = request.fingerprint digests)
    (terminal : record.status ≠ .inProgress) (draw : Draw)
    : let m := auditedMachine digests hmac W
      let steps := [(worker, .work (.reserve request now)), (worker, .audit draw)]
      (∃ entry,
        (m.exec s steps).shared.auditLogger.getEntries request.tenantId
          = s.shared.auditLogger.getEntries request.tenantId ++ [entry]
        ∧ entry.eventType = "DISBURSEMENT_RESULT_REUSED"
        ∧ entryKey? entry = some request.idempotencyKey)
      ∧ ((∀ other, (s.phase other).unlogged? ≠ some request.recordKey)
        → m.Admits ReusesLogged s steps) := by
  intro m steps
  obtain ⟨backends, outcome, next⟩ := step_reuse hmac printable idle lookup same terminal
  constructor
  · simp only [m, steps, Machine.exec, next]
    simp only [auditedMachine, Pool.machine, Function.update_self, auditedAct]
    refine ⟨_, ?_, ?_, entryKey?_appended hmac s.shared.auditLogger draw request .resultReused⟩
    · rw [WORMAuditLogger.getEntries_appendEvent, if_pos rfl]
    · rfl
  · intro reported
    refine ⟨⟨fun key reuse => ?_, ?_⟩, ?_, trivial⟩
    · rw [idle] at reuse
      cases reuse
    · rw [idle]
      rfl
    · simp only [m, next]
      refine ⟨fun key reuse other unlogged => ?_, by dsimp only; rw [Function.update_self]; rfl⟩
      obtain rfl : request.recordKey = key := by
        simpa only [Function.update_self, AuditedPhase.reuse?, Option.mem_some_iff] using reuse
      dsimp only at unlogged
      by_cases acts : other = worker
      · subst acts
        rw [Function.update_self] at unlogged
        cases unlogged
      · rw [Function.update_of_ne acts] at unlogged
        exact reported other unlogged

end Reuse

/-- A step that leaves the log as it is keeps what is recorded, if its worker had no canonical
event to append.
-/
theorem Recorded.work {key : RecordKey} {next : AuditedPhase} {shared : AuditedBackends}
    (recorded : Recorded s key)
    (log : shared.auditLogger = s.shared.auditLogger)
    (idle : (s.phase worker).unlogged? ≠ some key)
    : Recorded ⟨shared, Function.update s.phase worker next⟩ key := by
  rcases recorded with ⟨entry, member, canonical⟩ | ⟨other, unlogged⟩
  · exact Or.inl ⟨entry, by rw [log]; exact member, canonical⟩
  · refine Or.inr ⟨other, ?_⟩
    have different : other ≠ worker := by
      rintro rfl
      exact idle unlogged
    dsimp only
    rwa [Function.update_of_ne different]

/-- A step of the work keeps the order: it writes nothing to the log, and a record that it
completes is about to be reported.
-/
theorem KeepsOrder.step_work (order : KeepsOrder s) {phase : WorkerPhase} {action : WorkerAction}
    {next : AuditedPhase} (working : s.phase worker = .working phase)
    (due
      : ∀ request event outcome,
          next = .auditing request event outcome
          ↔ (workerAct digests s.shared.backends phase action).1 = .finished request outcome
            ∧ dueEvent? phase (workerAct digests s.shared.backends phase action).1 = some event)
    : KeepsOrder
        ⟨
          { s.shared with backends := (workerAct digests s.shared.backends phase action).2.1 },
          Function.update s.phase worker next
        ⟩ := by
  have idle (key : RecordKey) : (s.phase worker).unlogged? ≠ some key := by
    rw [working]
    exact nofun
  refine ⟨order.follow, ?_, ?_⟩
  · intro key record found terminal
    rcases workerAct_terminal found terminal
      with ⟨before, stored, ended⟩ | ⟨request, result, own, finished, reports⟩
    · exact (order.terminal key before stored ended).work rfl (idle key)
    · -- The worker itself is about to report the record that it has completed
      obtain rfl := (due request (.canonicalResult result) (.ok result)).mpr ⟨finished, reports⟩
      refine Or.inr ⟨worker, ?_⟩
      dsimp only
      rw [Function.update_self]
      exact congrArg some own
  · intro other request outcome auditing
    dsimp only at auditing
    by_cases acts : other = worker
    · subst acts
      rw [Function.update_self] at auditing
      -- The worker is told of a stored result, which was recorded when it was completed
      obtain ⟨finished, reuse⟩ := (due _ _ _).mp auditing
      obtain ⟨record, stored, ended⟩ := reused_terminal finished reuse
      exact (order.terminal _ record stored ended).work rfl (idle _)
    · rw [Function.update_of_ne acts] at auditing
      exact (order.reused other request outcome auditing).work rfl (idle _)

/-- An append keeps what is recorded: what its worker had to report is in the log now. -/
theorem Recorded.audit {key : RecordKey} {request : FloatDisbursementRequest}
    {event : DisbursementEvent} {outcome : Except ManagerError FloatDisbursementResult}
    (recorded : Recorded s key) (auditing : s.phase worker = .auditing request event outcome)
    (draw : Draw)
    : Recorded
        ⟨
          {
            s.shared with
            auditLogger :=
              (s.shared.auditLogger.appendEvent hmac draw request.tenantId event.eventType
                "system" (.obj (event.payload request))).2
          },
          Function.update s.phase worker (.working .idle)
        ⟩
        key := by
  rcases recorded with ⟨entry, member, canonical⟩ | ⟨other, unlogged⟩
  · refine Or.inl ⟨entry, ?_, canonical⟩
    dsimp only
    rw [WORMAuditLogger.getEntries_appendEvent]
    split
    · exact List.mem_append_left _ member
    · exact member
  · by_cases acts : other = worker
    · subst acts
      rw [auditing] at unlogged
      cases event with
      | canonicalResult result =>
          -- The entry that the worker has had to append is the one that it appends
          obtain rfl : request.recordKey = key := Option.some.inj unlogged
          refine Or.inl ⟨_, ?_, ?_,
            entryKey?_appended hmac s.shared.auditLogger draw request (.canonicalResult result)⟩
          · dsimp only
            rw [WORMAuditLogger.getEntries_appendEvent,
              if_pos (show request.tenantId = request.recordKey.1 from rfl)]
            exact List.mem_append_right _ (List.mem_singleton.mpr rfl)
          · rfl
      | _ => cases unlogged
    · refine Or.inr ⟨other, ?_⟩
      dsimp only
      rwa [Function.update_of_ne acts]

/-- An append keeps the order, unless it reports a reuse before the canonical result. -/
theorem KeepsOrder.step_audit (order : KeepsOrder s) {request : FloatDisbursementRequest}
    {event : DisbursementEvent} {outcome : Except ManagerError FloatDisbursementResult}
    (auditing : s.phase worker = .auditing request event outcome) {draw : Draw}
    (logged : ReusesLogged s (worker, .audit draw))
    : KeepsOrder
        ⟨
          {
            s.shared with
            auditLogger :=
              (s.shared.auditLogger.appendEvent hmac draw request.tenantId event.eventType
                "system" (.obj (event.payload request))).2
          },
          Function.update s.phase worker (.working .idle)
        ⟩ := by
  refine ⟨?_, ?_, ?_⟩
  · intro tenantId
    dsimp only
    rw [WORMAuditLogger.getEntries_appendEvent]
    split
    · rename_i same
      subst same
      apply (order.follow request.tenantId).snoc
      intro reused key about
      obtain rfl := reused_of_eventType reused
      obtain rfl : request.idempotencyKey = key :=
        Option.some.inj ((entryKey?_appended ..).symm.trans about)
      -- Nobody is about to report the canonical result, so the log reports it already
      have nobody := logged.1 request.recordKey (by rw [auditing]; rfl)
      rcases order.reused worker request outcome auditing with reports | ⟨other, unlogged⟩
      · exact reports
      · exact absurd unlogged (nobody other)
    · exact order.follow tenantId
  · intro key record found terminal
    exact (order.terminal key record found terminal).audit auditing draw
  · intro other asked ended reuse
    dsimp only at reuse
    by_cases acts : other = worker
    · subst acts
      rw [Function.update_self] at reuse
      cases reuse
    · rw [Function.update_of_ne acts] at reuse
      exact (order.reused other asked ended reuse).audit auditing draw

theorem KeepsOrder.step (order : KeepsOrder s) {input : W × AuditedAction}
    (logged : ReusesLogged s input)
    : KeepsOrder ((auditedMachine digests hmac W).step s input).2 := by
  obtain ⟨worker, action⟩ := input
  rcases auditedMachine_cases s worker action
    with ⟨phase, work, next, working, due, after⟩
      | ⟨request, event, outcome, draw, auditing, rfl, after⟩
      | lost
      | same
  · rw [after]
    exact order.step_work working due
  · rw [after]
    exact order.step_audit auditing logged
  · rw [logged.2] at lost
    cases lost
  · rw [same]
    exact order

/-- Where no reuse is reported before the canonical result of its key, and no completed result is
lost, every log of a run shows the reuses after the canonical results, if the run begins so.
-/
theorem reuses_follow (digests : Digests) (hmac : Bytes → Bytes → Bytes) {shared : AuditedBackends}
    (inOrder : shared.InOrder) {inputs : List (W × AuditedAction)}
    (logged : (auditedMachine digests hmac W).Admits ReusesLogged (.opened shared) inputs)
    (tenantId : String)
    : let s := (auditedMachine digests hmac W).exec (.opened shared) inputs
      ReusesFollow (s.shared.auditLogger.getEntries tenantId) :=
  ((auditedMachine digests hmac W).exec_invariant (fun _ _ order => order.step)
    (KeepsOrder.opened inOrder) logged).follow tenantId

end Order

section Sample

def emptyBackends : AuditedBackends := ⟨sampleBackends, .new []⟩

/-- One worker pays. -/
def firstPayment : List (Bool × AuditedAction) :=
  [
    (false, .work (.reserve sampleRequest 100)),
    (false, .work (.pay (samplePayment none))),
    (false, .work .settle)
  ]

/-- The other worker is given the result, and reports so. -/
def secondCall : List (Bool × AuditedAction) :=
  [
    (true, .work (.reserve sampleRequest 101)),
    (true, .audit ⟨⟨2⟩, ⟨1700000001000000⟩⟩)
  ]

/-- The first worker reports its result before the second call begins. -/
def reportedPayment : List (Bool × AuditedAction) :=
  firstPayment ++ [(false, .audit ⟨⟨1⟩, ⟨1700000000000000⟩⟩)]

theorem emptyBackends_inOrder : emptyBackends.InOrder where
  follow _ := by
    intro earlier entry later split
    cases (List.append_eq_nil_iff.mp split.symm).2
  reports _ _ found := nomatch found

/-- The workers after some steps, from an empty store and an empty log. -/
def sampleRun (inputs : List (Bool × AuditedAction)) : AuditedWorkers Bool :=
  (auditedMachine samplePaymentDigests (fun _ _ => []) Bool).exec (.opened emptyBackends) inputs

theorem samplePrintable : sampleRequest.Printable := by decide +kernel

/-- The first worker's result is there for the second call. -/
theorem stored_of_paid {inputs : List (Bool × AuditedAction)}
    (paid : inputs = firstPayment ∨ inputs = reportedPayment)
    : ∃ record,
        ((sampleRun inputs).shared.backends.store.purge 101).record? sampleRequest.recordKey
          = some record
        ∧ record.requestFingerprint = sampleRequest.fingerprint samplePaymentDigests
        ∧ record.status ≠ .inProgress := by
  have stored
      : (((sampleRun inputs).shared.backends.store.purge 101).record?
            sampleRequest.recordKey).map
          (fun record => (record.requestFingerprint, record.status))
        = some (sampleRequest.fingerprint samplePaymentDigests, .completed) := by
    rcases paid with rfl | rfl <;> decide +kernel
  obtain ⟨record, found, facts⟩ := Option.map_eq_some_iff.mp stored
  obtain ⟨same, status⟩ := Prod.mk.inj facts
  exact ⟨record, found, same, by rw [status]; exact nofun⟩

theorem idle_of_paid {inputs : List (Bool × AuditedAction)}
    (paid : inputs = firstPayment ∨ inputs = reportedPayment)
    : (sampleRun inputs).phase true = .working .idle := by
  apply Pool.exec_phase
  rcases paid with rfl | rfl <;> decide

theorem reuses_follow_sample
    : ReusesFollow
        ((sampleRun (reportedPayment ++ secondCall)).shared.auditLogger.getEntries
          "TENANT-ORG") := by
  obtain ⟨record, found, same, terminal⟩ := stored_of_paid (Or.inr rfl)
  have reported
      : ∀ worker,
          ((sampleRun reportedPayment).phase worker).unlogged?
          ≠ some sampleRequest.recordKey := by
    decide +kernel
  have first
      : (auditedMachine samplePaymentDigests (fun _ _ => []) Bool).Admits ReusesLogged
          (.opened emptyBackends) reportedPayment := by
    decide +kernel
  have second
      : (auditedMachine samplePaymentDigests (fun _ _ => []) Bool).Admits ReusesLogged
          (sampleRun reportedPayment) secondCall :=
    (reuse_logged _ samplePrintable (idle_of_paid (Or.inr rfl)) found same terminal
      ⟨⟨2⟩, ⟨1700000001000000⟩⟩).2 reported
  have logged := (Machine.admits_append _ _ reportedPayment secondCall).mpr ⟨first, second⟩
  rw [sampleRun]
  exact reuses_follow samplePaymentDigests (fun _ _ => []) emptyBackends_inOrder logged
    "TENANT-ORG"

/-- The log of the tenant begins with the reuse of a result that it has not reported. -/
theorem early_reuse_precedes_result
    : let log :=
        (sampleRun (firstPayment ++ secondCall)).shared.auditLogger.getEntries "TENANT-ORG"
      log.map (fun entry => (entry.eventType, entryKey? entry))
        = [("DISBURSEMENT_RESULT_REUSED", some "auto-1")]
      ∧ ¬ ReusesFollow log := by
  intro log
  obtain ⟨record, found, same, terminal⟩ := stored_of_paid (Or.inl rfl)
  -- The result is stored before the event about it is appended
  have unreported
      : ((sampleRun firstPayment).shared.auditLogger.getEntries sampleRequest.tenantId).length
        = 0 := by
    decide +kernel
  obtain ⟨⟨entry, appended, reused, key⟩, _⟩ :=
    reuse_logged (fun _ _ => []) samplePrintable (idle_of_paid (Or.inl rfl)) found same terminal
      ⟨⟨2⟩, ⟨1700000001000000⟩⟩
  rw [List.length_eq_zero_iff.mp unreported, List.nil_append, sampleRun,
    ← Machine.exec_append] at appended
  have alone : log = [entry] := by
    simp only [log]
    rw [sampleRun, secondCall]
    exact appended
  constructor
  · rw [alone, List.map_singleton, reused, key]
    rfl
  · intro follow
    obtain ⟨_, earlier, _⟩ := follow [] entry [] alone reused "auto-1" key
    cases earlier

end Sample

end PettyFlow.Wallet
