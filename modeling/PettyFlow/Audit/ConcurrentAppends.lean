import PettyFlow.Audit.LogSoundness
import PettyFlow.Foundation.Pool

/-! Workers that append to one audit log. An append reads the tail of the tenant's entries and
then adds an entry that continues it; the others may append between these two steps.
-/

namespace PettyFlow.Audit

open Foundation

/-- Where the next entry of a tenant belongs: its number, and the hash that it links to. -/
structure LogTail where
  sequenceNumber : Int
  prevHash : String
deriving DecidableEq

structure AuditEventRequest where
  tenantId : String
  eventType : String
  actorId : String
  payload : Json

namespace WORMAuditLogger

/-- The first step of an append. -/
def readTail (s : WORMAuditLogger) (tenantId : String) : LogTail where
  sequenceNumber := (s.getEntries tenantId).length + 1
  prevHash :=
    match (s.getEntries tenantId).getLast? with
    | none => genesisHash
    | some entry => entry.currentHash

/-- The entry that continues a tail. -/
def entryAfter (hmac : Bytes → Bytes → Bytes) (s : WORMAuditLogger) (draw : Draw)
    (request : AuditEventRequest) (tail : LogTail)
    : AuditEntry :=
  let payloadJson := request.payload.text .spaced
  let timestamp := draw.now.isoformat
  {
    entryId := "AUD-" ++ upper (String.ofList (draw.uuid.digits.take 12))
    sequenceNumber := tail.sequenceNumber
    tenantId := request.tenantId
    eventType := request.eventType
    actorId := request.actorId
    payloadJson
    timestamp
    prevHash := tail.prevHash
    currentHash :=
      s.computeHash hmac tail.prevHash tail.sequenceNumber request.tenantId request.eventType
        request.actorId payloadJson timestamp
  }

/-- The second step of an append. -/
def addEntry (s : WORMAuditLogger) (entry : AuditEntry) : WORMAuditLogger :=
  { s with store := s.store.set entry.tenantId (s.getEntries entry.tenantId ++ [entry]) }

/-- Both steps without a pause are what appending an event does. -/
theorem appendEvent_steps (hmac : Bytes → Bytes → Bytes) (s : WORMAuditLogger) (draw : Draw)
    (request : AuditEventRequest)
    : let entry := s.entryAfter hmac draw request (s.readTail request.tenantId)
      s.appendEvent hmac draw request.tenantId request.eventType request.actorId request.payload
      = (entry, s.addEntry entry) :=
  rfl

theorem getEntries_addEntry (s : WORMAuditLogger) (entry : AuditEntry) (tenantId : String)
    : (s.addEntry entry).getEntries tenantId
      = if entry.tenantId = tenantId then
          s.getEntries tenantId ++ [entry]
        else
          s.getEntries tenantId := by
  simp only [addEntry, getEntries, Dict.getD, Dict.get?_set]
  split
  · rename_i same
    rw [same]
    rfl
  · rfl

end WORMAuditLogger

/-- How far a worker has come with its append. -/
inductive AppendPhase where
  | idle
  | tailRead (request : AuditEventRequest) (tail : LogTail)

inductive AppendAction where
  | readTail (request : AuditEventRequest)
  | append (draw : Draw)

inductive AppendAnswer where
  | underway
  | appended (entry : AuditEntry)
  | notReady

/-- One atomic step of one worker. -/
def appendAct (hmac : Bytes → Bytes → Bytes) (s : WORMAuditLogger)
    : AppendPhase → AppendAction → AppendAnswer × WORMAuditLogger × AppendPhase
  | .idle, .readTail request =>
      (.underway, s, .tailRead request (s.readTail request.tenantId))
  | .tailRead request tail, .append draw =>
      let entry := s.entryAfter hmac draw request tail
      (.appended entry, s.addEntry entry, .idle)
  | phase, _ => (.notReady, s, phase)

/-- The workers of a type, any number of them. -/
abbrev Appenders (W : Type) := Pool W WORMAuditLogger AppendPhase

def appendersMachine (hmac : Bytes → Bytes → Bytes) (W : Type) [DecidableEq W]
    : Machine (Appenders W) (W × AppendAction) AppendAnswer :=
  Pool.machine (appendAct hmac)

/-- A new log, on which nobody is at work. -/
def Appenders.opened {W : Type} (secret : Bytes) : Appenders W := ⟨.new secret, fun _ => .idle⟩

/-- The entries that a history has appended. -/
def appendedEntries {W : Type}
    (past : List (Event (Appenders W) (W × AppendAction) AppendAnswer))
    : List AuditEntry :=
  past.filterMap (fun event =>
    match event.output with
    | .appended entry => some entry
    | _ => none)

/-- Every log is verified and numbers its entries differently, and nothing appended is lost. -/
structure Intact (hmac : Bytes → Bytes → Bytes) (s : WORMAuditLogger) (appended : List AuditEntry)
    : Prop where
  verified : ∀ tenantId, s.verifyIntegrity hmac tenantId = .ok true
  distinct : ∀ tenantId, ((s.getEntries tenantId).map AuditEntry.sequenceNumber).Nodup
  kept : ∀ entry ∈ appended, entry ∈ s.getEntries entry.tenantId

/-- The log is intact at every point of an interleaving. -/
def IntactThroughout (hmac : Bytes → Bytes → Bytes) {W : Type} [DecidableEq W] (secret : Bytes)
    (inputs : List (W × AppendAction))
    : Prop :=
  ∀ done,
    done <+: inputs
    → Intact hmac ((appendersMachine hmac W).exec (.opened secret) done).shared
        (appendedEntries ((appendersMachine hmac W).history (.opened secret) done))

/-- A worker that appends finds the tail as it has read it: no other worker has appended to the
tenant's log since.
-/
def TailUnchanged {W : Type} (s : Appenders W) (input : W × AppendAction) : Prop :=
  match s.phase input.1, input.2 with
  | .tailRead request tail, .append _ => s.shared.readTail request.tenantId = tail
  | _, _ => True

section Steps

variable {hmac : Bytes → Bytes → Bytes} {W : Type} [DecidableEq W] {secret : Bytes}
  {s : Appenders W} {worker : W}

/-- The step of a worker adds an entry that continues the tail that it has read, or leaves the
log as it is.
-/
theorem step_cases (hmac : Bytes → Bytes → Bytes) (s : Appenders W)
    (input : W × AppendAction)
    : let event := (appendersMachine hmac W).event s input
      (∃ request tail draw,
        s.phase input.1 = .tailRead request tail
        ∧ input.2 = .append draw
        ∧ event.output = .appended (s.shared.entryAfter hmac draw request tail)
        ∧ event.after.shared = s.shared.addEntry (s.shared.entryAfter hmac draw request tail))
      ∨ (TailUnchanged s input ∧ (∀ entry, event.output ≠ .appended entry)
        ∧ event.after.shared = s.shared) := by
  obtain ⟨worker, action⟩ := input
  simp only [Machine.event, appendersMachine, Pool.machine]
  cases phase : s.phase worker with
  | idle =>
      right
      cases action <;> simp [TailUnchanged, phase, appendAct]
  | tailRead request tail =>
      cases action with
      | readTail other =>
          right
          simp [TailUnchanged, phase, appendAct]
      | append draw => exact Or.inl ⟨request, tail, draw, rfl, rfl, rfl, rfl⟩

/-- What was appended stays in its tenant's log when more is appended. -/
theorem appended_kept {past : List (Event (Appenders W) (W × AppendAction) AppendAnswer)}
    (kept : ∀ entry ∈ appendedEntries past, entry ∈ s.shared.getEntries entry.tenantId)
    (input : W × AppendAction)
    : ∀ entry ∈ appendedEntries (past ++ [(appendersMachine hmac W).event s input]),
        entry
          ∈ ((appendersMachine hmac W).event s input).after.shared.getEntries entry.tenantId := by
  intro entry member
  rw [appendedEntries, List.filterMap_append] at member
  rcases step_cases hmac s input with ⟨request, tail, draw, _, _, output, after⟩
    | ⟨_, nothing, after⟩
  · rw [after, WORMAuditLogger.getEntries_addEntry]
    rcases List.mem_append.mp member with old | new
    · split
      · exact List.mem_append_left _ (kept entry old)
      · exact kept entry old
    · -- The entry that this step has appended
      simp only [List.filterMap_cons, output, List.filterMap_nil, List.mem_singleton] at new
      subst new
      rw [if_pos rfl]
      exact List.mem_append_right _ List.mem_cons_self
  · rw [after]
    rcases List.mem_append.mp member with old | new
    · exact kept entry old
    · obtain ⟨event, isLast, found⟩ := List.mem_filterMap.mp new
      obtain rfl := List.mem_singleton.mp isLast
      split at found
      · rename_i added output
        exact absurd output (nothing added)
      · cases found

/-- An append that finds the tail unchanged is an append without a pause. -/
theorem appended_step (appended : Appended hmac secret s.shared) {input : W × AppendAction}
    (unchanged : TailUnchanged s input)
    : Appended hmac secret ((appendersMachine hmac W).step s input).2.shared := by
  change Appended hmac secret ((appendersMachine hmac W).event s input).after.shared
  rcases step_cases hmac s input with ⟨request, tail, draw, phase, action, _, after⟩ | ⟨_, _, after⟩
  · have same : s.shared.readTail request.tenantId = tail := by
      simpa only [TailUnchanged, phase, action] using unchanged
    rw [after, ← same]
    exact appended.step ⟨draw, request.tenantId, request.eventType, request.actorId,
      request.payload⟩
  · rw [after]
    exact appended

/-- An append that leaves the log verified has found the tail unchanged: number and link of its
entry are those of the place where the entry stands.
-/
theorem tailUnchanged_of_verified {input : W × AppendAction}
    (verified
      : ∀ tenantId,
          ((appendersMachine hmac W).step s input).2.shared.verifyIntegrity hmac tenantId
          = .ok true)
    : TailUnchanged s input := by
  rcases step_cases hmac s input with ⟨request, tail, draw, phase, action, _, after⟩ | ⟨same, _⟩
  · have chained := (verifyIntegrity_iff _ _).mp (verified request.tenantId)
    change (auditChain hmac ((appendersMachine hmac W).event s input).after.shared.secret).Chained
      genesisHash 0
      (((appendersMachine hmac W).event s input).after.shared.getEntries request.tenantId)
      at chained
    have own : (s.shared.entryAfter hmac draw request tail).tenantId = request.tenantId := rfl
    rw [after, WORMAuditLogger.getEntries_addEntry, if_pos own, SealedChain.chained_append]
      at chained
    -- The entry is the last one, so its number and link are those of the tail before it
    obtain ⟨_, number, link, _⟩ := chained
    simp only [TailUnchanged, phase, action]
    obtain ⟨sequenceNumber, prevHash⟩ := tail
    rw [zero_add] at number
    have linked : (s.shared.readTail request.tenantId).prevHash = prevHash := by
      refine Eq.trans ?_ link.symm
      simp only [WORMAuditLogger.readTail, SealedChain.lastStamp]
      cases (s.shared.getEntries request.tenantId).getLast? <;> rfl
    exact congrArg₂ LogTail.mk number.symm linked
  · exact same

end Steps

/-- The log stays intact in exactly those interleavings in which no worker's append comes
between the two steps of another one's append for the same tenant.
-/
theorem intactThroughout_iff (hmac : Bytes → Bytes → Bytes) {W : Type} [DecidableEq W]
    (secret : Bytes) (inputs : List (W × AppendAction))
    : IntactThroughout hmac secret inputs
      ↔ (appendersMachine hmac W).Admits TailUnchanged (.opened secret) inputs := by
  apply (appendersMachine hmac W).throughout_iff
    (fun past s => Intact hmac s.shared (appendedEntries past))
    (fun past s =>
      Appended hmac secret s.shared
      ∧ ∀ entry ∈ appendedEntries past, entry ∈ s.shared.getEntries entry.tenantId)
  · intro past s kept
    refine ⟨fun tenantId => ?_, fun tenantId => ?_, kept.2⟩
    · rw [verifyIntegrity_iff, kept.1.keyed]
      exact kept.1.chained tenantId
    · exact (kept.1.chained tenantId).numbers_nodup
  · exact fun _ _ input kept unchanged =>
      ⟨appended_step kept.1 unchanged, appended_kept kept.2 input⟩
  · exact fun _ _ _ _ intact => tailUnchanged_of_verified intact.verified
  · exact ⟨new_appended hmac secret, nofun⟩

section Sample

/-- Two workers note an event of one tenant; both read the tail of the empty log. -/
def racingAppends : List (Nat × AppendAction) :=
  let request : AuditEventRequest := ⟨"tenant-1", "FUND_CREATED", "system", .obj []⟩
  [(0, .readTail request), (1, .readTail request), (0, .append ⟨⟨1⟩, ⟨0⟩⟩),
    (1, .append ⟨⟨2⟩, ⟨0⟩⟩)]

/-- Both entries get the number one, and the verification fails on an untouched log. -/
theorem racing_appends_break_chain
    : let s := (appendersMachine (fun _ _ => []) Nat).exec (.opened []) racingAppends
      (s.shared.getEntries "tenant-1").map AuditEntry.sequenceNumber = [1, 1]
      ∧ s.shared.verifyIntegrity (fun _ _ => []) "tenant-1" ≠ .ok true
      ∧ ¬ IntactThroughout (fun _ _ => []) [] racingAppends := by
  intro s
  have numbers : (s.shared.getEntries "tenant-1").map AuditEntry.sequenceNumber = [1, 1] := by
    decide +kernel
  have broken : s.shared.verifyIntegrity (fun _ _ => []) "tenant-1" ≠ .ok true := by
    intro verified
    have distinct := ((verifyIntegrity_iff _ _).mp verified).numbers_nodup
    change ((s.shared.getEntries "tenant-1").map AuditEntry.sequenceNumber).Nodup at distinct
    rw [numbers] at distinct
    exact absurd distinct (by decide)
  exact ⟨numbers, broken, fun intact =>
    broken ((intact racingAppends List.prefix_rfl).verified "tenant-1")⟩

end Sample

end PettyFlow.Audit
