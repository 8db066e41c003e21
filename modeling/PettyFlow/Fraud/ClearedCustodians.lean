import PettyFlow.Fraud.WindowClusters

/-! Clearing a custodian. A detector whose events come in the order of their times answers like a
new one that was only fed the events not cleared since, although the cleared ones have already
driven others out of the tenant's window.
-/

namespace PettyFlow.Fraud

open Foundation

/-- The calls of a detector whose custodians are cleared now and then. -/
inductive ClearingCall where
  | recordAndCheck (event : TransactionEvent)
  | clearCustodian (tenantId custodianId : String)

inductive ClearingAnswer where
  | verdict (outcome : Verdict)
  | cleared

def clearingMachine (lower : String → String)
    : Machine SplitTransactionDetector ClearingCall ClearingAnswer where
  step s call :=
    match call with
    | .recordAndCheck event =>
        let (outcome, next) := s.recordAndCheck lower event
        (.verdict outcome, next)
    | .clearCustodian tenantId custodianId => (.cleared, s.clearCustodian tenantId custodianId)

/-- The events of other custodians. -/
def forget (tenantId custodianId : String) (events : List TransactionEvent)
    : List TransactionEvent :=
  events.filter (fun e => ¬ (e.tenantId = tenantId ∧ e.custodianId = custodianId))

namespace ClearingCall

/-- The event that a call brings. -/
def event? : ClearingCall → Option TransactionEvent
  | .recordAndCheck event => some event
  | .clearCustodian _ _ => none

/-- The call brings an event of the custodian. -/
def Brings (tenantId custodianId : String) (call : ClearingCall) : Prop :=
  ∃ event ∈ call.event?, event.tenantId = tenantId ∧ event.custodianId = custodianId

instance (tenantId custodianId : String) (call : ClearingCall)
    : Decidable (call.Brings tenantId custodianId) :=
  match call with
  | .recordAndCheck event =>
      decidable_of_iff (event.tenantId = tenantId ∧ event.custodianId = custodianId)
        (by simp [Brings, event?])
  | .clearCustodian _ _ => isFalse (by simp [Brings, event?])

/-- What is left of the events after a call. -/
def leave (kept : List TransactionEvent) : ClearingCall → List TransactionEvent
  | .recordAndCheck event => kept ++ [event]
  | .clearCustodian tenantId custodianId => forget tenantId custodianId kept

end ClearingCall

/-- All events that calls bring, cleared ones included. -/
def eventsOf (calls : List ClearingCall) : List TransactionEvent :=
  calls.filterMap ClearingCall.event?

/-- The events that no later call has cleared. -/
def remaining (calls : List ClearingCall) : List TransactionEvent :=
  calls.foldl ClearingCall.leave []

/-- Events come in the order of their times, whoever they belong to. -/
def Ordered (calls : List ClearingCall) : Prop :=
  (eventsOf calls).Pairwise (fun a b => a.micros ≤ b.micros)

/-- The calls without those that bring an event of the custodian. -/
def withoutCustodian (tenantId custodianId : String) (calls : List ClearingCall)
    : List ClearingCall :=
  calls.filter (fun call => ¬ call.Brings tenantId custodianId)

/-- The answers to calls after others, from a detector without events. -/
def answersAfter (settings : DetectorSettings) (lower : String → String)
    (past later : List ClearingCall)
    : List ClearingAnswer :=
  ((clearingMachine lower).history
    ((clearingMachine lower).exec (.empty settings) past) later).map (·.output)

/-- The answers that a detector would give that was only fed the events left. -/
def freshAnswers (settings : DetectorSettings) (lower : String → String)
    : List TransactionEvent → List ClearingCall → List ClearingAnswer
  | _, [] => []
  | kept, call :: later =>
      (match call with
        | .recordAndCheck event => .verdict (answerTo settings lower kept event)
        | .clearCustodian _ _ => .cleared)
      :: freshAnswers settings lower (call.leave kept) later

/-- The windows of custodians hold the events left. Those of tenants may have lost more of them,
but no reading from the latest event on can tell.
-/
structure Retains (settings : DetectorSettings) (calls : List ClearingCall)
    (s : SplitTransactionDetector)
    : Prop where
  configured : s.settings = settings
  custodian
    : ∀ tenantId custodianId,
        s.windows.getD (tenantId, custodianId) []
        = settings.custodianWindow tenantId custodianId (remaining calls)
  sublist
    : ∀ tenantId,
        (s.tenantWindows.getD tenantId []).Sublist
          (settings.tenantEvents tenantId (remaining calls))
  reads
    : ∀ tenantId reference,
        (∀ e ∈ eventsOf calls, e.micros ≤ reference)
        → expire TransactionEvent.micros settings.windowMicros reference
            (s.tenantWindows.getD tenantId [])
          = expire TransactionEvent.micros settings.windowMicros reference
              (settings.tenantEvents tenantId (remaining calls))

section Clearing

variable {settings : DetectorSettings} {lower : String → String} {calls : List ClearingCall}
  {s : SplitTransactionDetector} {event : TransactionEvent} {tenantId custodianId : String}

theorem remaining_concat (calls : List ClearingCall) (call : ClearingCall)
    : remaining (calls ++ [call]) = call.leave (remaining calls) := by
  rw [remaining, List.foldl_append]
  rfl

theorem eventsOf_append (calls later : List ClearingCall)
    : eventsOf (calls ++ later) = eventsOf calls ++ eventsOf later :=
  List.filterMap_append

theorem eventsOf_record (calls : List ClearingCall) (event : TransactionEvent)
    : eventsOf (calls ++ [.recordAndCheck event]) = eventsOf calls ++ [event] :=
  eventsOf_append calls _

theorem eventsOf_clear (calls : List ClearingCall) (tenantId custodianId : String)
    : eventsOf (calls ++ [.clearCustodian tenantId custodianId]) = eventsOf calls :=
  (eventsOf_append calls _).trans (List.append_nil _)

/-- What is left is left in order. -/
theorem remaining_sublist (calls : List ClearingCall)
    : (remaining calls).Sublist (eventsOf calls) := by
  induction calls using List.reverseRecOn with
  | nil => exact .slnil
  | append_singleton calls call ih =>
      rw [remaining_concat]
      cases call with
      | recordAndCheck event =>
          rw [eventsOf_record]
          exact ih.append_right [event]
      | clearCustodian tenantId custodianId =>
          rw [eventsOf_clear]
          exact List.filter_sublist.trans ih

theorem Ordered.before (ordered : Ordered (calls ++ [.recordAndCheck event]))
    : ∀ e ∈ eventsOf calls, e.micros ≤ event.micros := by
  unfold Ordered at ordered
  rw [eventsOf_record] at ordered
  exact fun e member => (List.pairwise_append.mp ordered).2.2 e member event (by simp)

theorem Ordered.left {later : List ClearingCall} (ordered : Ordered (calls ++ later))
    : Ordered calls := by
  unfold Ordered at ordered
  rw [eventsOf_append] at ordered
  exact (List.pairwise_append.mp ordered).1

theorem tenantEvents_sorted (ordered : Ordered calls) (tenantId : String)
    : (settings.tenantEvents tenantId (remaining calls)).Pairwise
        (fun a b => a.micros ≤ b.micros) :=
  ordered.sublist (List.filter_sublist.trans (remaining_sublist calls))

theorem tenantEvents_forget (tenantId custodianId : String) (events : List TransactionEvent)
    (tenant : String)
    : settings.tenantEvents tenant (forget tenantId custodianId events)
      = if tenantId = tenant then
          (settings.tenantEvents tenant events).filter (·.custodianId ≠ custodianId)
        else
          settings.tenantEvents tenant events := by
  unfold DetectorSettings.tenantEvents forget
  by_cases same : tenantId = tenant
  · rw [if_pos same, List.filter_filter, List.filter_filter]
    apply List.filter_congr
    intro e _
    by_cases own : e.tenantId = tenant
    · simp [same, own, Bool.and_comm]
    · simp [own]
  · rw [if_neg same, List.filter_filter]
    apply List.filter_congr
    intro e _
    by_cases own : e.tenantId = tenant
    · simp [own, Ne.symm same]
    · simp [own]

/-- A custodian's window is empty without the custodian's events, and does without all others. -/
theorem custodianWindow_forget (tenantId custodianId : String) (events : List TransactionEvent)
    (tenant custodian : String)
    : settings.custodianWindow tenant custodian (forget tenantId custodianId events)
      = if (tenantId, custodianId) = (tenant, custodian) then
          []
        else
          settings.custodianWindow tenant custodian events := by
  unfold DetectorSettings.custodianWindow DetectorSettings.custodianEvents
  rw [tenantEvents_forget]
  by_cases sameTenant : tenantId = tenant
  · rw [if_pos sameTenant, List.filter_filter]
    by_cases same : custodianId = custodian
    · rw [if_pos (Prod.ext sameTenant same), List.filter_eq_nil_iff.mpr (by simp [same])]
      rfl
    · rw [if_neg (fun both => same (Prod.mk.inj both).2)]
      congr 1
      apply List.filter_congr
      intro e _
      by_cases own : e.custodianId = custodian
      · simp [own, Ne.symm same]
      · simp [own]
  · rw [if_neg sameTenant, if_neg (fun both => sameTenant (Prod.mk.inj both).1)]

theorem Retains.empty (settings : DetectorSettings) : Retains settings [] (.empty settings) :=
  ⟨rfl, fun _ _ => rfl, fun _ => .slnil, fun _ _ _ => rfl⟩

/-- Clearing takes the custodian's events out of what is left. With events in order it makes no
difference whether a window is read before or after that.
-/
theorem Retains.clear (retains : Retains settings calls s) (ordered : Ordered calls)
    (tenantId custodianId : String)
    : Retains settings (calls ++ [.clearCustodian tenantId custodianId])
        (s.clearCustodian tenantId custodianId) := by
  have window (tenant : String)
      : (s.clearCustodian tenantId custodianId).tenantWindows.getD tenant []
        = if tenantId = tenant then
            (s.tenantWindows.getD tenant []).filter (·.custodianId ≠ custodianId)
          else
            s.tenantWindows.getD tenant [] := by
    unfold SplitTransactionDetector.clearCustodian
    by_cases same : tenantId = tenant
    · subst same
      -- A tenant without events has no window to be written
      by_cases empty : s.tenantWindows.getD tenantId [] = []
      · simp [empty]
      · simp [empty, Dict.getD_set_self]
    · by_cases empty : s.tenantWindows.getD tenantId [] = []
      · simp [empty, same]
      · simp [empty, same, Dict.getD_set_ne _ _ _ same]
  refine ⟨retains.configured, fun tenant custodian => ?_, fun tenant => ?_,
    fun tenant reference latest => ?_⟩
  · rw [remaining_concat, ClearingCall.leave, custodianWindow_forget, ← retains.custodian]
    simp only [SplitTransactionDetector.clearCustodian, Dict.getD, Dict.get?_erase]
    split <;> rfl
  · rw [remaining_concat, ClearingCall.leave, window, tenantEvents_forget]
    split
    · exact (retains.sublist tenant).filter _
    · exact retains.sublist tenant
  · rw [eventsOf_clear] at latest
    rw [remaining_concat, ClearingCall.leave, window, tenantEvents_forget]
    have same := retains.reads tenant reference latest
    split
    · have sorted := @tenantEvents_sorted settings _ ordered tenant
      have sortedWindow := sorted.sublist (retains.sublist tenant)
      rw [expire_of_sorted sortedWindow, expire_of_sorted sorted] at same
      rw [expire_of_sorted (sortedWindow.filter _), expire_of_sorted (sorted.filter _),
        List.filter_comm, same, List.filter_comm]
    · exact same

theorem addToTenant_sublist (window : List TransactionEvent) (event : TransactionEvent)
    : (SplitTransactionDetector.addToTenant settings window event).Sublist (window ++ [event]) := by
  unfold SplitTransactionDetector.addToTenant
  split
  · exact expire_sublist
  · exact expire_sublist.append_right [event]

/-- From an event on, a window is read as if nothing had been dropped for the event. -/
theorem expire_addToTenant (window : List TransactionEvent) {reference : Int}
    (later : event.micros ≤ reference)
    : expire TransactionEvent.micros settings.windowMicros reference
          (SplitTransactionDetector.addToTenant settings window event)
        = expire TransactionEvent.micros settings.windowMicros reference (window ++ [event]) := by
  unfold SplitTransactionDetector.addToTenant
  split
  · have again
        : expire TransactionEvent.micros settings.windowMicros reference
            (push TransactionEvent.micros settings.windowMicros window event ++ [])
          = expire TransactionEvent.micros settings.windowMicros reference
              (window ++ [event] ++ []) :=
      expire_append_expire later []
    rwa [List.append_nil, List.append_nil] at again
  · exact expire_append_expire later [event]

/-- An event that is not recorded changes nothing. -/
theorem Retains.skip (retains : Retains settings calls s)
    (undated : ¬ settings.Dated event.timestamp)
    : Retains settings (calls ++ [.recordAndCheck event])
        { s with
          windows :=
            s.windows.set (event.tenantId, event.custodianId)
              (s.windows.getD (event.tenantId, event.custodianId) []) } := by
  have recorded (tenant : String)
      : settings.tenantEvents tenant (remaining (calls ++ [.recordAndCheck event]))
        = settings.tenantEvents tenant (remaining calls) := by
    rw [remaining_concat, ClearingCall.leave, tenantEvents_append,
      if_neg (fun own => undated own.1)]
  refine ⟨retains.configured, fun tenant custodian => ?_, fun tenant => ?_,
    fun tenant reference latest => ?_⟩
  · rw [remaining_concat, ClearingCall.leave, custodianWindow_append,
      if_neg (fun own => undated own.1), ← retains.custodian]
    exact Lags.getD_set_getD s.windows _ _
  · rw [recorded]
    exact retains.sublist tenant
  · rw [eventsOf_record] at latest
    rw [recorded]
    exact retains.reads tenant reference (fun e member => latest e (List.mem_append_left _ member))

/-- From an event on, the window of its tenant is read as if it held all events left. -/
theorem Retains.reads_next (retains : Retains settings calls s)
    (ordered : Ordered (calls ++ [.recordAndCheck event])) {reference : Int}
    (later : event.micros ≤ reference)
    : expire TransactionEvent.micros settings.windowMicros reference
        (SplitTransactionDetector.addToTenant settings (s.tenantWindows.getD event.tenantId [])
          event)
      = expire TransactionEvent.micros settings.windowMicros reference
          (settings.tenantEvents event.tenantId (remaining calls) ++ [event]) := by
  rw [expire_addToTenant _ later, ← expire_append_expire later,
    retains.reads event.tenantId event.micros ordered.before, expire_append_expire later]

/-- An event that is recorded enters what is left. -/
theorem Retains.add (retains : Retains settings calls s)
    (ordered : Ordered (calls ++ [.recordAndCheck event]))
    (dated : settings.Dated event.timestamp) (lower : String → String)
    : Retains settings (calls ++ [.recordAndCheck event]) (s.recordAndCheck lower event).2 := by
  obtain rfl := retains.configured
  obtain ⟨_, configured, windows, own, others⟩ :=
    SplitTransactionDetector.recordAndCheck_dated lower dated
  have entered
      : s.settings.tenantEvents event.tenantId (remaining calls ++ [event])
        = s.settings.tenantEvents event.tenantId (remaining calls) ++ [event] := by
    rw [tenantEvents_append, if_pos ⟨dated, rfl⟩]
  -- Only the windows of the event have changed, and they have gained the event
  refine ⟨configured, fun tenant custodian => ?_, fun tenant => ?_,
    fun tenant reference latest => ?_⟩
  · rw [windows, remaining_concat, ClearingCall.leave, custodianWindow_append]
    by_cases same : (event.tenantId, event.custodianId) = (tenant, custodian)
    · obtain ⟨rfl, rfl⟩ := Prod.mk.inj same
      rw [Dict.getD_set_self, if_pos ⟨dated, rfl, rfl⟩, retains.custodian]
    · rw [Dict.getD_set_ne _ _ _ same, if_neg (fun all => same (Prod.ext all.2.1 all.2.2)),
        retains.custodian]
  · rw [remaining_concat, ClearingCall.leave]
    by_cases same : tenant = event.tenantId
    · subst same
      rw [own, entered]
      exact (addToTenant_sublist _ _).trans ((retains.sublist event.tenantId).append_right [event])
    · rw [others tenant same, tenantEvents_append, if_neg (fun all => same all.2.symm)]
      exact retains.sublist tenant
  · rw [eventsOf_record] at latest
    rw [remaining_concat, ClearingCall.leave]
    by_cases same : tenant = event.tenantId
    · subst same
      rw [own, entered, retains.reads_next ordered (latest event (by simp))]
    · rw [others tenant same, tenantEvents_append, if_neg (fun all => same all.2.symm)]
      exact retains.reads tenant reference
        (fun e member => latest e (List.mem_append_left _ member))

/-- An event is answered from the events left. -/
theorem Retains.answer (retains : Retains settings calls s)
    (ordered : Ordered (calls ++ [.recordAndCheck event]))
    (dated : settings.Dated event.timestamp) (lower : String → String)
    : (s.recordAndCheck lower event).1
      = settings.verdict lower (remaining calls ++ [event]) event := by
  obtain rfl := retains.configured
  obtain ⟨answer, _⟩ := SplitTransactionDetector.recordAndCheck_dated lower dated
  have window
      : s.settings.custodianWindow event.tenantId event.custodianId (remaining calls ++ [event])
        = slide TransactionEvent.micros s.settings.windowMicros
            (s.settings.custodianWindow event.tenantId event.custodianId (remaining calls))
            event := by
    rw [custodianWindow_append, if_pos ⟨dated, rfl, rfl⟩]
  rw [answer, DetectorSettings.verdict, if_pos dated, window, retains.custodian]
  cases enabled : s.settings.enableGraphClustering with
  | false => simp only [Bool.false_eq_true, ↓reduceIte]
  | true =>
      have before
          : ∀ e ∈ s.settings.tenantEvents event.tenantId (remaining calls),
              e.micros ≤ event.micros :=
        fun e member =>
          ordered.before e ((remaining_sublist calls).subset (List.mem_of_mem_filter member))
      -- The window has just been read for the event, and reads the same once more
      have read
          : SplitTransactionDetector.addToTenant s.settings
              (s.tenantWindows.getD event.tenantId []) event
            = s.settings.tenantWindow event.tenantId (remaining calls ++ [event]) := by
        rw [tenantWindow_latest enabled dated before, ← retains.reads_next ordered le_rfl,
          expire_addToTenant _ le_rfl, SplitTransactionDetector.addToTenant, if_pos enabled]
        rfl
      rw [read]

theorem Retains.record (retains : Retains settings calls s)
    (ordered : Ordered (calls ++ [.recordAndCheck event])) (lower : String → String)
    : (s.recordAndCheck lower event).1 = answerTo settings lower (remaining calls) event
      ∧ Retains settings (calls ++ [.recordAndCheck event]) (s.recordAndCheck lower event).2 := by
  rw [answerTo_eq]
  by_cases dated : settings.Dated event.timestamp
  · exact ⟨retains.answer ordered dated lower, retains.add ordered dated lower⟩
  · have refused
        : s.recordAndCheck lower event
          = (.error .overflowError,
              { s with
                windows :=
                  s.windows.set (event.tenantId, event.custodianId)
                    (s.windows.getD (event.tenantId, event.custodianId) []) }) :=
      SplitTransactionDetector.recordAndCheck_undated lower (retains.configured ▸ dated)
    rw [refused, verdict_undated dated]
    exact ⟨rfl, retains.skip dated⟩

/-- Every run of calls with events in order, by induction over the calls. -/
theorem exec_retains (lower : String → String) (ordered : Ordered calls)
    : Retains settings calls ((clearingMachine lower).exec (.empty settings) calls) := by
  induction calls using List.reverseRecOn with
  | nil => exact .empty settings
  | append_singleton calls call ih =>
      have retains := ih ordered.left
      rw [Machine.exec_concat]
      cases call with
      | recordAndCheck event => exact (retains.record ordered lower).2
      | clearCustodian tenantId custodianId =>
          exact retains.clear ordered.left tenantId custodianId

/-- The detector answers like a new one that was only fed the events left. -/
theorem answersAfter_eq (past later : List ClearingCall) (ordered : Ordered (past ++ later))
    : answersAfter settings lower past later
      = freshAnswers settings lower (remaining past) later := by
  induction later generalizing past with
  | nil => rfl
  | cons call later ih =>
      have split : past ++ call :: later = past ++ [call] ++ later := by simp
      rw [split] at ordered
      have retains := @exec_retains settings _ lower ordered.left.left
      have rest := ih (past ++ [call]) ordered
      rw [remaining_concat] at rest
      unfold answersAfter at rest ⊢
      rw [Machine.exec_concat] at rest
      unfold freshAnswers
      rw [Machine.history, List.map_cons]
      refine congrArg₂ List.cons ?_ rest
      cases call with
      | recordAndCheck event =>
          exact congrArg ClearingAnswer.verdict (retains.record ordered.left lower).1
      | clearCustodian tenantId custodianId => rfl

theorem forget_concat (tenantId custodianId : String) (kept : List TransactionEvent)
    (event : TransactionEvent)
    : forget tenantId custodianId (kept ++ [event])
      = if event.tenantId = tenantId ∧ event.custodianId = custodianId then
          forget tenantId custodianId kept
        else
          forget tenantId custodianId kept ++ [event] := by
  unfold forget
  rw [List.filter_append]
  split
  · rename_i own
    rw [List.filter_cons_of_neg (by simp [own]), List.filter_nil, List.append_nil]
  · rename_i other
    rw [List.filter_cons_of_pos (by simpa using not_and_or.mp other), List.filter_nil]

/-- Clearing a custodian leaves what is left without the custodian's calls. -/
theorem remaining_without (tenantId custodianId : String) (calls : List ClearingCall)
    : remaining (withoutCustodian tenantId custodianId calls)
      = forget tenantId custodianId (remaining calls) := by
  induction calls using List.reverseRecOn with
  | nil => rfl
  | append_singleton calls call ih =>
      have kept
          : withoutCustodian tenantId custodianId (calls ++ [call])
            = withoutCustodian tenantId custodianId calls
              ++ [call].filter (fun call => ¬ call.Brings tenantId custodianId) :=
        List.filter_append ..
      rw [kept, remaining_concat]
      cases call with
      | recordAndCheck event =>
          rw [ClearingCall.leave, forget_concat]
          by_cases own : event.tenantId = tenantId ∧ event.custodianId = custodianId
          · have brings
                : (ClearingCall.recordAndCheck event).Brings tenantId custodianId :=
              ⟨event, rfl, own⟩
            rw [List.filter_cons_of_neg (by simp [brings]), List.filter_nil, List.append_nil, ih,
              if_pos own]
          · have apart
                : ¬ (ClearingCall.recordAndCheck event).Brings tenantId custodianId := by
              rintro ⟨_, ⟨⟩, same⟩
              exact own same
            rw [List.filter_cons_of_pos (by simp [apart]), List.filter_nil, remaining_concat, ih,
              ClearingCall.leave, if_neg own]
      | clearCustodian tenant custodian =>
          -- Clearing brings no event, so it is kept, and what it forgets may be forgotten later
          have apart
              : ¬ (ClearingCall.clearCustodian tenant custodian).Brings tenantId custodianId := by
            rintro ⟨_, ⟨⟩, _⟩
          rw [List.filter_cons_of_pos (by simp [apart]), List.filter_nil, remaining_concat, ih]
          exact List.filter_comm ..

theorem withoutCustodian_sublist (tenantId custodianId : String) (calls : List ClearingCall)
    : (eventsOf (withoutCustodian tenantId custodianId calls)).Sublist (eventsOf calls) :=
  List.filter_sublist.filterMap _

/-- What is answered after a clearing is answered from the events of others. -/
theorem answersAfter_clear (lower : String → String) {past later : List ClearingCall}
    (ordered : Ordered (past ++ later)) (tenantId custodianId : String)
    : answersAfter settings lower (past ++ [.clearCustodian tenantId custodianId]) later
      = freshAnswers settings lower (forget tenantId custodianId (remaining past)) later := by
  have same : Ordered (past ++ [.clearCustodian tenantId custodianId] ++ later) := by
    unfold Ordered at ordered ⊢
    rwa [eventsOf_append, eventsOf_clear, ← eventsOf_append]
  rw [answersAfter_eq _ _ same, remaining_concat]
  rfl

end Clearing

section Sample

/-- Two custodians pay at one shop, the first one two days later again. -/
def beforeClearing : List ClearingCall := [
  .recordAndCheck (payment "T1" "A" "c1" 0),
  .recordAndCheck (payment "T2" "A" "c2" 10),
  .recordAndCheck (payment "T3" "A" "c1" 50)
]

def afterClearing : List ClearingCall := [
  .recordAndCheck (payment "T4" "A" "c2" 55),
  .clearCustodian "A" "c2",
  .recordAndCheck (payment "T5" "A" "c1" 56)
]

end Sample

end PettyFlow.Fraud
