import PettyFlow.Fraud.Verdicts

/-! Events of one tenant that arrive in any order, the latest one last. Old events are dropped
at the front of a window only: which of them are left depends on what arrived before them.
-/

namespace PettyFlow.Fraud

open Foundation

/-- The total of the alert in an answer. -/
def reportedTotal : Verdict → Option Int
  | .ok (some alert) => some alert.windowTotalScaled
  | _ => none

/-- The alert in an answer, if any, spans no more than the window. -/
def WithinWindow (settings : DetectorSettings) (verdict : Verdict) : Prop :=
  ∀ alert,
    verdict = .ok (some alert)
    → alert.windowEnd.micros - alert.windowStart.micros ≤ settings.windowMicros

/-- In whatever order the events come before the last one, that one is answered with an alert of
the same total or with none, and no call on the way makes an alert beyond the window.
-/
def OrderIndependent (settings : DetectorSettings) (lower : String → String)
    (events : List TransactionEvent) (last : TransactionEvent)
    : Prop :=
  (∀ order order',
    order.Perm events
    → order'.Perm events
    → reportedTotal (answerTo settings lower order last)
      = reportedTotal (answerTo settings lower order' last))
  ∧ ∀ order,
      order.Perm events
      → ∀ call ∈ (detectorMachine lower).history (.empty settings) (order ++ [last]),
          WithinWindow settings call.output

/-- The events whose windows begin within the calendar. Others raise an exception. -/
def recordedEvents (settings : DetectorSettings) (events : List TransactionEvent)
    : List TransactionEvent :=
  events.filter (fun e => settings.Dated e.timestamp)

/-- An event is older than the window before the last one. -/
def Stale (settings : DetectorSettings) (last event : TransactionEvent) : Prop :=
  event.micros < last.micros - settings.windowMicros

instance (settings : DetectorSettings) (last event : TransactionEvent)
    : Decidable (Stale settings last event) := by
  unfold Stale
  infer_instance

/-- No connected component that passes spans more than the window. If the last event's component
does not pass, then its custodian's events do not pass together, or all but it are stale.
-/
structure SteadyClusters (settings : DetectorSettings) (lower : String → String)
    (recorded : List TransactionEvent) (last : TransactionEvent)
    : Prop where
  narrow
    : ∀ a ∈ recorded,
        settings.Passes (component recorded (settings.Linked lower) a)
        → ∀ b ∈ component recorded (settings.Linked lower) a,
            ∀ c ∈ component recorded (settings.Linked lower) a,
              c.micros - b.micros ≤ settings.windowMicros
  custodian
    : last ∈ recorded
      → ¬ settings.Passes (component recorded (settings.Linked lower) last)
      → settings.Passes (recorded.filter (fun e => e.custodianId = last.custodianId))
      → ∀ e ∈ recorded, e.custodianId = last.custodianId → e ≠ last → Stale settings last e

/-- If the custodian's events pass together, then all but the last are stale, or none is. A
window of negative length leaves events alone, and none of them passes.
-/
structure SteadyCustodian (settings : DetectorSettings) (recorded : List TransactionEvent)
    (last : TransactionEvent)
    : Prop where
  narrow : ∀ a ∈ recorded, settings.Passes [a] → 0 ≤ settings.windowMicros
  custodian
    : last ∈ recorded
      → settings.Passes (recorded.filter (fun e => e.custodianId = last.custodianId))
      → (∀ e ∈ recorded, e.custodianId = last.custodianId → e ≠ last → Stale settings last e)
        ∨ ∀ e ∈ recorded, e.custodianId = last.custodianId → e ≠ last → ¬ Stale settings last e

/-- The condition on a set of events under which their order makes no difference. -/
def Steady (settings : DetectorSettings) (lower : String → String)
    (events : List TransactionEvent) (last : TransactionEvent)
    : Prop :=
  let recorded := recordedEvents settings (events ++ [last])
  if settings.enableGraphClustering then
    SteadyClusters settings lower recorded last
  else
    SteadyCustodian settings recorded last

/-- Events of one tenant before the latest, which has an identifier of its own. -/
structure BeforeLast (events : List TransactionEvent) (last : TransactionEvent) : Prop where
  tenant : ∀ e ∈ events, e.tenantId = last.tenantId
  latest : ∀ e ∈ events, e.micros ≤ last.micros
  nodup : (events ++ [last]).Nodup
  unique : ∀ e ∈ events, e.transactionId ≠ last.transactionId

section Windows

variable {settings : DetectorSettings} {lower : String → String}
  {events order : List TransactionEvent} {last : TransactionEvent}

theorem BeforeLast.perm (before : BeforeLast events last) (perm : order.Perm events)
    : BeforeLast order last where
  tenant e member := before.tenant e (perm.mem_iff.mp member)
  latest e member := before.latest e (perm.mem_iff.mp member)
  nodup := (perm.append_right [last]).nodup_iff.mpr before.nodup
  unique e member := before.unique e (perm.mem_iff.mp member)

theorem recordedEvents_append (settings : DetectorSettings)
    (dated : settings.Dated last.timestamp)
    : recordedEvents settings (order ++ [last]) = recordedEvents settings order ++ [last] := by
  simp [recordedEvents, List.filter_append, dated]

theorem recordedEvents_cons (settings : DetectorSettings) {event : TransactionEvent}
    (dated : settings.Dated event.timestamp) (rest : List TransactionEvent)
    : recordedEvents settings (event :: rest) = event :: recordedEvents settings rest := by
  simp [recordedEvents, dated]

theorem recorded_perm (settings : DetectorSettings) (last : TransactionEvent)
    (perm : order.Perm events)
    : (recordedEvents settings (order ++ [last])).Perm
        (recordedEvents settings (events ++ [last])) :=
  (perm.append_right [last]).filter _

theorem tenantEvents_eq {tenantId : String} (tenant : ∀ e ∈ order, e.tenantId = tenantId)
    : settings.tenantEvents tenantId order = recordedEvents settings order := by
  apply List.filter_congr
  intro e member
  simp [tenant e member]

/-- The custodian's recorded events before the last one. -/
def ownEvents (settings : DetectorSettings) (order : List TransactionEvent)
    (last : TransactionEvent)
    : List TransactionEvent :=
  (recordedEvents settings order).filter (fun e => e.custodianId = last.custodianId)

theorem own_append (dated : settings.Dated last.timestamp)
    : (recordedEvents settings (order ++ [last])).filter
          (fun e => e.custodianId = last.custodianId)
      = ownEvents settings order last ++ [last] := by
  rw [recordedEvents_append settings dated, List.filter_append]
  simp [ownEvents]

/-- The custodian's window at the last event: old events are gone up to the first young one. -/
theorem custodianWindow_last (before : BeforeLast order last)
    (dated : settings.Dated last.timestamp)
    : settings.custodianWindow last.tenantId last.custodianId (order ++ [last])
      = expire TransactionEvent.micros settings.windowMicros last.micros
          (ownEvents settings order last)
        ++ [last] := by
  have recorded : settings.tenantEvents last.tenantId order = recordedEvents settings order :=
    tenantEvents_eq before.tenant
  have latest : ∀ e ∈ settings.tenantEvents last.tenantId order, e.micros ≤ last.micros :=
    fun e member => before.latest e (List.mem_of_mem_filter member)
  rw [custodianWindow_latest dated latest, DetectorSettings.custodianEvents, recorded]
  rfl

/-- The custodian's window is a part of the custodian's recorded events. -/
theorem custodianWindow_sublist (before : BeforeLast order last)
    (dated : settings.Dated last.timestamp)
    : (settings.custodianWindow last.tenantId last.custodianId (order ++ [last])).Sublist
        ((recordedEvents settings (order ++ [last])).filter
          (fun e => e.custodianId = last.custodianId)) := by
  rw [custodianWindow_last before dated, own_append dated]
  exact expire_sublist.append_right _

theorem mem_ownEvents {e : TransactionEvent}
    : e ∈ ownEvents settings order last
      ↔ e ∈ recordedEvents settings order ∧ e.custodianId = last.custodianId := by
  simp [ownEvents]

/-- The custodian's other events are recorded with the last one. -/
theorem own_recorded (before : BeforeLast order last) (dated : settings.Dated last.timestamp)
    {e : TransactionEvent} (own : e ∈ ownEvents settings order last)
    : e ∈ recordedEvents settings (order ++ [last]) ∧ e.custodianId = last.custodianId
      ∧ e ≠ last := by
  obtain ⟨recorded, custodian⟩ := mem_ownEvents.mp own
  refine ⟨?_, custodian, ?_⟩
  · rw [recordedEvents_append settings dated]
    exact List.mem_append_left _ recorded
  · intro equal
    exact before.unique e (List.mem_of_mem_filter recorded) (congrArg _ equal)

/-- When all other events of the custodian are stale, its window holds the last one alone. -/
theorem custodianWindow_alone (before : BeforeLast order last)
    (dated : settings.Dated last.timestamp)
    (stale : ∀ e ∈ ownEvents settings order last, Stale settings last e)
    : settings.custodianWindow last.tenantId last.custodianId (order ++ [last]) = [last] := by
  have none_
      : expire TransactionEvent.micros settings.windowMicros last.micros
          (ownEvents settings order last ++ [])
        = [] :=
    expire_old_append stale
  rw [List.append_nil] at none_
  rw [custodianWindow_last before dated, none_, List.nil_append]

theorem tenantWindow_last (before : BeforeLast order last)
    (enabled : settings.enableGraphClustering = true) (dated : settings.Dated last.timestamp)
    : settings.tenantWindow last.tenantId (order ++ [last])
      = expire TransactionEvent.micros settings.windowMicros last.micros
          (recordedEvents settings (order ++ [last])) := by
  have recorded : settings.tenantEvents last.tenantId order = recordedEvents settings order :=
    tenantEvents_eq before.tenant
  have latest : ∀ e ∈ settings.tenantEvents last.tenantId order, e.micros ≤ last.micros :=
    fun e member => before.latest e (List.mem_of_mem_filter member)
  rw [tenantWindow_latest enabled dated latest, recorded, recordedEvents_append settings dated]

/-- Each call of a run answers an event after the events before it. -/
theorem mem_history_answer {call : Event SplitTransactionDetector TransactionEvent Verdict}
    (member : call ∈ (detectorMachine lower).history (.empty settings) order)
    : ∃ past event rest,
        order = past ++ event :: rest
        ∧ call.output = settings.verdict lower (past ++ [event]) event := by
  obtain ⟨earlier, later, cut⟩ := List.append_of_mem member
  obtain ⟨past, rest, rfl, _, here⟩ := Machine.history_split _ cut
  cases rest with
  | nil => cases here
  | cons event rest =>
      obtain ⟨rfl, _⟩ := List.cons.inj here
      exact ⟨past, event, rest, rfl, answerTo_eq settings lower past event⟩

/-- The window of a custodian ends with the event, and begins with it or with a young one. -/
theorem custodianWindow_head (past : List TransactionEvent) {event : TransactionEvent}
    (dated : settings.Dated event.timestamp)
    : ∃ kept,
        settings.custodianWindow event.tenantId event.custodianId (past ++ [event])
          = kept ++ [event]
        ∧ (kept = []
          ∨ event.micros - settings.windowMicros ≤ ((kept ++ [event]).headD event).micros) := by
  rw [custodianWindow_append, if_pos ⟨dated, rfl, rfl⟩, slide]
  refine ⟨_, rfl, ?_⟩
  cases left_
    : expire TransactionEvent.micros settings.windowMicros event.micros
        (settings.custodianWindow event.tenantId event.custodianId past)
    with
  | nil => exact Or.inl rfl
  | cons first rest => exact Or.inr (head_expire left_)

theorem tenantEvents_sublist (settings : DetectorSettings) (tenantId : String)
    (history : List TransactionEvent)
    : (settings.tenantEvents tenantId history).Sublist (recordedEvents settings history) := by
  apply List.monotone_filter_right
  intro e holds
  simp only [decide_eq_true_eq] at holds ⊢
  exact holds.1

theorem tenantWindow_sublist (enabled : settings.enableGraphClustering = true)
    (tenantId : String) (history : List TransactionEvent)
    : (settings.tenantWindow tenantId history).Sublist (recordedEvents settings history) := by
  unfold DetectorSettings.tenantWindow
  rw [if_pos enabled]
  apply (foldl_push_sublist _).trans
  exact tenantEvents_sublist settings tenantId history

end Windows

section Spans

variable {settings : DetectorSettings} {lower : String → String}
  {recorded past : List TransactionEvent} {event last : TransactionEvent}
  {alert : SplitTransactionAlert}

/-- An alert for a custodian's window spans no more than the window, unless the event is alone
and the window is of negative length.
-/
theorem custodianAlert_within (dated : settings.Dated event.timestamp)
    (alone : settings.Passes [event] → 0 ≤ settings.windowMicros)
    (found
      : settings.custodianAlert event
          (settings.custodianWindow event.tenantId event.custodianId (past ++ [event]))
        = some alert)
    : alert.windowEnd.micros - alert.windowStart.micros ≤ settings.windowMicros := by
  obtain ⟨kept, window, begins⟩ := custodianWindow_head past dated
  rw [window] at found
  obtain ⟨passes, _, _, start, finish⟩ := custodianAlert_some found
  rw [start, finish, List.getLastD_concat]
  rcases begins with rfl | young
  · have nonneg := alone passes
    simpa using nonneg
  · unfold TransactionEvent.micros at young
    omega

/-- With narrow components an alert for a cluster is narrow, since it is a part of one. -/
theorem clusterAlert_within (steady : SteadyClusters settings lower recorded last)
    {window : List TransactionEvent} (nodup : window.Nodup) (subset : window ⊆ recorded)
    {tenantId : String}
    (found
      : settings.clusterAlert event (settings.clusters lower tenantId window) = some alert)
    : alert.windowEnd.micros - alert.windowStart.micros ≤ settings.windowMicros := by
  obtain ⟨a, member, _, passes, reports⟩ := clusterAlert_some nodup found
  have part
      : component window (settings.Linked lower) a
        ⊆ component recorded (settings.Linked lower) a :=
    component_subset subset
  have whole := passes_subset (component_nodup nodup) part passes
  have filled : component window (settings.Linked lower) a ≠ [] :=
    List.ne_nil_of_mem (mem_component.mpr ⟨member, .refl⟩)
  obtain ⟨⟨first, inside, atStart⟩, final, inside', atEnd⟩ := exists_ends filled
  rw [reports.windowStart, reports.windowEnd, ← atStart, ← atEnd]
  exact steady.narrow a (subset member) whole first (part inside) final (part inside')

end Spans

section Sufficient

variable {settings : DetectorSettings} {lower : String → String}
  {events order : List TransactionEvent} {last : TransactionEvent}

/-- Of a part of a run no more is recorded than of the whole set. -/
theorem recorded_subset (settings : DetectorSettings) (perm : order.Perm events)
    {past rest : List TransactionEvent} {event : TransactionEvent}
    (split : order ++ [last] = past ++ event :: rest)
    : recordedEvents settings (past ++ [event]) ⊆ recordedEvents settings (events ++ [last]) := by
  intro e member
  apply (recorded_perm settings last perm).mem_iff.mp
  obtain ⟨listed, dated⟩ := List.mem_filter.mp member
  refine List.mem_filter.mpr ⟨?_, dated⟩
  rw [split]
  rcases List.mem_append.mp listed with earlier | here
  · exact List.mem_append_left _ earlier
  · rw [List.mem_singleton.mp here]
    simp

theorem withinWindow_of_steady (steady : Steady settings lower events last)
    (nodup : (events ++ [last]).Nodup) (perm : order.Perm events)
    : ∀ call ∈ (detectorMachine lower).history (.empty settings) (order ++ [last]),
        WithinWindow settings call.output := by
  intro call member alert found
  obtain ⟨past, event, rest, split, output⟩ := mem_history_answer member
  rw [output] at found
  have subset := recorded_subset settings perm split
  have once : (past ++ [event]).Nodup := by
    have whole := (perm.append_right [last]).nodup_iff.mpr nodup
    rw [split, List.append_cons] at whole
    exact (List.nodup_append.mp whole).1
  by_cases dated : settings.Dated event.timestamp
  · have recorded : event ∈ recordedEvents settings (events ++ [last]) :=
      subset (List.mem_filter.mpr ⟨by simp, decide_eq_true dated⟩)
    unfold Steady at steady
    cases enabled : settings.enableGraphClustering with
    | true =>
        rw [enabled, if_pos rfl] at steady
        rw [verdict_enabled enabled dated] at found
        have window := tenantWindow_sublist enabled event.tenantId (past ++ [event])
        rcases Option.or_eq_some_iff.mp (Except.ok.inj found) with cluster | ⟨_, custodian⟩
        · exact clusterAlert_within steady ((once.filter _).sublist window)
            (fun e inside => subset (window.subset inside)) cluster
        · -- An event alone spans no time at all, so a window below zero is not steady
          apply custodianAlert_within dated _ custodian
          intro alone
          have self
              : event
                ∈ component (recordedEvents settings (events ++ [last]))
                    (settings.Linked lower) event :=
            mem_component.mpr ⟨recorded, .refl⟩
          have passes :=
            passes_subset (List.nodup_singleton event) (List.cons_subset.mpr ⟨self, by simp⟩) alone
          have narrow := steady.narrow event recorded passes event self event self
          omega
    | false =>
        rw [enabled] at steady
        simp only [Bool.false_eq_true, if_false] at steady
        rw [verdict_disabled enabled dated] at found
        exact custodianAlert_within dated (steady.narrow event recorded) (Except.ok.inj found)
  · rw [verdict_undated dated] at found
    cases found

/-- If the custodian's window passes in some order, all its events pass together. -/
theorem passes_together (before : BeforeLast order last) (perm : order.Perm events)
    (dated : settings.Dated last.timestamp)
    (passes
      : settings.Passes
          (settings.custodianWindow last.tenantId last.custodianId (order ++ [last])))
    : settings.Passes
        ((recordedEvents settings (events ++ [last])).filter
          (fun e => e.custodianId = last.custodianId)) := by
  have sublist := custodianWindow_sublist before dated
  have nodup := ((before.nodup.filter _).filter _).sublist sublist
  apply passes_subset nodup _ passes
  intro e inside
  exact ((recorded_perm settings last perm).filter _).mem_iff.mp (sublist.subset inside)

/-- When the last event's component does not pass in the whole set, it does not in a window, and
the answer is that for the custodian's window.
-/
theorem verdict_unclustered (enabled : settings.enableGraphClustering = true)
    (before : BeforeLast order last) (perm : order.Perm events)
    (dated : settings.Dated last.timestamp)
    (fails
      : ¬ settings.Passes
          (component (recordedEvents settings (events ++ [last])) (settings.Linked lower) last))
    : settings.verdict lower (order ++ [last]) last
      = .ok
          (settings.custodianAlert last
            (settings.custodianWindow last.tenantId last.custodianId (order ++ [last]))) := by
  have sublist := tenantWindow_sublist enabled last.tenantId (order ++ [last])
  have nodup := (before.nodup.filter _).sublist sublist
  have subset
      : settings.tenantWindow last.tenantId (order ++ [last])
        ⊆ recordedEvents settings (events ++ [last]) :=
    fun e inside => (recorded_perm settings last perm).mem_iff.mp (sublist.subset inside)
  have unique
      : ∀ a ∈ settings.tenantWindow last.tenantId (order ++ [last]),
          a.transactionId = last.transactionId → a = last := by
    intro a inside same
    rcases List.mem_append.mp (List.mem_of_mem_filter (sublist.subset inside)) with earlier | own
    · exact absurd same (before.unique a earlier)
    · exact List.mem_singleton.mp own
  rw [verdict_enabled enabled dated,
    clusterAlert_none nodup last.tenantId unique
      (mt (passes_subset (component_nodup nodup) (component_subset subset)) fails),
    Option.none_or]

/-- With clusters, the answer for the last event in any order, in terms of the whole set: by
narrowness its component consists of young events, which are always left in the window.
-/
theorem reportedTotal_clusters (enabled : settings.enableGraphClustering = true)
    (before : BeforeLast order last) (perm : order.Perm events)
    (dated : settings.Dated last.timestamp)
    (steady : SteadyClusters settings lower (recordedEvents settings (events ++ [last])) last)
    : let watched :=
        component (recordedEvents settings (events ++ [last])) (settings.Linked lower) last
      reportedTotal (settings.verdict lower (order ++ [last]) last)
      = if settings.Passes watched then some (totalScaled watched) else none := by
  intro watched
  have same := recorded_perm settings last perm
  have recordedNodup : (recordedEvents settings (order ++ [last])).Nodup := before.nodup.filter _
  have lastRecorded : last ∈ recordedEvents settings (order ++ [last]) :=
    List.mem_filter.mpr ⟨by simp, decide_eq_true dated⟩
  have wholeNodup := same.nodup_iff.mp recordedNodup
  have inWhole := same.mem_iff.mp lastRecorded
  by_cases passes : settings.Passes watched
  · rw [verdict_enabled enabled dated, tenantWindow_last before enabled dated]
    generalize hWindow
      : expire TransactionEvent.micros settings.windowMicros last.micros
          (recordedEvents settings (order ++ [last]))
        = window
    have windowSublist : window.Sublist (recordedEvents settings (order ++ [last])) :=
      hWindow ▸ expire_sublist
    have windowNodup := recordedNodup.sublist windowSublist
    have unique : ∀ a ∈ window, a.transactionId = last.transactionId → a = last := by
      intro a inside sameId
      have listed := List.mem_of_mem_filter (windowSublist.subset inside)
      rcases List.mem_append.mp listed with earlier | own
      · exact absurd sameId (before.unique a earlier)
      · exact List.mem_singleton.mp own
    have inAll : window ⊆ recordedEvents settings (events ++ [last]) :=
      fun e inside => same.mem_iff.mp (windowSublist.subset inside)
    have self : last ∈ watched := mem_component.mpr ⟨inWhole, .refl⟩
    have left_ : watched ⊆ window := by
      intro b inside
      have near := steady.narrow last inWhole passes b inside last self
      rw [← hWindow]
      exact mem_expire (same.mem_iff.mpr (mem_component.mp inside).1) (by omega)
    have equal : (component window (settings.Linked lower) last).Perm watched :=
      component_perm_of_subset windowNodup wholeNodup inWhole inAll left_
    have lonely
        : window.length < 2
          → settings.custodianWindow last.tenantId last.custodianId (order ++ [last])
            = [last] := by
      intro short
      apply custodianWindow_alone before dated
      intro e own
      by_contra young
      -- A young event of the custodian would be left beside the last one
      obtain ⟨listed, _, apart⟩ := own_recorded before dated own
      have inWindow : e ∈ window := hWindow ▸ mem_expire listed (not_lt.mp young)
      have pair : [e, last].Nodup := by simpa using apart
      have two := (pair.subperm (by simp [inWindow, left_ self] : [e, last] ⊆ window)).length_le
      exact absurd short (not_lt.mpr two)
    obtain ⟨alert, found, reports⟩ :=
      alert_of_passes windowNodup last.tenantId (left_ self) unique lonely
        ((passes_perm equal).mpr passes)
    rw [found, if_pos passes]
    exact congrArg some (reports.total.trans (totalScaled_perm equal))
  · have custodianFails
        : ¬ settings.Passes
            (settings.custodianWindow last.tenantId last.custodianId (order ++ [last])) := by
      intro passesWindow
      have stale :=
        steady.custodian inWhole passes (passes_together before perm dated passesWindow)
      have alone : ∀ e ∈ ownEvents settings order last, Stale settings last e := by
        intro e own
        obtain ⟨listed, custodian, apart⟩ := own_recorded before dated own
        exact stale e (same.mem_iff.mp listed) custodian apart
      rw [custodianWindow_alone before dated alone] at passesWindow
      have self : last ∈ watched := mem_component.mpr ⟨inWhole, .refl⟩
      exact passes (passes_subset (List.nodup_singleton last)
        (List.cons_subset.mpr ⟨self, by simp⟩) passesWindow)
    rw [verdict_unclustered enabled before perm dated passes,
      (custodianAlert_none settings last).mpr custodianFails, if_neg passes]
    rfl

/-- The answer for a custodian's window, in terms of any list of the same events. -/
theorem reportedTotal_window {window members : List TransactionEvent}
    (perm : window.Perm members)
    : reportedTotal (.ok (settings.custodianAlert last window))
      = if settings.Passes members then some (totalScaled members) else none := by
  cases found : settings.custodianAlert last window with
  | none =>
      have fails := mt (passes_perm perm).mpr ((custodianAlert_none settings last).mp found)
      rw [if_neg fails]
      rfl
  | some alert =>
      obtain ⟨passes, total, _⟩ := custodianAlert_some found
      rw [if_pos ((passes_perm perm).mp passes), ← totalScaled_perm perm, ← total]
      rfl

/-- Without clusters, the answer for the last event is the same in every order. -/
theorem reportedTotal_custodian (disabled : settings.enableGraphClustering = false)
    (dated : settings.Dated last.timestamp) (before : BeforeLast events last)
    (steady : SteadyCustodian settings (recordedEvents settings (events ++ [last])) last)
    : ∃ members,
        ∀ order,
          order.Perm events
          → reportedTotal (settings.verdict lower (order ++ [last]) last)
            = if settings.Passes members then some (totalScaled members) else none := by
  have inWhole : last ∈ recordedEvents settings (events ++ [last]) :=
    List.mem_filter.mpr ⟨by simp, decide_eq_true dated⟩
  let together :=
    (recordedEvents settings (events ++ [last])).filter
      (fun e => e.custodianId = last.custodianId)
  by_cases passes : settings.Passes together
  · rcases steady.custodian inWhole passes with stale | young
    · -- Every other record of the custodian is too old, in whichever order they came
      refine ⟨[last], fun order perm => ?_⟩
      have beforeOrder := before.perm perm
      have alone : ∀ e ∈ ownEvents settings order last, Stale settings last e := by
        intro e own
        obtain ⟨listed, custodian, apart⟩ := own_recorded beforeOrder dated own
        exact stale e ((recorded_perm settings last perm).mem_iff.mp listed) custodian apart
      rw [verdict_disabled disabled dated, custodianWindow_alone beforeOrder dated alone]
      exact reportedTotal_window (.refl _)
    · -- None of them is too old, so the window holds them all, and only their order differs
      refine ⟨together, fun order perm => ?_⟩
      have beforeOrder := before.perm perm
      have whole
          : expire TransactionEvent.micros settings.windowMicros last.micros
              (ownEvents settings order last)
            = ownEvents settings order last := by
        cases own : ownEvents settings order last with
        | nil => rfl
        | cons first rest =>
            obtain ⟨listed, custodian, apart⟩ :=
              own_recorded beforeOrder dated (own ▸ List.mem_cons_self)
            have inAll := (recorded_perm settings last perm).mem_iff.mp listed
            exact expire_cons (not_lt.mp (young first inAll custodian apart))
      rw [verdict_disabled disabled dated, custodianWindow_last beforeOrder dated, whole,
        ← own_append dated]
      exact reportedTotal_window ((recorded_perm settings last perm).filter _)
  · refine ⟨together, fun order perm => ?_⟩
    have fails := mt (passes_together (before.perm perm) perm dated) passes
    rw [verdict_disabled disabled dated, reportedTotal_window (.refl _), if_neg fails,
      if_neg passes]

/-- Of a steady set of events the order makes no difference. -/
theorem orderIndependent_of_steady (before : BeforeLast events last)
    (steady : Steady settings lower events last)
    : OrderIndependent settings lower events last := by
  refine ⟨?_, fun order perm => withinWindow_of_steady steady before.nodup perm⟩
  intro order order' perm perm'
  rw [answerTo_eq, answerTo_eq]
  by_cases dated : settings.Dated last.timestamp
  · unfold Steady at steady
    cases enabled : settings.enableGraphClustering with
    | true =>
        rw [enabled, if_pos rfl] at steady
        rw [reportedTotal_clusters enabled (before.perm perm) perm dated steady,
          reportedTotal_clusters enabled (before.perm perm') perm' dated steady]
    | false =>
        rw [enabled] at steady
        simp only [Bool.false_eq_true, if_false] at steady
        obtain ⟨members, always⟩ := reportedTotal_custodian enabled dated before steady
        rw [always order perm, always order' perm']
  · rw [verdict_undated dated, verdict_undated dated]

end Sufficient

end PettyFlow.Fraud
