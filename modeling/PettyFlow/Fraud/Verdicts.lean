import PettyFlow.Fraud.Clusters

/-! What the detector answers, in terms of the events it was fed. Its windows are made of the
events of the tenant or the custodian alone, whatever events come in between.
-/

namespace PettyFlow.Fraud

open Foundation

namespace DetectorSettings

/-- The events of a tenant that were recorded. -/
def tenantEvents (settings : DetectorSettings) (tenantId : String)
    (history : List TransactionEvent)
    : List TransactionEvent :=
  history.filter (fun e => settings.Dated e.timestamp ∧ e.tenantId = tenantId)

/-- The events of a custodian that were recorded. -/
def custodianEvents (settings : DetectorSettings) (tenantId custodianId : String)
    (history : List TransactionEvent)
    : List TransactionEvent :=
  (settings.tenantEvents tenantId history).filter (fun e => e.custodianId = custodianId)

def custodianWindow (settings : DetectorSettings) (tenantId custodianId : String)
    (history : List TransactionEvent)
    : List TransactionEvent :=
  (settings.custodianEvents tenantId custodianId history).foldl
    (slide TransactionEvent.micros settings.windowMicros) []

/-- With clusters, the window of a tenant is read again after each event. -/
def tenantWindow (settings : DetectorSettings) (tenantId : String)
    (history : List TransactionEvent)
    : List TransactionEvent :=
  (settings.tenantEvents tenantId history).foldl
    (if settings.enableGraphClustering then
      push TransactionEvent.micros settings.windowMicros
    else
      slide TransactionEvent.micros settings.windowMicros)
    []

/-- The answer for the last event of a history. -/
def verdict (settings : DetectorSettings) (lower : String → String)
    (history : List TransactionEvent) (event : TransactionEvent)
    : Verdict :=
  if settings.Dated event.timestamp then
    let fallback :=
      settings.custodianAlert event
        (settings.custodianWindow event.tenantId event.custodianId history)
    let clusters :=
      settings.clusters lower event.tenantId (settings.tenantWindow event.tenantId history)
    .ok
      (if settings.enableGraphClustering then
        (settings.clusterAlert event clusters).or fallback
      else
        fallback)
  else
    .error .overflowError

end DetectorSettings

/-- The answer for an event after a history, from a detector without events. -/
def answerTo (settings : DetectorSettings) (lower : String → String)
    (history : List TransactionEvent) (event : TransactionEvent)
    : Verdict :=
  ((detectorMachine lower).step ((detectorMachine lower).exec (.empty settings) history) event).1

namespace SplitTransactionDetector

variable {s : SplitTransactionDetector} {event : TransactionEvent}

/-- How a tenant's window takes a new event up: with clusters it is read again afterwards. -/
def addToTenant (settings : DetectorSettings)
    : List TransactionEvent → TransactionEvent → List TransactionEvent :=
  if settings.enableGraphClustering then
    push TransactionEvent.micros settings.windowMicros
  else
    slide TransactionEvent.micros settings.windowMicros

/-- An event whose window begins within the calendar enters the windows of its custodian and of
its tenant, and is answered from them.
-/
theorem recordAndCheck_dated (lower : String → String) (dated : s.settings.Dated event.timestamp)
    : let window :=
        slide TransactionEvent.micros s.settings.windowMicros
          (s.windows.getD (event.tenantId, event.custodianId) []) event
      let tenantWindow := addToTenant s.settings (s.tenantWindows.getD event.tenantId []) event
      let fallback := s.settings.custodianAlert event window
      let next := (s.recordAndCheck lower event).2
      (s.recordAndCheck lower event).1
          = .ok
              (if s.settings.enableGraphClustering then
                (s.settings.clusterAlert event
                  (s.settings.clusters lower event.tenantId tenantWindow)).or fallback
              else
                fallback)
        ∧ next.settings = s.settings
        ∧ next.windows = s.windows.set (event.tenantId, event.custodianId) window
        ∧ next.tenantWindows.getD event.tenantId [] = tenantWindow
        ∧ ∀ tenantId ≠ event.tenantId,
            next.tenantWindows.getD tenantId [] = s.tenantWindows.getD tenantId [] := by
  have recorded
      : s.record event
        = (.ok
            (slide TransactionEvent.micros s.settings.windowMicros
              (s.windows.getD (event.tenantId, event.custodianId) []) event),
            ⟨s.settings,
              s.windows.set (event.tenantId, event.custodianId)
                (slide TransactionEvent.micros s.settings.windowMicros
                  (s.windows.getD (event.tenantId, event.custodianId) []) event),
              s.tenantWindows.set event.tenantId
                (slide TransactionEvent.micros s.settings.windowMicros
                  (s.tenantWindows.getD event.tenantId []) event)⟩) := by
    simp only [record, DetectorSettings.evictExpired, dated, if_true]
    rfl
  unfold recordAndCheck addToTenant
  rw [recorded]
  cases enabled : s.settings.enableGraphClustering with
  | false =>
      simp only [enabled, Bool.false_eq_true, if_false, Dict.getD_set_self, true_and]
      exact fun tenantId other => Dict.getD_set_ne _ _ _ (Ne.symm other)
  | true =>
      have filled
          : slide TransactionEvent.micros s.settings.windowMicros
              (s.tenantWindows.getD event.tenantId []) event ≠ [] := by
        simp [slide]
      -- The window ends with the event, and is read once more for the clusters
      have again
          : expire TransactionEvent.micros s.settings.windowMicros event.timestamp.micros
              (slide TransactionEvent.micros s.settings.windowMicros
                (s.tenantWindows.getD event.tenantId []) event)
            = push TransactionEvent.micros s.settings.windowMicros
                (s.tenantWindows.getD event.tenantId []) event :=
        expire_slide event
      simp only [if_true, enabled, getClusters, Dict.getD_set_self, filled, if_false,
        Option.elim_some, DetectorSettings.evictExpired, dated, again, true_and]
      intro tenantId other
      rw [Dict.getD_set_ne _ _ _ (Ne.symm other), Dict.getD_set_ne _ _ _ (Ne.symm other)]

/-- An event whose window begins before the calendar is refused and leaves all windows as they
were; at most an empty one is made.
-/
theorem recordAndCheck_undated (lower : String → String)
    (undated : ¬ s.settings.Dated event.timestamp)
    : s.recordAndCheck lower event
      = (.error .overflowError,
          { s with
            windows :=
              s.windows.set (event.tenantId, event.custodianId)
                (s.windows.getD (event.tenantId, event.custodianId) []) }) := by
  simp only [recordAndCheck, record, DetectorSettings.evictExpired, undated, if_false]

end SplitTransactionDetector

/-- The detector's windows hold what its history says. -/
structure Remembers (settings : DetectorSettings) (history : List TransactionEvent)
    (s : SplitTransactionDetector)
    : Prop where
  configured : s.settings = settings
  custodian
    : ∀ tenantId custodianId,
        s.windows.getD (tenantId, custodianId) []
        = settings.custodianWindow tenantId custodianId history
  tenant
    : ∀ tenantId,
        s.tenantWindows.getD tenantId [] = settings.tenantWindow tenantId history

section Runs

variable {settings : DetectorSettings} {lower : String → String}
  {history : List TransactionEvent} {s : SplitTransactionDetector} {event : TransactionEvent}

theorem verdict_enabled (enabled : settings.enableGraphClustering = true)
    (dated : settings.Dated event.timestamp)
    : settings.verdict lower history event
      = .ok
          ((settings.clusterAlert event
              (settings.clusters lower event.tenantId
                (settings.tenantWindow event.tenantId history))).or
            (settings.custodianAlert event
              (settings.custodianWindow event.tenantId event.custodianId history))) := by
  simp only [DetectorSettings.verdict, dated, enabled, if_true]

theorem verdict_disabled (disabled : settings.enableGraphClustering = false)
    (dated : settings.Dated event.timestamp)
    : settings.verdict lower history event
      = .ok
          (settings.custodianAlert event
            (settings.custodianWindow event.tenantId event.custodianId history)) := by
  simp only [DetectorSettings.verdict, dated, disabled, if_true, Bool.false_eq_true, if_false]

theorem verdict_undated (undated : ¬ settings.Dated event.timestamp)
    : settings.verdict lower history event = .error .overflowError := by
  simp only [DetectorSettings.verdict, undated, if_false]

theorem tenantEvents_append (settings : DetectorSettings) (tenantId : String)
    (history : List TransactionEvent) (event : TransactionEvent)
    : settings.tenantEvents tenantId (history ++ [event])
      = if settings.Dated event.timestamp ∧ event.tenantId = tenantId then
          settings.tenantEvents tenantId history ++ [event]
        else
          settings.tenantEvents tenantId history := by
  unfold DetectorSettings.tenantEvents
  rw [List.filter_append]
  by_cases own : settings.Dated event.timestamp ∧ event.tenantId = tenantId
  · simp [own]
  · simp [own]

/-- An event enters the window of its own custodian only. -/
theorem custodianWindow_append (settings : DetectorSettings) (tenantId custodianId : String)
    (history : List TransactionEvent) (event : TransactionEvent)
    : settings.custodianWindow tenantId custodianId (history ++ [event])
      = if settings.Dated event.timestamp ∧ event.tenantId = tenantId
            ∧ event.custodianId = custodianId then
          slide TransactionEvent.micros settings.windowMicros
            (settings.custodianWindow tenantId custodianId history) event
        else
          settings.custodianWindow tenantId custodianId history := by
  unfold DetectorSettings.custodianWindow DetectorSettings.custodianEvents
  rw [tenantEvents_append]
  by_cases own : settings.Dated event.timestamp ∧ event.tenantId = tenantId
  · by_cases same : event.custodianId = custodianId
    · simp [own, same]
    · simp [own, same]
  · have other
        : ¬ (settings.Dated event.timestamp ∧ event.tenantId = tenantId
            ∧ event.custodianId = custodianId) :=
      fun all => own ⟨all.1, all.2.1⟩
    rw [if_neg own, if_neg other]

theorem tenantWindow_append (settings : DetectorSettings) (tenantId : String)
    (history : List TransactionEvent) (event : TransactionEvent)
    : settings.tenantWindow tenantId (history ++ [event])
      = if settings.Dated event.timestamp ∧ event.tenantId = tenantId then
          (if settings.enableGraphClustering then
            push TransactionEvent.micros settings.windowMicros
          else
            slide TransactionEvent.micros settings.windowMicros)
            (settings.tenantWindow tenantId history) event
        else
          settings.tenantWindow tenantId history := by
  unfold DetectorSettings.tenantWindow
  rw [tenantEvents_append]
  by_cases own : settings.Dated event.timestamp ∧ event.tenantId = tenantId
  · simp [own]
  · simp [own]

theorem Remembers.empty (settings : DetectorSettings) : Remembers settings [] (.empty settings) :=
  ⟨rfl, fun _ _ => rfl, fun _ => rfl⟩

/-- An event that is not recorded leaves all windows as they were. -/
theorem Remembers.skip (remembers : Remembers settings history s)
    (undated : ¬ settings.Dated event.timestamp)
    : Remembers settings (history ++ [event])
        { s with
          windows :=
            s.windows.set (event.tenantId, event.custodianId)
              (s.windows.getD (event.tenantId, event.custodianId) []) } := by
  refine ⟨remembers.configured, fun tenantId custodianId => ?_, fun tenantId => ?_⟩
  · rw [custodianWindow_append, if_neg (fun own => undated own.1), ← remembers.custodian]
    by_cases same : (event.tenantId, event.custodianId) = (tenantId, custodianId)
    · rw [same, Dict.getD_set_self]
    · rw [Dict.getD_set_ne _ _ _ same]
  · rw [tenantWindow_append, if_neg (fun own => undated own.1)]
    exact remembers.tenant tenantId

/-- What an event is answered with, and that the detector remembers it. -/
theorem recordAndCheck_spec (remembers : Remembers settings history s)
    (lower : String → String) (event : TransactionEvent)
    : (s.recordAndCheck lower event).1 = settings.verdict lower (history ++ [event]) event
      ∧ Remembers settings (history ++ [event]) (s.recordAndCheck lower event).2 := by
  obtain ⟨rfl, custodian, tenant⟩ := remembers
  by_cases dated : s.settings.Dated event.timestamp
  · obtain ⟨answer, configured, windows, own, others⟩ :=
      SplitTransactionDetector.recordAndCheck_dated lower dated
    rw [custodian, tenant] at answer
    rw [custodian] at windows
    rw [tenant] at own
    have window
        : s.settings.custodianWindow event.tenantId event.custodianId (history ++ [event])
          = slide TransactionEvent.micros s.settings.windowMicros
              (s.settings.custodianWindow event.tenantId event.custodianId history) event := by
      rw [custodianWindow_append, if_pos ⟨dated, rfl, rfl⟩]
    have tenantWindow
        : s.settings.tenantWindow event.tenantId (history ++ [event])
          = SplitTransactionDetector.addToTenant s.settings
              (s.settings.tenantWindow event.tenantId history) event := by
      rw [tenantWindow_append, if_pos ⟨dated, rfl⟩]
      rfl
    constructor
    · rw [answer, DetectorSettings.verdict, if_pos dated, window, tenantWindow]
    · -- Each window of the detector is the one that the longer history gives
      refine ⟨configured, fun tenantId custodianId => ?_, fun tenantId => ?_⟩
      · rw [windows]
        by_cases same : (event.tenantId, event.custodianId) = (tenantId, custodianId)
        · obtain ⟨rfl, rfl⟩ := Prod.mk.inj same
          rw [Dict.getD_set_self, window]
        · have apart
              : ¬ (s.settings.Dated event.timestamp ∧ event.tenantId = tenantId
                  ∧ event.custodianId = custodianId) :=
            fun all => same (Prod.ext all.2.1 all.2.2)
          rw [Dict.getD_set_ne _ _ _ same, custodianWindow_append, if_neg apart, custodian]
      · by_cases same : tenantId = event.tenantId
        · subst same
          rw [own, tenantWindow]
        · rw [others tenantId same, tenantWindow_append, if_neg (fun all => same all.2.symm),
            tenant]
  · rw [SplitTransactionDetector.recordAndCheck_undated lower dated, DetectorSettings.verdict,
      if_neg dated]
    exact ⟨rfl, Remembers.skip ⟨rfl, custodian, tenant⟩ dated⟩

theorem exec_remembers (remembers : Remembers settings history s) (lower : String → String)
    (events : List TransactionEvent)
    : Remembers settings (history ++ events) ((detectorMachine lower).exec s events) := by
  induction events generalizing history s with
  | nil => simpa only [List.append_nil, Machine.exec] using remembers
  | cons event rest ih =>
      have next := (recordAndCheck_spec remembers lower event).2
      simpa only [List.append_assoc, List.singleton_append, Machine.exec, detectorMachine]
        using ih next

theorem answerTo_eq (settings : DetectorSettings) (lower : String → String)
    (history : List TransactionEvent) (event : TransactionEvent)
    : answerTo settings lower history event
      = settings.verdict lower (history ++ [event]) event := by
  have remembers := exec_remembers (Remembers.empty settings) lower history
  rw [List.nil_append] at remembers
  exact (recordAndCheck_spec remembers lower event).1

end Runs

section Latest

variable {settings : DetectorSettings} {history : List TransactionEvent}
  {event : TransactionEvent}

theorem custodianWindow_latest (dated : settings.Dated event.timestamp)
    (last : ∀ e ∈ settings.tenantEvents event.tenantId history, e.micros ≤ event.micros)
    : settings.custodianWindow event.tenantId event.custodianId (history ++ [event])
      = expire TransactionEvent.micros settings.windowMicros event.micros
          (settings.custodianEvents event.tenantId event.custodianId history)
        ++ [event] := by
  have whole
      : settings.custodianEvents event.tenantId event.custodianId (history ++ [event])
        = settings.custodianEvents event.tenantId event.custodianId history ++ [event] := by
    unfold DetectorSettings.custodianEvents
    rw [tenantEvents_append, if_pos ⟨dated, rfl⟩, List.filter_append]
    simp
  have lastOwn
      : ∀ e ∈ settings.custodianEvents event.tenantId event.custodianId history,
          e.micros ≤ event.micros :=
    fun e member => last e (List.mem_of_mem_filter member)
  unfold DetectorSettings.custodianWindow
  rw [whole, foldl_slide_last lastOwn, List.nil_append]

theorem tenantWindow_latest (enabled : settings.enableGraphClustering = true)
    (dated : settings.Dated event.timestamp)
    (last : ∀ e ∈ settings.tenantEvents event.tenantId history, e.micros ≤ event.micros)
    : settings.tenantWindow event.tenantId (history ++ [event])
      = expire TransactionEvent.micros settings.windowMicros event.micros
          (settings.tenantEvents event.tenantId history ++ [event]) := by
  unfold DetectorSettings.tenantWindow
  rw [if_pos enabled, tenantEvents_append, if_pos ⟨dated, rfl⟩, foldl_push_last last,
    List.nil_append]

end Latest

/-- Enough events, and their total exceeds the threshold. -/
def DetectorSettings.Passes (settings : DetectorSettings) (events : List TransactionEvent) : Prop :=
  settings.minTxCount ≤ events.length ∧ settings.thresholdScaled < totalScaled events

instance (settings : DetectorSettings) (events : List TransactionEvent)
    : Decidable (settings.Passes events) := by
  unfold DetectorSettings.Passes
  infer_instance

/-- Total, identifiers, start and end of an alert are those of some events. -/
structure Reports (alert : SplitTransactionAlert) (events : List TransactionEvent) : Prop where
  total : alert.windowTotalScaled = totalScaled events
  ids : alert.windowTransactionIds.Perm (transactionIds events)
  windowStart : alert.windowStart = earliest events
  windowEnd : alert.windowEnd = latest events

section Totals

variable {settings : DetectorSettings} {events more : List TransactionEvent}

theorem totalScaled_perm (perm : events.Perm more) : totalScaled events = totalScaled more :=
  (perm.map _).sum_eq

theorem passes_perm (perm : events.Perm more) : settings.Passes events ↔ settings.Passes more := by
  unfold DetectorSettings.Passes
  rw [perm.length_eq, totalScaled_perm perm]

/-- Amounts are positive: the total of fewer events is not greater, and less if any is missing. -/
theorem totalScaled_sublist (sublist : events.Sublist more)
    : totalScaled events ≤ totalScaled more
      ∧ (events.length < more.length → totalScaled events < totalScaled more) := by
  induction sublist with
  | slnil => simp
  | @cons _ _ e _ ih =>
      have positive := e.positive
      simp only [totalScaled, List.map_cons, List.sum_cons] at ih ⊢
      omega
  | @cons_cons _ _ e _ ih =>
      simp only [totalScaled, List.map_cons, List.sum_cons, List.length_cons] at ih ⊢
      omega

theorem passes_subset (nodup : events.Nodup) (subset : events ⊆ more)
    (passes : settings.Passes events)
    : settings.Passes more := by
  obtain ⟨same, perm, sublist⟩ := nodup.subperm subset
  rw [← passes_perm perm] at passes
  have length := sublist.length_le
  have total := (totalScaled_sublist sublist).1
  exact ⟨passes.1.trans (by exact_mod_cast length), passes.2.trans_le total⟩

/-- Of distinct events, fewer have a smaller total. -/
theorem totalScaled_lt (nodup : events.Nodup) (subset : events ⊆ more)
    {e : TransactionEvent} (member : e ∈ more) (missing : e ∉ events)
    : totalScaled events < totalScaled more := by
  obtain ⟨same, perm, sublist⟩ := nodup.subperm subset
  rw [← totalScaled_perm perm]
  apply (totalScaled_sublist sublist).2
  apply lt_of_le_of_ne sublist.length_le
  intro equal
  rw [sublist.eq_of_length equal] at perm
  exact missing (perm.mem_iff.mp member)

theorem earliest_le {e : TransactionEvent} (member : e ∈ events)
    : (earliest events).micros ≤ e.micros := by
  have listed := List.mem_map_of_mem (f := TransactionEvent.micros) member
  cases least : (events.map TransactionEvent.micros).min? with
  | none =>
      rw [List.min?_eq_none_iff.mp least] at listed
      cases listed
  | some value =>
      simp only [earliest, least, Option.getD_some]
      exact (List.min?_eq_some_iff.mp least).2 _ listed

theorem le_latest {e : TransactionEvent} (member : e ∈ events)
    : e.micros ≤ (latest events).micros := by
  have listed := List.mem_map_of_mem (f := TransactionEvent.micros) member
  cases greatest : (events.map TransactionEvent.micros).max? with
  | none =>
      rw [List.max?_eq_none_iff.mp greatest] at listed
      cases listed
  | some value =>
      simp only [latest, greatest, Option.getD_some]
      exact (List.max?_eq_some_iff.mp greatest).2 _ listed

/-- Both ends of the window of some events are times of events. -/
theorem exists_ends (some : events ≠ [])
    : (∃ e ∈ events, e.micros = (earliest events).micros)
      ∧ ∃ e ∈ events, e.micros = (latest events).micros := by
  have filled : events.map TransactionEvent.micros ≠ [] := by simpa using some
  constructor
  · obtain ⟨value, least⟩ := Option.ne_none_iff_exists'.mp (mt List.min?_eq_none_iff.mp filled)
    simp only [earliest, least, Option.getD_some]
    exact List.mem_map.mp (List.min?_eq_some_iff.mp least).1
  · obtain ⟨value, greatest⟩ := Option.ne_none_iff_exists'.mp (mt List.max?_eq_none_iff.mp filled)
    simp only [latest, greatest, Option.getD_some]
    exact List.mem_map.mp (List.max?_eq_some_iff.mp greatest).1

theorem earliest_eq {e : TransactionEvent} (member : e ∈ events)
    (least : ∀ f ∈ events, e.micros ≤ f.micros)
    : earliest events = e.timestamp := by
  obtain ⟨⟨f, inside, same⟩, _⟩ := exists_ends (List.ne_nil_of_mem member)
  have below := earliest_le member
  have above := least f inside
  exact congrArg Instant.mk (by omega : (earliest events).micros = e.micros)

theorem latest_eq {e : TransactionEvent} (member : e ∈ events)
    (greatest : ∀ f ∈ events, f.micros ≤ e.micros)
    : latest events = e.timestamp := by
  obtain ⟨_, f, inside, same⟩ := exists_ends (List.ne_nil_of_mem member)
  have above := le_latest member
  have below := greatest f inside
  exact congrArg Instant.mk (by omega : (latest events).micros = e.micros)

/-- The window of some events does not depend on their order. -/
theorem ends_perm (perm : events.Perm more)
    : earliest events = earliest more ∧ latest events = latest more := by
  by_cases none_ : more = []
  · subst none_
    rw [perm.eq_nil]
    exact ⟨rfl, rfl⟩
  · obtain ⟨⟨first, member, same⟩, last, member', same'⟩ := exists_ends none_
    constructor
    · rw [earliest_eq (perm.mem_iff.mpr member)
        (fun f inside => same ▸ earliest_le (perm.mem_iff.mp inside))]
      exact congrArg Instant.mk same
    · rw [latest_eq (perm.mem_iff.mpr member')
        (fun f inside => same' ▸ le_latest (perm.mem_iff.mp inside))]
      exact congrArg Instant.mk same'

theorem Reports.perm {alert : SplitTransactionAlert} (reports : Reports alert events)
    (perm : events.Perm more)
    : Reports alert more where
  total := reports.total.trans (totalScaled_perm perm)
  ids := reports.ids.trans (perm.map _)
  windowStart := reports.windowStart.trans (ends_perm perm).1
  windowEnd := reports.windowEnd.trans (ends_perm perm).2

end Totals

section Alerts

variable {settings : DetectorSettings} {lower : String → String}
  {events window : List TransactionEvent} {event : TransactionEvent}
  {alert : SplitTransactionAlert}

theorem custodianAlert_none (settings : DetectorSettings) (event : TransactionEvent)
    : settings.custodianAlert event window = none ↔ ¬ settings.Passes window := by
  unfold DetectorSettings.custodianAlert DetectorSettings.Passes
  split <;> simp_all

/-- The alert for a custodian's window reports its events; start and end are those of the first
and the last one.
-/
theorem custodianAlert_some (found : settings.custodianAlert event window = some alert)
    : settings.Passes window ∧ alert.windowTotalScaled = totalScaled window
      ∧ alert.windowTransactionIds = transactionIds window
      ∧ alert.windowStart = (window.headD event).timestamp
      ∧ alert.windowEnd = (window.getLastD event).timestamp := by
  unfold DetectorSettings.custodianAlert at found
  split at found
  · rename_i passes
    cases found
    exact ⟨passes, rfl, rfl, rfl, rfl⟩
  · cases found

/-- The alert for a cluster reports the component of an event with the identifier. -/
theorem clusterAlert_some (nodup : events.Nodup) {tenantId : String}
    (found : settings.clusterAlert event (settings.clusters lower tenantId events) = some alert)
    : ∃ a ∈ events,
        a.transactionId = event.transactionId
        ∧ settings.Passes (component events (settings.Linked lower) a)
        ∧ Reports alert (component events (settings.Linked lower) a) := by
  unfold DetectorSettings.clusterAlert at found
  obtain ⟨c, chosen, made⟩ := Option.bind_eq_some_iff.mp found
  cases made
  have ofWindow := DetectorSettings.clusters_sound nodup (List.mem_of_find?_eq_some chosen)
  have holds := List.find?_some chosen
  simp only [decide_eq_true_eq] at holds
  obtain ⟨named, many, above⟩ := holds
  obtain ⟨a, member, same⟩ := List.mem_map.mp named
  have perm := ofWindow.perm nodup member
  have inside := (mem_component.mp (perm.mem_iff.mp member)).1
  rw [ofWindow.total] at above
  refine ⟨a, inside, same, (passes_perm perm).mp ⟨many, above⟩, ?_⟩
  exact Reports.perm ⟨ofWindow.total, .refl _, ofWindow.windowStart, ofWindow.windowEnd⟩ perm

/-- An event whose component passes is in a cluster that makes an alert. -/
theorem clusterAlert_isSome (nodup : events.Nodup) (tenantId : String) (two : 2 ≤ events.length)
    (member : event ∈ events)
    (passes : settings.Passes (component events (settings.Linked lower) event))
    : (settings.clusterAlert event (settings.clusters lower tenantId events)).isSome := by
  obtain ⟨c, listed, inCluster⟩ :=
    DetectorSettings.clusters_complete nodup tenantId two member passes.1
  have ofWindow := DetectorSettings.clusters_sound nodup listed
  have passesCluster := (passes_perm (ofWindow.perm nodup inCluster)).mpr passes
  have found
      : (settings.clusters lower tenantId events).find? (fun cluster =>
            event.transactionId ∈ transactionIds cluster.transactions
            ∧ settings.minTxCount ≤ cluster.transactions.length
            ∧ settings.thresholdScaled < cluster.totalAmountScaled)
        ≠ none := by
    intro none_
    have refused := List.find?_eq_none.mp none_ c listed
    apply refused
    rw [decide_eq_true_eq, ofWindow.total]
    exact ⟨List.mem_map_of_mem inCluster, passesCluster⟩
  obtain ⟨chosen, isChosen⟩ := Option.ne_none_iff_exists'.mp found
  unfold DetectorSettings.clusterAlert
  rw [isChosen]
  rfl

/-- With an identifier of its own, an event whose component does not pass is in no cluster that
makes an alert.
-/
theorem clusterAlert_none (nodup : events.Nodup) (tenantId : String)
    (unique : ∀ a ∈ events, a.transactionId = event.transactionId → a = event)
    (fails : ¬ settings.Passes (component events (settings.Linked lower) event))
    : settings.clusterAlert event (settings.clusters lower tenantId events) = none := by
  cases found : settings.clusterAlert event (settings.clusters lower tenantId events) with
  | none => rfl
  | some alert =>
      obtain ⟨a, inside, same, passes, _⟩ := clusterAlert_some nodup found
      obtain rfl := unique a inside same
      exact absurd passes fails

/-- When an event's component passes, the answer reports it. A lonely event is in no cluster, but
then it is all that its custodian's window holds.
-/
theorem alert_of_passes (nodup : events.Nodup) (tenantId : String) (member : event ∈ events)
    (unique : ∀ a ∈ events, a.transactionId = event.transactionId → a = event)
    (lonely : events.length < 2 → window = [event])
    (passes : settings.Passes (component events (settings.Linked lower) event))
    : ∃ alert,
        (settings.clusterAlert event (settings.clusters lower tenantId events)).or
            (settings.custodianAlert event window)
          = some alert
        ∧ Reports alert (component events (settings.Linked lower) event) := by
  by_cases two : 2 ≤ events.length
  · have makes := clusterAlert_isSome nodup tenantId two member passes
    obtain ⟨alert, found⟩ := Option.isSome_iff_exists.mp makes
    obtain ⟨a, inside, same, _, reports⟩ := clusterAlert_some nodup found
    obtain rfl := unique a inside same
    exact ⟨alert, by rw [found, Option.some_or], reports⟩
  · have short := not_le.mp two
    have single : events = [event] := by
      have positive := List.length_pos_of_mem member
      obtain ⟨only, rfl⟩ := List.length_eq_one_iff.mp (by omega : events.length = 1)
      rw [List.mem_singleton.mp member]
    subst single
    rw [component_singleton] at passes ⊢
    -- A single event forms no cluster, so the alert is that of its custodian
    have none_
        : settings.clusterAlert event (settings.clusters lower tenantId [event]) = none := rfl
    rw [none_, Option.none_or, lonely short]
    obtain ⟨alert, found⟩ :=
      Option.ne_none_iff_exists'.mp
        (mt (custodianAlert_none settings event).mp (not_not.mpr passes))
    obtain ⟨_, total, ids, start, finish⟩ := custodianAlert_some found
    refine ⟨alert, found, total, ids ▸ .refl _, ?_, ?_⟩
    · rw [start]
      rfl
    · rw [finish]
      rfl

end Alerts

end PettyFlow.Fraud
