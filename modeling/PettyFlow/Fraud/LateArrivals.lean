import PettyFlow.Fraud.ArrivalOrder
import PettyFlow.Fraud.WindowClusters

/-! Late arrivals. An event that arrives behind a younger one stays in the windows although it is
old: for every set of events that is not steady, two orders show the difference.
-/

namespace PettyFlow.Fraud

open Foundation

section Orders

variable {settings : DetectorSettings} {lower : String → String}
  {events order : List TransactionEvent} {last : TransactionEvent}

/-- Of independent events, every call in every order stays within the window. -/
theorem OrderIndependent.within (independent : OrderIndependent settings lower events last)
    (perm : order.Perm events) {past rest : List TransactionEvent} {event : TransactionEvent}
    (split : order ++ [last] = past ++ event :: rest)
    : WithinWindow settings (settings.verdict lower (past ++ [event]) event) := by
  have member
      : (detectorMachine lower).event
          ((detectorMachine lower).exec (.empty settings) past) event
        ∈ (detectorMachine lower).history (.empty settings) (order ++ [last]) := by
    rw [split, Machine.history_append]
    exact List.mem_append_right _ List.mem_cons_self
  rw [← answerTo_eq]
  exact independent.2 order perm _ member

theorem OrderIndependent.same (independent : OrderIndependent settings lower events last)
    {order' : List TransactionEvent} (perm : order.Perm events) (perm' : order'.Perm events)
    : reportedTotal (settings.verdict lower (order ++ [last]) last)
      = reportedTotal (settings.verdict lower (order' ++ [last]) last) := by
  rw [← answerTo_eq, ← answerTo_eq]
  exact independent.1 order order' perm perm'

/-- An alert for a cluster does not end before it starts. -/
theorem clusterAlert_forward {window : List TransactionEvent} (nodup : window.Nodup)
    {tenantId : String} {event : TransactionEvent} {alert : SplitTransactionAlert}
    (found
      : settings.clusterAlert event (settings.clusters lower tenantId window) = some alert)
    : alert.windowStart.micros ≤ alert.windowEnd.micros := by
  obtain ⟨a, member, _, _, reports⟩ := clusterAlert_some nodup found
  have self : a ∈ component window (settings.Linked lower) a :=
    mem_component.mpr ⟨member, .refl⟩
  rw [reports.windowStart, reports.windowEnd]
  exact (earliest_le self).trans (le_latest self)

/-- With a window of negative length, an event that passes alone makes an alert beyond it. -/
theorem beyond_of_alone (negative : settings.windowMicros < 0)
    {past : List TransactionEvent} {event : TransactionEvent} (nodup : (past ++ [event]).Nodup)
    (dated : settings.Dated event.timestamp)
    (alone
      : settings.custodianWindow event.tenantId event.custodianId (past ++ [event]) = [event])
    (passes : settings.Passes [event])
    : ¬ WithinWindow settings (settings.verdict lower (past ++ [event]) event) := by
  intro within
  obtain ⟨fallback, made⟩ :=
    Option.ne_none_iff_exists'.mp
      (mt (custodianAlert_none settings event).mp (not_not.mpr passes))
  obtain ⟨_, _, _, start, finish⟩ := custodianAlert_some made
  have atOnce : fallback.windowEnd.micros - fallback.windowStart.micros = 0 := by
    rw [start, finish]
    exact sub_self event.timestamp.micros
  cases enabled : settings.enableGraphClustering with
  | false =>
      rw [verdict_disabled enabled dated, alone] at within
      have bound := within fallback (congrArg _ made)
      omega
  | true =>
      rw [verdict_enabled enabled dated, alone, made] at within
      have window := tenantWindow_sublist enabled event.tenantId (past ++ [event])
      cases cluster
        : settings.clusterAlert event
            (settings.clusters lower event.tenantId
              (settings.tenantWindow event.tenantId (past ++ [event])))
        with
      | none =>
          -- No cluster is large enough, so the alert of the custodian alone is given
          have bound := within fallback (by rw [cluster, Option.none_or])
          omega
      | some alert =>
          have bound := within alert (by rw [cluster, Option.some_or])
          have forward := clusterAlert_forward ((nodup.filter _).sublist window) cluster
          omega

/-- With a window of negative length, no event of an independent set passes alone: it would
make an alert when it comes first, or last.
-/
theorem OrderIndependent.alone (independent : OrderIndependent settings lower events last)
    (before : BeforeLast events last) {a : TransactionEvent}
    (recorded : a ∈ recordedEvents settings (events ++ [last])) (passes : settings.Passes [a])
    : 0 ≤ settings.windowMicros := by
  by_contra negative
  have negative := not_le.mp negative
  obtain ⟨listed, isDated⟩ := List.mem_filter.mp recorded
  have dated := of_decide_eq_true isDated
  rcases List.mem_append.mp listed with earlier | own
  · obtain ⟨front, back, rfl⟩ := List.append_of_mem earlier
    have perm : (a :: (front ++ back)).Perm (front ++ a :: back) := List.perm_middle.symm
    have first
        : settings.custodianWindow a.tenantId a.custodianId ([] ++ [a]) = [a] := by
      rw [custodianWindow_append, if_pos ⟨dated, rfl, rfl⟩]
      rfl
    have within : WithinWindow settings (settings.verdict lower ([] ++ [a]) a) :=
      independent.within perm List.cons_append
    exact beyond_of_alone negative (by simp) dated first passes within
  · obtain rfl := List.mem_singleton.mp own
    have stale : ∀ e ∈ ownEvents settings events a, Stale settings a e := by
      intro e own
      have earlier := before.latest e (List.mem_of_mem_filter (mem_ownEvents.mp own).1)
      unfold Stale
      omega
    have alone := custodianWindow_alone before dated stale
    exact beyond_of_alone negative before.nodup dated alone passes (independent.within (.refl _) rfl)

end Orders

section Narrow

variable {settings : DetectorSettings} {lower : String → String}
  {events : List TransactionEvent} {last : TransactionEvent}

/-- An event in a window whose component spans more than the window makes an alert beyond it. -/
theorem beyond_of_component {past window members : List TransactionEvent}
    {event : TransactionEvent} (enabled : settings.enableGraphClustering = true)
    (dated : settings.Dated event.timestamp)
    (isWindow : settings.tenantWindow event.tenantId (past ++ [event]) = window)
    (nodup : window.Nodup) (two : 2 ≤ window.length) (member : event ∈ window)
    (same
      : ∀ a ∈ window,
          a.transactionId = event.transactionId
          → (component window (settings.Linked lower) a).Perm members)
    (passes : settings.Passes members) {b c : TransactionEvent} (first : b ∈ members)
    (final : c ∈ members) (wide : settings.windowMicros < c.micros - b.micros)
    : ¬ WithinWindow settings (settings.verdict lower (past ++ [event]) event) := by
  intro within
  have makes :=
    clusterAlert_isSome nodup event.tenantId two member
      ((passes_perm (same event member rfl)).mpr passes)
  obtain ⟨alert, found⟩ := Option.isSome_iff_exists.mp makes
  obtain ⟨a, inside, sameId, _, reports⟩ := clusterAlert_some nodup found
  have reports := reports.perm (same a inside sameId)
  rw [verdict_enabled enabled dated, isWindow, found, Option.some_or] at within
  have bound := within alert rfl
  rw [reports.windowStart, reports.windowEnd] at bound
  have start := earliest_le first
  have finish := le_latest final
  omega

/-- Without young events beside the last one nothing is linked to that. -/
theorem eq_last_of_connected {recorded : List TransactionEvent}
    (latest : ∀ e ∈ recorded, e.micros ≤ last.micros)
    (stale : ∀ e ∈ recorded, e ≠ last → Stale settings last e) {e : TransactionEvent}
    (connected : Connected recorded (settings.Linked lower) last e)
    : e = last := by
  induction connected with
  | refl => rfl
  | @tail d e _ edge ih =>
      subst ih
      by_contra apart
      have near := (DetectorSettings.linked_iff.mp edge.2).1
      have old := stale e edge.1 apart
      have before := latest e edge.1
      rw [abs_of_nonneg (by omega)] at near
      unfold Stale at old
      omega

/-- A component with the last event that spans more than the window holds a young event. If that
comes first, all others are left behind it, and the last event makes the alert.
-/
theorem beyond_of_last (enabled : settings.enableGraphClustering = true)
    (nonneg : 0 ≤ settings.windowMicros) (before : BeforeLast events last)
    (dated : settings.Dated last.timestamp) {b c : TransactionEvent}
    (passes
      : settings.Passes
          (component (recordedEvents settings (events ++ [last])) (settings.Linked lower) last))
    (first
      : b ∈ component (recordedEvents settings (events ++ [last])) (settings.Linked lower) last)
    (final
      : c ∈ component (recordedEvents settings (events ++ [last])) (settings.Linked lower) last)
    (wide : settings.windowMicros < c.micros - b.micros)
    : ¬ OrderIndependent settings lower events last := by
  intro independent
  have latest : ∀ e ∈ recordedEvents settings (events ++ [last]), e.micros ≤ last.micros := by
    intro e recorded
    rcases List.mem_append.mp (List.mem_of_mem_filter recorded) with earlier | own
    · exact before.latest e earlier
    · rw [List.mem_singleton.mp own]
  obtain ⟨young, recorded, apart, isYoung⟩
      : ∃ e ∈ recordedEvents settings (events ++ [last]), e ≠ last ∧ ¬ Stale settings last e := by
    -- If all others were stale, the component would be the last event alone
    by_contra none_
    push Not at none_
    have only := eq_last_of_connected latest none_ (mem_component.mp first).2
    have only' := eq_last_of_connected latest none_ (mem_component.mp final).2
    rw [only, only', sub_self] at wide
    omega
  obtain ⟨listed, isDated⟩ := List.mem_filter.mp recorded
  have earlier : young ∈ events := by
    rcases List.mem_append.mp listed with earlier | own
    · exact earlier
    · exact absurd (List.mem_singleton.mp own) apart
  obtain ⟨front, back, rfl⟩ := List.append_of_mem earlier
  -- The young event is moved to the front, so that nothing expires before it
  have perm : (young :: (front ++ back)).Perm (front ++ young :: back) := List.perm_middle.symm
  have beforeOrder := before.perm perm
  have same := recorded_perm settings last perm
  have whole
      : settings.tenantWindow last.tenantId (young :: (front ++ back) ++ [last])
        = recordedEvents settings (young :: (front ++ back) ++ [last]) := by
    rw [tenantWindow_last beforeOrder enabled dated, List.cons_append,
      recordedEvents_cons settings (of_decide_eq_true isDated)]
    exact expire_cons (not_lt.mp isYoung)
  have nodup : (recordedEvents settings (young :: (front ++ back) ++ [last])).Nodup :=
    beforeOrder.nodup.filter _
  have inside : last ∈ recordedEvents settings (young :: (front ++ back) ++ [last]) :=
    List.mem_filter.mpr ⟨by simp, decide_eq_true dated⟩
  have pair : [young, last].Nodup := by simpa using apart
  have two :=
    (pair.subperm (List.cons_subset.mpr
      ⟨same.mem_iff.mpr recorded, List.cons_subset.mpr ⟨inside, by simp⟩⟩)).length_le
  refine beyond_of_component enabled dated whole nodup two inside ?_ passes first final wide
    (independent.within perm rfl)
  intro a member sameId
  have isLast : a = last := by
    rcases List.mem_append.mp (List.mem_of_mem_filter member) with earlier | own
    · exact absurd sameId (beforeOrder.unique a earlier)
    · exact List.mem_singleton.mp own
  rw [isLast]
  exact component_perm_of_subset nodup (same.nodup_iff.mp nodup) (same.mem_iff.mp inside)
    (fun e member => same.mem_iff.mp member)
    (fun e member => same.mem_iff.mpr (mem_component.mp member).1)

/-- When the latest of some events comes first, no other one drops it, and all are left. -/
theorem tenantWindow_latest_first (enabled : settings.enableGraphClustering = true)
    (nonneg : 0 ≤ settings.windowMicros) (first : TransactionEvent)
    (rest : List TransactionEvent) (event : TransactionEvent)
    (tenant : ∀ e ∈ first :: rest ++ [event], e.tenantId = event.tenantId)
    (dated : ∀ e ∈ first :: rest ++ [event], settings.Dated e.timestamp)
    (latest : ∀ e ∈ first :: rest ++ [event], e.micros ≤ first.micros)
    : settings.tenantWindow event.tenantId (first :: rest ++ [event])
      = first :: rest ++ [event] := by
  have all
      : settings.tenantEvents event.tenantId (first :: rest ++ [event])
        = first :: (rest ++ [event]) := by
    apply List.filter_eq_self.mpr
    intro e member
    exact decide_eq_true ⟨dated e member, tenant e member⟩
  have alone : push TransactionEvent.micros settings.windowMicros [] first = [first] :=
    expire_cons (by omega)
  have young
      : ∀ e ∈ rest ++ [event], e.micros - settings.windowMicros ≤ first.micros := by
    intro e member
    have before := latest e (List.mem_cons_of_mem _ member)
    omega
  unfold DetectorSettings.tenantWindow
  rw [if_pos enabled, all, List.foldl_cons, alone, foldl_push_of_head young]
  rfl

/-- A component without the last event that spans more than the window makes an alert when its
events come first, the latest of them before the others.
-/
theorem beyond_of_earlier (enabled : settings.enableGraphClustering = true)
    (nonneg : 0 ≤ settings.windowMicros) (before : BeforeLast events last)
    {a b c : TransactionEvent}
    (recorded : a ∈ recordedEvents settings (events ++ [last]))
    (apart
      : last
        ∉ component (recordedEvents settings (events ++ [last])) (settings.Linked lower) a)
    (passes
      : settings.Passes
          (component (recordedEvents settings (events ++ [last])) (settings.Linked lower) a))
    (first
      : b ∈ component (recordedEvents settings (events ++ [last])) (settings.Linked lower) a)
    (final
      : c ∈ component (recordedEvents settings (events ++ [last])) (settings.Linked lower) a)
    (wide : settings.windowMicros < c.micros - b.micros)
    : ¬ OrderIndependent settings lower events last := by
  classical
  intro independent
  have recordedNodup : (recordedEvents settings (events ++ [last])).Nodup := before.nodup.filter _
  have linkedBack : ∀ d e, settings.Linked lower d e → settings.Linked lower e d :=
    fun _ _ linked => linked.symm
  generalize isMembers
    : component (recordedEvents settings (events ++ [last])) (settings.Linked lower) a = members
    at apart passes first final
  have membersNodup : members.Nodup := isMembers ▸ component_nodup recordedNodup
  have inRecorded : ∀ e ∈ members, e ∈ recordedEvents settings (events ++ [last]) :=
    fun e member => (mem_component.mp (isMembers ▸ member)).1
  have inEvents : ∀ e ∈ members, e ∈ events := by
    intro e member
    rcases List.mem_append.mp (List.mem_of_mem_filter (inRecorded e member)) with earlier | own
    · exact earlier
    · exact absurd (List.mem_singleton.mp own ▸ member) apart
  -- The latest event of the component comes first, and the early one last
  obtain ⟨top, inside, isTop⟩ := (exists_ends (List.ne_nil_of_mem first)).2
  have below : ∀ e ∈ members, e.micros ≤ top.micros :=
    fun e member => isTop ▸ le_latest member
  obtain ⟨front, back, cut⟩ := List.append_of_mem inside
  have toTop : members.Perm (top :: (front ++ back)) := cut ▸ List.perm_middle
  have early : b ∈ front ++ back := by
    rcases List.mem_cons.mp (toTop.mem_iff.mp first) with equal | behind
    · have bound := below c final
      rw [← equal] at bound
      omega
    · exact behind
  obtain ⟨front', back', cut'⟩ := List.append_of_mem early
  have toOrder : (top :: (front' ++ back') ++ [b]).Perm members := by
    refine (toTop.trans ?_).symm
    rw [cut', List.cons_append]
    exact (List.perm_middle.trans (List.perm_append_singleton b _).symm).cons top
  have inOrder (e : TransactionEvent) : e ∈ top :: (front' ++ back') ++ [b] ↔ e ∈ members :=
    toOrder.mem_iff
  have eventsNodup := (List.nodup_append.mp before.nodup).1
  have perm
      : (top :: (front' ++ back') ++ [b] ++ events.filter (· ∉ members)).Perm events := by
    apply (List.perm_ext_iff_of_nodup _ eventsNodup).mpr
    · intro e
      rw [List.mem_append, inOrder, List.mem_filter, decide_eq_true_eq]
      constructor
      · rintro (member | ⟨listed, _⟩)
        · exact inEvents e member
        · exact listed
      · intro listed
        by_cases member : e ∈ members
        · exact Or.inl member
        · exact Or.inr ⟨listed, member⟩
    · refine List.nodup_append.mpr
        ⟨toOrder.nodup_iff.mpr membersNodup, eventsNodup.filter _, ?_⟩
      rintro e member _ other rfl
      exact of_decide_eq_true (List.mem_filter.mp other).2 ((inOrder e).mp member)
  have tenants : ∀ e ∈ members, e.tenantId = b.tenantId := fun e member =>
    (before.tenant e (inEvents e member)).trans (before.tenant b (inEvents b first)).symm
  have dated : ∀ e ∈ members, settings.Dated e.timestamp := fun e member =>
    of_decide_eq_true (List.mem_filter.mp (inRecorded e member)).2
  have window :=
    tenantWindow_latest_first enabled nonneg top (front' ++ back') b
      (fun e member => tenants e ((inOrder e).mp member))
      (fun e member => dated e ((inOrder e).mp member))
      (fun e member => below e ((inOrder e).mp member))
  have two : 2 ≤ (top :: (front' ++ back') ++ [b]).length := by
    simp only [List.length_append, List.length_cons, List.length_nil]
    omega
  have split
      : top :: (front' ++ back') ++ [b] ++ events.filter (· ∉ members) ++ [last]
        = top :: (front' ++ back') ++ b :: (events.filter (· ∉ members) ++ [last]) := by
    simp
  refine beyond_of_component enabled (dated b first) window (toOrder.nodup_iff.mpr membersNodup)
    two ((inOrder b).mpr first) ?_ passes first final wide (independent.within perm split)
  intro e member _
  have same := component_eq_of_mem linkedBack recorded (isMembers ▸ (inOrder e).mp member)
  rw [isMembers] at same
  rw [← same]
  apply component_perm_of_subset (toOrder.nodup_iff.mpr membersNodup) recordedNodup
    (inRecorded e ((inOrder e).mp member)) (fun d inside => inRecorded d ((inOrder d).mp inside))
  intro d inside
  rw [same] at inside
  exact (inOrder d).mpr inside

/-- Of independent events, no component that passes spans more than the window. -/
theorem OrderIndependent.narrow (independent : OrderIndependent settings lower events last)
    (enabled : settings.enableGraphClustering = true) (before : BeforeLast events last)
    {a b c : TransactionEvent} (recorded : a ∈ recordedEvents settings (events ++ [last]))
    (passes
      : settings.Passes
          (component (recordedEvents settings (events ++ [last])) (settings.Linked lower) a))
    (first
      : b ∈ component (recordedEvents settings (events ++ [last])) (settings.Linked lower) a)
    (final
      : c ∈ component (recordedEvents settings (events ++ [last])) (settings.Linked lower) a)
    : c.micros - b.micros ≤ settings.windowMicros := by
  by_contra wide
  have wide := not_le.mp wide
  have recordedNodup : (recordedEvents settings (events ++ [last])).Nodup := before.nodup.filter _
  have nonneg : 0 ≤ settings.windowMicros := by
    by_contra negative
    -- Nothing is linked, so that the event passes alone
    have alone
        : component (recordedEvents settings (events ++ [last])) (settings.Linked lower) a
          ⊆ [a] := by
      intro e member
      induction (mem_component.mp member).2 with
      | refl => exact List.mem_singleton_self a
      | tail _ edge _ =>
          have near := (DetectorSettings.linked_iff.mp edge.2).1
          exact absurd ((abs_nonneg _).trans near) negative
    have single := passes_subset (component_nodup recordedNodup) alone passes
    exact negative (independent.alone before recorded single)
  by_cases inside
    : last ∈ component (recordedEvents settings (events ++ [last])) (settings.Linked lower) a
  · have dated : settings.Dated last.timestamp :=
      of_decide_eq_true (List.mem_filter.mp (mem_component.mp inside).1).2
    have same := component_eq_of_mem (fun _ _ linked => linked.symm) recorded inside
    rw [← same] at passes first final
    exact beyond_of_last enabled nonneg before dated passes first final wide independent
  · exact beyond_of_earlier enabled nonneg before recorded inside passes first final wide
      independent

end Narrow

section Custodian

variable {settings : DetectorSettings} {lower : String → String}
  {events : List TransactionEvent} {last : TransactionEvent}

/-- A young event that comes first keeps all events of its custodian in the window. -/
theorem custodianWindow_young_first (before : BeforeLast events last)
    (dated : settings.Dated last.timestamp) {young : TransactionEvent}
    (recorded : young ∈ recordedEvents settings (events ++ [last]))
    (custodian : young.custodianId = last.custodianId) (apart : young ≠ last)
    (isYoung : ¬ Stale settings last young)
    : ∃ order,
        order.Perm events
        ∧ (settings.custodianWindow last.tenantId last.custodianId (order ++ [last])).Perm
            ((recordedEvents settings (events ++ [last])).filter
              (fun e => e.custodianId = last.custodianId)) := by
  obtain ⟨listed, isDated⟩ := List.mem_filter.mp recorded
  have earlier : young ∈ events := by
    rcases List.mem_append.mp listed with earlier | own
    · exact earlier
    · exact absurd (List.mem_singleton.mp own) apart
  obtain ⟨front, back, rfl⟩ := List.append_of_mem earlier
  have perm : (young :: (front ++ back)).Perm (front ++ young :: back) := List.perm_middle.symm
  refine ⟨_, perm, ?_⟩
  have first
      : ownEvents settings (young :: (front ++ back)) last
        = young :: ownEvents settings (front ++ back) last := by
    unfold ownEvents
    rw [recordedEvents_cons settings (of_decide_eq_true isDated)]
    exact List.filter_cons_of_pos (by simpa using custodian)
  rw [custodianWindow_last (before.perm perm) dated, first, expire_cons (not_lt.mp isYoung),
    ← first, ← own_append dated]
  exact (recorded_perm settings last perm).filter _

/-- When all old events come before the young ones, they are dropped. -/
theorem custodianWindow_stale_first (before : BeforeLast events last)
    (dated : settings.Dated last.timestamp)
    : ∃ order,
        order.Perm events
        ∧ ∀ e ∈ settings.custodianWindow last.tenantId last.custodianId (order ++ [last]),
            e = last ∨ ¬ Stale settings last e := by
  have perm
      : (events.filter (fun e => Stale settings last e)
          ++ events.filter (fun e => !decide (Stale settings last e))).Perm events :=
    List.filter_append_perm _ _
  refine ⟨_, perm, ?_⟩
  -- Whatever is too old comes first, and expires before the rest is entered
  have dropped
      : ∀ e ∈ ownEvents settings (events.filter (fun e => Stale settings last e)) last,
          Stale settings last e := by
    intro e own
    have listed := List.mem_of_mem_filter (mem_ownEvents.mp own).1
    exact of_decide_eq_true (List.mem_filter.mp listed).2
  have cut
      : ownEvents settings
          (events.filter (fun e => Stale settings last e)
            ++ events.filter (fun e => !decide (Stale settings last e))) last
        = ownEvents settings (events.filter (fun e => Stale settings last e)) last
          ++ ownEvents settings (events.filter (fun e => !decide (Stale settings last e)))
              last := by
    simp only [ownEvents, recordedEvents, List.filter_append]
  rw [custodianWindow_last (before.perm perm) dated, cut, expire_old_append dropped]
  intro e member
  rcases List.mem_append.mp member with left_ | own
  · have listed := List.mem_of_mem_filter (mem_ownEvents.mp (expire_sublist.subset left_)).1
    have young := (List.mem_filter.mp listed).2
    exact Or.inr (by simpa using young)
  · exact Or.inl (List.mem_singleton.mp own)

/-- Of independent events whose cluster does not pass, the custodian's do not pass either, unless
they are all too old.
-/
theorem OrderIndependent.custodianClusters
    (independent : OrderIndependent settings lower events last)
    (enabled : settings.enableGraphClustering = true) (before : BeforeLast events last)
    (inWhole : last ∈ recordedEvents settings (events ++ [last]))
    (fails
      : ¬ settings.Passes
          (component (recordedEvents settings (events ++ [last])) (settings.Linked lower) last))
    (passes
      : settings.Passes
          ((recordedEvents settings (events ++ [last])).filter
            (fun e => e.custodianId = last.custodianId)))
    {e : TransactionEvent} (recorded : e ∈ recordedEvents settings (events ++ [last]))
    (custodian : e.custodianId = last.custodianId) (apart : e ≠ last)
    : Stale settings last e := by
  by_contra young
  have dated : settings.Dated last.timestamp := of_decide_eq_true (List.mem_filter.mp inWhole).2
  -- In one order the window holds all events of the custodian, in another only the young
  obtain ⟨order, perm, whole⟩ :=
    custodianWindow_young_first before dated recorded custodian apart young
  obtain ⟨order', perm', left_⟩ := custodianWindow_stale_first before dated
  have linked
      : settings.custodianWindow last.tenantId last.custodianId (order' ++ [last])
        ⊆ component (recordedEvents settings (events ++ [last])) (settings.Linked lower) last := by
    intro d inside
    have listed := (custodianWindow_sublist (before.perm perm') dated).subset inside
    obtain ⟨isRecorded, same⟩ := List.mem_filter.mp listed
    have there := (recorded_perm settings last perm').mem_iff.mp isRecorded
    refine mem_component.mpr ⟨there, ?_⟩
    rcases left_ d inside with rfl | isYoung
    · exact .refl
    · have latest : d.micros ≤ last.micros := by
        rcases List.mem_append.mp (List.mem_of_mem_filter there) with earlier | own
        · exact before.latest d earlier
        · rw [List.mem_singleton.mp own]
      refine .single ⟨there, DetectorSettings.linked_iff.mpr ⟨?_, Or.inl ?_⟩⟩
      · rw [abs_of_nonneg (by omega)]
        unfold Stale at isYoung
        omega
      · exact (of_decide_eq_true same).symm
  -- The young events are all linked to the last one, so they fail with its component
  have fails'
      : ¬ settings.Passes
          (settings.custodianWindow last.tenantId last.custodianId (order' ++ [last])) := by
    have nodup :=
      (((before.perm perm').nodup.filter _).filter _).sublist
        (custodianWindow_sublist (before.perm perm') dated)
    exact mt (passes_subset nodup linked) fails
  have same := independent.same perm perm'
  rw [verdict_unclustered enabled (before.perm perm) perm dated fails,
    verdict_unclustered enabled (before.perm perm') perm' dated fails,
    reportedTotal_window whole, reportedTotal_window (.refl _), if_pos passes, if_neg fails']
    at same
  cases same

/-- Of independent events that pass together, without clusters, all or none are too old. -/
theorem OrderIndependent.custodian (independent : OrderIndependent settings lower events last)
    (disabled : settings.enableGraphClustering = false) (before : BeforeLast events last)
    (inWhole : last ∈ recordedEvents settings (events ++ [last]))
    (passes
      : settings.Passes
          ((recordedEvents settings (events ++ [last])).filter
            (fun e => e.custodianId = last.custodianId)))
    {young old : TransactionEvent}
    (recorded : young ∈ recordedEvents settings (events ++ [last]))
    (custodian : young.custodianId = last.custodianId) (apart : young ≠ last)
    (isYoung : ¬ Stale settings last young)
    (recorded' : old ∈ recordedEvents settings (events ++ [last]))
    (custodian' : old.custodianId = last.custodianId) (apart' : old ≠ last)
    : ¬ Stale settings last old := by
  intro isOld
  have dated : settings.Dated last.timestamp := of_decide_eq_true (List.mem_filter.mp inWhole).2
  obtain ⟨order, perm, whole⟩ :=
    custodianWindow_young_first before dated recorded custodian apart isYoung
  obtain ⟨order', perm', left_⟩ := custodianWindow_stale_first before dated
  have same := independent.same perm perm'
  rw [verdict_disabled disabled dated, verdict_disabled disabled dated,
    reportedTotal_window whole, reportedTotal_window (.refl _), if_pos passes] at same
  -- The old event is missing in one order, so that the total is less
  have sublist := custodianWindow_sublist (before.perm perm') dated
  have fewer
      : totalScaled
            (settings.custodianWindow last.tenantId last.custodianId (order' ++ [last]))
        < totalScaled
            ((recordedEvents settings (events ++ [last])).filter
              (fun e => e.custodianId = last.custodianId)) := by
    apply totalScaled_lt (((before.perm perm').nodup.filter _).filter _ |>.sublist sublist)
      (fun d inside => ((recorded_perm settings last perm').filter _).mem_iff.mp (sublist.subset inside))
      (List.mem_filter.mpr ⟨recorded', decide_eq_true custodian'⟩)
    intro inside
    rcases left_ old inside with equal | notOld
    · exact apart' equal
    · exact notOld isOld
  split at same
  · have equal := Option.some.inj same
    omega
  · cases same

end Custodian

section Exact

variable {settings : DetectorSettings} {lower : String → String}
  {events : List TransactionEvent} {last : TransactionEvent}

theorem steady_of_orderIndependent (before : BeforeLast events last)
    (independent : OrderIndependent settings lower events last)
    : Steady settings lower events last := by
  unfold Steady
  cases enabled : settings.enableGraphClustering with
  | true =>
      exact {
        narrow a recorded passes b first c final :=
          independent.narrow enabled before recorded passes first final
        custodian inWhole fails passes e recorded custodian apart :=
          independent.custodianClusters enabled before inWhole fails passes recorded custodian apart
      }
  | false =>
      refine ⟨fun a recorded passes => independent.alone before recorded passes, ?_⟩
      intro inWhole passes
      by_cases stale
        : ∀ e ∈ recordedEvents settings (events ++ [last]),
            e.custodianId = last.custodianId → e ≠ last → Stale settings last e
      · exact Or.inl stale
      · push Not at stale
        obtain ⟨young, recorded, custodian, apart, isYoung⟩ := stale
        refine Or.inr (fun old recorded' custodian' apart' => ?_)
        exact independent.custodian enabled before inWhole passes recorded custodian apart isYoung
          recorded' custodian' apart'

end Exact

section Sample

/-- Two payments of one custodian at one shop, and a third two days after the first. -/
def twoPayments : List TransactionEvent := [payment "T1" "A" "c1" 0, payment "T2" "A" "c1" 10]

theorem twoPayments_before : BeforeLast twoPayments (payment "T3" "A" "c1" 50) where
  tenant := by decide
  latest := by decide
  nodup := by
    apply List.Nodup.of_map TransactionEvent.transactionId
    decide
  unique := by decide

end Sample

end PettyFlow.Fraud
