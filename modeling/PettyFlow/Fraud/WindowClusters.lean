import PettyFlow.Fraud.Verdicts

/-! Events of a tenant that arrive in the order of their times: an alert reports the connected
component of its event among the events in the window, and the fallback on the custodian's
window never adds an alert to those of the clusters.
-/

namespace PettyFlow.Fraud

open Foundation

/-- The events of a tenant. -/
def ofTenant (tenantId : String) (events : List TransactionEvent) : List TransactionEvent :=
  events.filter (fun e => e.tenantId = tenantId)

/-- An event, after the earlier ones of its tenant that are not older than the window. -/
def activeEvents (settings : DetectorSettings) (history : List TransactionEvent)
    (event : TransactionEvent)
    : List TransactionEvent :=
  (ofTenant event.tenantId history).filter
      (fun e => event.micros - settings.windowMicros ≤ e.micros)
    ++ [event]

/-- The active events that an event is judged with: those it is linked to, directly or through
others, or those of its custodian.
-/
noncomputable def watchedEvents (settings : DetectorSettings) (lower : String → String)
    (history : List TransactionEvent) (event : TransactionEvent)
    : List TransactionEvent :=
  if settings.enableGraphClustering then
    component (activeEvents settings history event) (settings.Linked lower) event
  else
    (activeEvents settings history event).filter (fun e => e.custodianId = event.custodianId)

/-- Events arrive in the order of their times, each under an identifier of its own. -/
structure InOrder (events : List TransactionEvent) : Prop where
  sorted : events.Pairwise (fun a b => a.micros ≤ b.micros)
  distinct : (transactionIds events).Nodup

/-- An event is answered with an alert exactly when the watched events pass; the alert reports
them. Other tenants make no difference to the answer.
-/
def AnswersWatched (settings : DetectorSettings) (lower : String → String)
    (history : List TransactionEvent) (event : TransactionEvent)
    : Prop :=
  ∃ answer,
    answerTo settings lower history event = .ok answer
    ∧ answerTo settings lower (ofTenant event.tenantId history) event = .ok answer
    ∧ (answer.isSome ↔ settings.Passes (watchedEvents settings lower history event))
    ∧ ∀ alert ∈ answer, Reports alert (watchedEvents settings lower history event)

/-- An event is refused with an exception and not recorded: what comes later is answered as if the
event had not been given.
-/
def RaisesUnrecorded (settings : DetectorSettings) (lower : String → String)
    (history : List TransactionEvent) (event : TransactionEvent)
    : Prop :=
  answerTo settings lower history event = .error .overflowError
  ∧ ∀ rest later,
      answerTo settings lower (history ++ event :: rest) later
      = answerTo settings lower (history ++ rest) later

section Windows

variable {settings : DetectorSettings} {lower : String → String}
  {history : List TransactionEvent} {event : TransactionEvent}

theorem InOrder.nodup {events : List TransactionEvent} (inOrder : InOrder events) : events.Nodup :=
  List.Nodup.of_map _ inOrder.distinct

theorem InOrder.unique {events : List TransactionEvent} (inOrder : InOrder events)
    {a b : TransactionEvent} (inside : a ∈ events) (inside' : b ∈ events)
    (same : a.transactionId = b.transactionId)
    : a = b :=
  List.inj_on_of_nodup_map inOrder.distinct inside inside' same

/-- The answer depends on the recorded events of the tenant only. -/
theorem verdict_congr {other : List TransactionEvent}
    (same : settings.tenantEvents event.tenantId history = settings.tenantEvents event.tenantId other)
    : settings.verdict lower history event = settings.verdict lower other event := by
  unfold DetectorSettings.verdict DetectorSettings.custodianWindow
    DetectorSettings.custodianEvents DetectorSettings.tenantWindow
  rw [same]

theorem verdict_ofTenant (settings : DetectorSettings) (lower : String → String)
    (history : List TransactionEvent) (event : TransactionEvent)
    : settings.verdict lower (ofTenant event.tenantId history ++ [event]) event
      = settings.verdict lower (history ++ [event]) event := by
  have kept
      : settings.tenantEvents event.tenantId (ofTenant event.tenantId history)
        = settings.tenantEvents event.tenantId history := by
    unfold DetectorSettings.tenantEvents ofTenant
    rw [List.filter_filter]
    exact List.filter_congr (by simp)
  apply verdict_congr
  rw [tenantEvents_append, tenantEvents_append, kept]

/-- An event whose window begins before the calendar raises, and leaves no trace. -/
theorem raises_of_undated (undated : ¬ settings.Dated event.timestamp)
    : RaisesUnrecorded settings lower history event := by
  constructor
  · rw [answerTo_eq, verdict_undated undated]
  · intro rest later
    rw [answerTo_eq, answerTo_eq]
    apply verdict_congr
    unfold DetectorSettings.tenantEvents
    simp [undated]

/-- With windows that begin within the calendar every event of a tenant is recorded. -/
theorem tenantEvents_dated
    (dated : ∀ e ∈ ofTenant event.tenantId (history ++ [event]), settings.Dated e.timestamp)
    : settings.tenantEvents event.tenantId history = ofTenant event.tenantId history := by
  apply List.filter_congr
  intro e member
  by_cases own : e.tenantId = event.tenantId
  · have listed : e ∈ ofTenant event.tenantId (history ++ [event]) :=
      List.mem_filter.mpr ⟨List.mem_append_left _ member, decide_eq_true own⟩
    simp [own, dated e listed]
  · simp [own]

theorem ofTenant_append (history : List TransactionEvent) (event : TransactionEvent)
    : ofTenant event.tenantId (history ++ [event])
      = ofTenant event.tenantId history ++ [event] := by
  simp [ofTenant, List.filter_append]

/-- The tenant's window holds the active events. -/
theorem tenantWindow_active (enabled : settings.enableGraphClustering = true)
    (nonneg : 0 ≤ settings.windowMicros)
    (inOrder : InOrder (ofTenant event.tenantId (history ++ [event])))
    (dated : ∀ e ∈ ofTenant event.tenantId (history ++ [event]), settings.Dated e.timestamp)
    : settings.tenantWindow event.tenantId (history ++ [event])
      = activeEvents settings history event := by
  have recorded := tenantEvents_dated dated
  rw [ofTenant_append] at inOrder dated
  obtain ⟨sorted, _, last⟩ := List.pairwise_append.mp inOrder.sorted
  have before : ∀ e ∈ settings.tenantEvents event.tenantId history, e.micros ≤ event.micros := by
    rw [recorded]
    exact fun e member => last e member event (List.mem_singleton_self event)
  rw [tenantWindow_latest enabled (dated event (by simp)) before, recorded,
    expire_of_sorted inOrder.sorted, List.filter_append]
  simp [activeEvents, nonneg]

/-- The custodian's window holds the active events of the custodian. -/
theorem custodianWindow_active
    (inOrder : InOrder (ofTenant event.tenantId (history ++ [event])))
    (dated : ∀ e ∈ ofTenant event.tenantId (history ++ [event]), settings.Dated e.timestamp)
    : settings.custodianWindow event.tenantId event.custodianId (history ++ [event])
      = (activeEvents settings history event).filter
          (fun e => e.custodianId = event.custodianId) := by
  have recorded := tenantEvents_dated dated
  rw [ofTenant_append] at inOrder dated
  obtain ⟨sorted, _, last⟩ := List.pairwise_append.mp inOrder.sorted
  have before : ∀ e ∈ settings.tenantEvents event.tenantId history, e.micros ≤ event.micros := by
    rw [recorded]
    exact fun e member => last e member event (List.mem_singleton_self event)
  rw [custodianWindow_latest (dated event (by simp)) before,
    DetectorSettings.custodianEvents, recorded, expire_of_sorted (sorted.filter _),
    activeEvents, List.filter_append, List.filter_comm]
  simp

theorem activeEvents_sublist (settings : DetectorSettings) (history : List TransactionEvent)
    (event : TransactionEvent)
    : (activeEvents settings history event).Sublist
        (ofTenant event.tenantId (history ++ [event])) := by
  rw [ofTenant_append]
  exact List.filter_sublist.append_right _

theorem filter_custodian_active (settings : DetectorSettings) (history : List TransactionEvent)
    (event : TransactionEvent)
    : (activeEvents settings history event).filter (fun e => e.custodianId = event.custodianId)
      = ((ofTenant event.tenantId history).filter
            (fun e => event.micros - settings.windowMicros ≤ e.micros)).filter
          (fun e => e.custodianId = event.custodianId)
        ++ [event] := by
  rw [activeEvents, List.filter_append, List.filter_cons_of_pos (by simp), List.filter_nil]

/-- The active events of the custodian are linked to the event directly. -/
theorem custodian_subset_component (settings : DetectorSettings) (lower : String → String)
    (inOrder : InOrder (ofTenant event.tenantId (history ++ [event])))
    : (activeEvents settings history event).filter (fun e => e.custodianId = event.custodianId)
      ⊆ component (activeEvents settings history event) (settings.Linked lower) event := by
  intro e member
  obtain ⟨active, same⟩ := List.mem_filter.mp member
  refine mem_component.mpr ⟨active, ?_⟩
  rcases List.mem_append.mp active with earlier | own
  · obtain ⟨listed, young⟩ := List.mem_filter.mp earlier
    rw [ofTenant_append] at inOrder
    have before := (List.pairwise_append.mp inOrder.sorted).2.2 e listed event (by simp)
    have young := of_decide_eq_true young
    have linked : settings.Linked lower event e := by
      rw [DetectorSettings.linked_iff, abs_of_nonneg (by omega)]
      exact ⟨by omega, Or.inl (of_decide_eq_true same).symm⟩
    exact .single ⟨active, linked⟩
  · rw [List.mem_singleton.mp own]
    exact .refl

/-- With a window in the order of times, start and end are those of all its events. -/
theorem custodianAlert_reports {earlier : List TransactionEvent}
    (sorted : (earlier ++ [event]).Pairwise (fun a b => a.micros ≤ b.micros))
    {alert : SplitTransactionAlert}
    (found : settings.custodianAlert event (earlier ++ [event]) = some alert)
    : Reports alert (earlier ++ [event]) := by
  obtain ⟨_, total, ids, start, finish⟩ := custodianAlert_some found
  obtain ⟨_, _, before⟩ := List.pairwise_append.mp sorted
  refine ⟨total, ids ▸ .refl _, ?_, ?_⟩
  · rw [start]
    cases earlier with
    | nil => rfl
    | cons first rest =>
        have least : ∀ f ∈ first :: rest ++ [event], first.micros ≤ f.micros := by
          intro f member
          rcases List.mem_cons.mp member with rfl | later
          · exact le_rfl
          · exact List.rel_of_pairwise_cons sorted later
        exact (earliest_eq (by simp) least).symm
  · have greatest : ∀ f ∈ earlier ++ [event], f.micros ≤ event.micros := by
      intro f member
      rcases List.mem_append.mp member with inside | own
      · exact before f inside event (by simp)
      · rw [List.mem_singleton.mp own]
    rw [finish, List.getLastD_concat, latest_eq (by simp) greatest]

/-- With clusters, an answer is that of the event's component: if it passes it is a cluster, or
a lonely event that the fallback reports; if not, the custodian's events do not pass either.
-/
theorem verdict_clusters (lower : String → String)
    (enabled : settings.enableGraphClustering = true)
    (nonneg : 0 ≤ settings.windowMicros)
    (inOrder : InOrder (ofTenant event.tenantId (history ++ [event])))
    (dated : ∀ e ∈ ofTenant event.tenantId (history ++ [event]), settings.Dated e.timestamp)
    : let watched := component (activeEvents settings history event) (settings.Linked lower) event
      ∃ answer,
        settings.verdict lower (history ++ [event]) event = .ok answer
        ∧ (answer.isSome ↔ settings.Passes watched)
        ∧ ∀ alert ∈ answer, Reports alert watched := by
  intro watched
  have here : settings.Dated event.timestamp := dated event (by simp [ofTenant])
  have sublist := activeEvents_sublist settings history event
  have nodup := inOrder.nodup.sublist sublist
  have member : event ∈ activeEvents settings history event := by simp [activeEvents]
  have unique
      : ∀ a ∈ activeEvents settings history event,
          a.transactionId = event.transactionId → a = event :=
    fun a active same => inOrder.unique (sublist.subset active) (sublist.subset member) same
  have custodians := custodian_subset_component settings lower inOrder
  rw [verdict_enabled enabled here, tenantWindow_active enabled nonneg inOrder dated,
    custodianWindow_active inOrder dated]
  by_cases passes : settings.Passes watched
  · have lonely
        : (activeEvents settings history event).length < 2
          → (activeEvents settings history event).filter
              (fun e => e.custodianId = event.custodianId)
            = [event] := by
      intro short
      rw [activeEvents, List.length_append, List.length_singleton] at short
      have none_
          : (ofTenant event.tenantId history).filter
                (fun e => event.micros - settings.windowMicros ≤ e.micros)
            = [] :=
        List.eq_nil_of_length_eq_zero (by omega)
      rw [filter_custodian_active, none_]
      rfl
    obtain ⟨alert, found, reports⟩ :=
      alert_of_passes nodup event.tenantId member unique lonely passes
    refine ⟨_, rfl, ?_, ?_⟩
    · rw [found]
      exact iff_of_true rfl passes
    · intro other isAnswer
      rw [found] at isAnswer
      cases isAnswer
      exact reports
  · -- The events of the custodian are linked, so they pass only where their component does
    have custodianFails
        : ¬ settings.Passes
            ((activeEvents settings history event).filter
              (fun e => e.custodianId = event.custodianId)) :=
      mt (passes_subset (nodup.filter _) custodians) passes
    rw [clusterAlert_none nodup event.tenantId unique passes, Option.none_or,
      (custodianAlert_none settings event).mpr custodianFails]
    exact ⟨none, rfl, iff_of_false (by simp) passes, by simp⟩

/-- For events in order the answer is that of the watched events, provided their windows begin
within the calendar. An event whose window does not raises an exception and is not recorded.
-/
theorem alert_iff_watched (settings : DetectorSettings) (lower : String → String)
    (history : List TransactionEvent) (event : TransactionEvent)
    (nonneg : 0 ≤ settings.windowSeconds)
    (inOrder : InOrder (ofTenant event.tenantId (history ++ [event])))
    : ((∀ e ∈ ofTenant event.tenantId (history ++ [event]), settings.Dated e.timestamp)
        → AnswersWatched settings lower history event)
      ∧ (¬ settings.Dated event.timestamp → RaisesUnrecorded settings lower history event) := by
  refine ⟨fun dated => ?_, raises_of_undated⟩
  have width : 0 ≤ settings.windowMicros := mul_nonneg nonneg (by decide)
  unfold AnswersWatched
  rw [answerTo_eq, answerTo_eq, verdict_ofTenant]
  cases enabled : settings.enableGraphClustering with
  | true =>
      obtain ⟨answer, answered, iff_, reports⟩ :=
        verdict_clusters lower enabled width inOrder dated
      simp only [watchedEvents, enabled, if_true]
      exact ⟨answer, answered, answered, iff_, reports⟩
  | false =>
      have here : settings.Dated event.timestamp := dated event (by simp [ofTenant])
      simp only [watchedEvents, enabled, Bool.false_eq_true, if_false]
      rw [verdict_disabled enabled here, custodianWindow_active inOrder dated]
      have sorted :=
        (inOrder.sorted.sublist (activeEvents_sublist settings history event)).filter
          (fun e => e.custodianId = event.custodianId)
      rw [filter_custodian_active] at sorted ⊢
      refine ⟨_, rfl, rfl, ?_, fun alert found => custodianAlert_reports sorted found⟩
      rw [Option.isSome_iff_ne_none, ne_eq, custodianAlert_none, not_not]

end Windows

section Sample

theorem samplePositive : (0 : Int) < 3000000 := by decide

/-- A payment of 300 dollars at one shop, some hours into a day. -/
def payment (transactionId tenantId custodianId : String) (hours : Int) : TransactionEvent := {
  transactionId
  tenantId
  custodianId
  amountScaled := 3000000
  timestamp := ⟨1792065600000000 + hours * 3600000000⟩
  merchantId := some "M1"
  merchantName := none
  receiptHash := none
  positive := samplePositive
}

/-- The settings that a detector has without others. -/
def defaultSettings : DetectorSettings := ⟨5000000, 48 * 3600, 2, true⟩

/-- Two custodians of one tenant pay at one shop; a payment of another tenant comes between. -/
def sharedShop : List TransactionEvent := [payment "T1" "A" "c1" 0, payment "T2" "B" "c2" 30]

theorem alert_iff_watched_sample
    : AnswersWatched defaultSettings String.toLower sharedShop (payment "T3" "A" "c3" 10)
      ∧ RaisesUnrecorded ⟨1, 1000000000000, 1, true⟩ String.toLower sharedShop
          (payment "T3" "A" "c3" 10) := by
  have inOrder : InOrder (ofTenant "A" (sharedShop ++ [payment "T3" "A" "c3" 10])) :=
    ⟨by decide, by decide⟩
  constructor
  · exact (alert_iff_watched defaultSettings String.toLower sharedShop
      (payment "T3" "A" "c3" 10) (by decide) inOrder).1 (by decide)
  · exact (alert_iff_watched ⟨1, 1000000000000, 1, true⟩ String.toLower sharedShop
      (payment "T3" "A" "c3" 10) (by decide) inOrder).2 (by decide)

/-- A window that begins before the first year: the payment is not even recorded. -/
theorem endless_window_raises
    : InOrder (ofTenant "A" [payment "T1" "A" "c1" 0])
      ∧ ¬ AnswersWatched ⟨1, 1000000000000, 1, true⟩ String.toLower []
          (payment "T1" "A" "c1" 0) := by
  constructor
  · exact ⟨by decide, by decide⟩
  · rintro ⟨answer, answered, _⟩
    have undated
        : ¬ DetectorSettings.Dated ⟨1, 1000000000000, 1, true⟩
            (payment "T1" "A" "c1" 0).timestamp := by
      decide
    rw [answerTo_eq, verdict_undated undated] at answered
    cases answered

end Sample

end PettyFlow.Fraud
