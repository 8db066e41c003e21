import PettyFlow.Foundation.Numerals
import PettyFlow.Observability.Telemetry

/-! The alerts of a run and who is told of them, and what they say about the health of the system.
-/

namespace PettyFlow.Observability

open Foundation

variable {Λ : Type}

/-- Alerts with the numbers that they get after a number of earlier ones. -/
def numbered (earlier : Nat) : List (Instant × AlertBody) → List AlertEvent
  | [] => []
  | (now, body) :: rest => body.event (earlier + 1) now :: numbered (earlier + 1) rest

/-- A number that a float can hold. -/
def Fits (n : Int) : Prop := (FloatValue.ofInt? n).isSome

instance (n : Int) : Decidable (Fits n) := inferInstanceAs (Decidable (_ = true))

/-- A storm that is counted, and of so many failures that an alert is due. -/
def Storms (attemptedRequests : Int) (failureRate : FloatValue) : Prop :=
  (∃ failures ∈ (TelemetryRegistry.stormFailures attemptedRequests failureRate).toOption,
    Fits attemptedRequests ∧ Fits failures)
  ∧ TelemetryRegistry.stormThreshold.le failureRate

instance (attemptedRequests : Int) (failureRate : FloatValue)
    : Decidable (Storms attemptedRequests failureRate) :=
  inferInstanceAs (Decidable (_ ∧ _))

namespace TelemetryCall

/-- The alert that a call raises, if any, whatever the registry is. -/
def raised : TelemetryCall Λ → Option (Instant × AlertBody)
  | .recordCounter _ _ | .recordLatency _ _ | .addAlertListener _ => none
  | .triggerAlert now body => some (now, body)
  | .executeBankReconciliationDrill now tenantId matched unmatched variance =>
      if Fits matched ∧ Fits unmatched ∧ variance ≠ 0 then
        (FloatValue.ofInt? variance).map
          (fun current => (now, TelemetryRegistry.varianceAlert tenantId variance current))
      else
        none
  | .executeRetryStormDrill now tenantId attempted rate =>
      if Storms attempted rate then
        some (now, TelemetryRegistry.stormAlert tenantId rate)
      else
        none

/-- The listeners that a call adds. -/
def added : TelemetryCall Λ → List Λ
  | .addAlertListener listener => [listener]
  | _ => []

/-- A call for an immediate page: an alert of the first severity, or a drill with a variance. -/
def Pages : TelemetryCall Λ → Prop
  | .triggerAlert _ body => body.severity = .p1Critical
  | .executeBankReconciliationDrill _ _ matched unmatched variance =>
      variance ≠ 0 ∧ Fits matched ∧ Fits unmatched ∧ Fits variance
  | _ => False

/-- A call for an alert of the second severity, as a retry storm is. -/
def Warns : TelemetryCall Λ → Prop
  | .triggerAlert _ body => body.severity = .p2High
  | .executeRetryStormDrill _ _ attempted rate => Storms attempted rate
  | _ => False

theorem pages_iff (call : TelemetryCall Λ)
    : call.Pages ↔ ∃ alert ∈ call.raised, alert.2.severity = .p1Critical := by
  cases call with
  | executeBankReconciliationDrill now tenantId matched unmatched variance =>
      simp only [Pages, raised, Fits]
      cases FloatValue.ofInt? variance <;> simp [TelemetryRegistry.varianceAlert, and_comm]
      tauto
  | executeRetryStormDrill now tenantId attempted rate =>
      simp [Pages, raised, TelemetryRegistry.stormAlert]
  | _ => simp [Pages, raised]

theorem warns_iff (call : TelemetryCall Λ)
    : call.Warns ↔ ∃ alert ∈ call.raised, alert.2.severity = .p2High := by
  cases call with
  | executeBankReconciliationDrill now tenantId matched unmatched variance =>
      simp [Warns, raised, TelemetryRegistry.varianceAlert]
  | executeRetryStormDrill now tenantId attempted rate =>
      simp [Warns, raised, TelemetryRegistry.stormAlert]
  | _ => simp [Warns, raised]

end TelemetryCall

/-! ### Steps -/

namespace TelemetryRegistry

/-- The alerts that a listener was called with, in order. -/
def toldTo [DecidableEq Λ] (s : TelemetryRegistry Λ) (listener : Λ) : List AlertEvent :=
  (s.told.filter (fun told => told.1 = listener)).map Prod.snd

/-- A call changes alerts and listeners in one way only: what it raises gets the next number and is
told to every listener there is, and what it adds is told of later alerts.
-/
structure Raises (s : TelemetryRegistry Λ) (alert : Option (Instant × AlertBody)) (added : List Λ)
    (next : TelemetryRegistry Λ)
    : Prop where
  history
    : next.alertsHistory
      = s.alertsHistory ++ numbered s.alertsHistory.length alert.toList
  listeners : next.alertListeners = s.alertListeners ++ added
  told
    : next.told
      = s.told
        ++ (numbered s.alertsHistory.length alert.toList).flatMap
          (fun event => s.alertListeners.map (fun listener => (listener, event)))

theorem Raises.quiet {s next : TelemetryRegistry Λ} (history : next.alertsHistory = s.alertsHistory)
    (listeners : next.alertListeners = s.alertListeners) (told : next.told = s.told)
    : Raises s none [] next :=
  ⟨by simp [history, numbered], by simp [listeners], by simp [told, numbered]⟩

theorem Raises.trigger {s before : TelemetryRegistry Λ} (quiet : Raises s none [] before)
    (now : Instant) (body : AlertBody)
    : Raises s (some (now, body)) [] (before.triggerAlert now body).2 := by
  have history : before.alertsHistory = s.alertsHistory := by simpa [numbered] using quiet.history
  have listeners : before.alertListeners = s.alertListeners := by simpa using quiet.listeners
  have told : before.told = s.told := by simpa [numbered] using quiet.told
  exact ⟨
    by simp [triggerAlert, history, numbered],
    by simp [triggerAlert, listeners],
    by simp [triggerAlert, history, listeners, told, numbered]
  ⟩

/-- A whole number is recorded where it fits, and no alert is touched. -/
theorem recordWhole_spec (s : TelemetryRegistry Λ) (metricName : String) (value : Int)
    (tags : Dict String String)
    : Raises s none [] (s.recordWhole metricName value tags).2
      ∧ ((∃ error, (s.recordWhole metricName value tags).1 = .error error) ↔ ¬ Fits value) := by
  unfold recordWhole toFloat Fits
  cases FloatValue.ofInt? value with
  | none => exact ⟨.quiet rfl rfl rfl, by simp [orRaise]⟩
  | some value => exact ⟨.quiet rfl rfl rfl, by simp [orRaise]⟩

theorem Raises.then {s middle next : TelemetryRegistry Λ} (first : Raises s none [] middle)
    (second : Raises middle none [] next)
    : Raises s none [] next :=
  .quiet (by simpa [numbered, first.history] using second.history)
    (by simpa [first.listeners] using second.listeners)
    (by simpa [numbered, first.told] using second.told)

/-- Counters are recorded up to the first one that does not fit. -/
theorem recordCounters_spec (s : TelemetryRegistry Λ) (tenantId : String)
    (counters : List (String × Int))
    : Raises s none [] (s.recordCounters tenantId counters).2
      ∧ ((s.recordCounters tenantId counters).1 = .ok ()
        ↔ ∀ counter ∈ counters, Fits counter.2) := by
  induction counters generalizing s with
  | nil => exact ⟨.quiet rfl rfl rfl, by simp [recordCounters]⟩
  | cons counter rest ih =>
      obtain ⟨metricName, value⟩ := counter
      obtain ⟨quiet, fits⟩ := s.recordWhole_spec metricName value (tenantTag tenantId)
      rw [recordCounters, List.forall_mem_cons]
      generalize s.recordWhole metricName value (tenantTag tenantId) = recorded at quiet fits
      obtain ⟨outcome, next⟩ := recorded
      cases outcome with
      | error error =>
          have wide : ¬ Fits value := fits.mp ⟨error, rfl⟩
          exact ⟨quiet, by simp [wide]⟩
      | ok done =>
          have narrow : Fits value := by
            by_contra wide
            obtain ⟨error, same⟩ := fits.mpr wide
            cases same
          obtain ⟨later, all⟩ := ih next
          exact ⟨quiet.then later, by simp [all, narrow]⟩

theorem bankDrill_raises (s : TelemetryRegistry Λ) (now : Instant) (tenantId : String)
    (matched unmatched variance : Int)
    : Raises s
        (TelemetryCall.executeBankReconciliationDrill now tenantId matched unmatched variance
          : TelemetryCall Λ).raised
        []
        (s.executeBankReconciliationDrill now tenantId matched unmatched variance).2 := by
  obtain ⟨quiet, all⟩ := s.recordCounters_spec tenantId
    [("bank.reconciliation.matched", matched), ("bank.reconciliation.unmatched", unmatched)]
  rw [List.forall_mem_cons, List.forall_mem_singleton] at all
  unfold executeBankReconciliationDrill TelemetryCall.raised
  generalize s.recordCounters tenantId _ = recorded at *
  obtain ⟨outcome, next⟩ := recorded
  cases outcome with
  | error error =>
      have wide : ¬ (Fits matched ∧ Fits unmatched) := fun narrow => by cases all.mpr narrow
      dsimp only
      rw [if_neg (fun narrow => wide ⟨narrow.1, narrow.2.1⟩)]
      exact quiet
  | ok done =>
      obtain ⟨narrow, narrow'⟩ := all.mp rfl
      dsimp only
      by_cases zero : variance = 0
      · simpa [zero] using quiet
      · rw [if_pos zero, if_pos ⟨narrow, narrow', zero⟩, toFloat]
        cases FloatValue.ofInt? variance with
        | none => exact quiet
        | some current => exact quiet.trigger now _

theorem stormDrill_raises (s : TelemetryRegistry Λ) (now : Instant) (tenantId : String)
    (attempted : Int) (rate : FloatValue)
    : Raises s
        (TelemetryCall.executeRetryStormDrill now tenantId attempted rate
          : TelemetryCall Λ).raised
        []
        (s.executeRetryStormDrill now tenantId attempted rate).2 := by
  unfold executeRetryStormDrill TelemetryCall.raised Storms
  cases counted : stormFailures attempted rate with
  | error error => simpa [counted, Except.toOption] using Raises.quiet rfl rfl rfl
  | ok failures =>
      obtain ⟨quiet, all⟩ := s.recordCounters_spec tenantId
        [("disbursement.requests.total", attempted), ("disbursement.requests.failed", failures)]
      rw [List.forall_mem_cons, List.forall_mem_singleton] at all
      dsimp only
      generalize s.recordCounters tenantId _ = recorded at *
      obtain ⟨outcome, next⟩ := recorded
      cases outcome with
      | error error =>
          have wide : ¬ (Fits attempted ∧ Fits failures) := fun narrow => by cases all.mpr narrow
          simpa [counted, Except.toOption, wide] using quiet
      | ok done =>
          have narrow := all.mp rfl
          by_cases due : stormThreshold.le rate
          · simpa [counted, Except.toOption, narrow, due]
              using quiet.trigger now (stormAlert tenantId rate)
          · simpa [counted, Except.toOption, due] using quiet

theorem step_raises (s : TelemetryRegistry Λ) (call : TelemetryCall Λ)
    : Raises s call.raised call.added ((telemetryMachine Λ).step s call).2 := by
  cases call with
  | recordCounter metricName entry => exact .quiet rfl rfl rfl
  | recordLatency metricName entry => exact .quiet rfl rfl rfl
  | addAlertListener listener =>
      exact ⟨by simp [telemetryMachine, addAlertListener, TelemetryCall.raised, numbered], rfl,
        by simp [telemetryMachine, addAlertListener, TelemetryCall.raised, numbered]⟩
  | triggerAlert now body => exact Raises.trigger (.quiet rfl rfl rfl) now body
  | executeBankReconciliationDrill now tenantId matched unmatched variance =>
      exact s.bankDrill_raises now tenantId matched unmatched variance
  | executeRetryStormDrill now tenantId attempted rate =>
      exact s.stormDrill_raises now tenantId attempted rate

end TelemetryRegistry

/-! ### Runs -/

theorem numbered_append (earlier : Nat) (alerts later : List (Instant × AlertBody))
    : numbered earlier (alerts ++ later)
      = numbered earlier alerts ++ numbered (earlier + alerts.length) later := by
  induction alerts generalizing earlier with
  | nil => rfl
  | cons alert rest ih =>
      simp only [List.cons_append, numbered, ih, List.length_cons, Nat.add_assoc, Nat.add_comm 1]

theorem length_numbered (earlier : Nat) (alerts : List (Instant × AlertBody))
    : (numbered earlier alerts).length = alerts.length := by
  induction alerts generalizing earlier with
  | nil => rfl
  | cons alert rest ih => rw [numbered, List.length_cons, ih, List.length_cons]

theorem ids_numbered (earlier : Nat) (alerts : List (Instant × AlertBody))
    : (numbered earlier alerts).map (·.alertId)
      = (List.range' (earlier + 1) alerts.length).map
          (fun number => "alt-" ++ zeroPadded 4 (number : Nat)) := by
  induction alerts generalizing earlier with
  | nil => rfl
  | cons alert rest ih =>
      rw [numbered, List.map_cons, ih, List.length_cons, List.range'_succ, List.map_cons]
      rfl

/-- Numbers are not given twice, whatever alerts they are given to. -/
theorem numbered_ids_nodup (earlier : Nat) (alerts : List (Instant × AlertBody))
    : ((numbered earlier alerts).map (·.alertId)).Nodup := by
  rw [ids_numbered]
  apply List.Nodup.map _ List.nodup_range'
  intro number number' same
  exact zeroPadded_injective 4 ((String.append_right_inj _).mp same)

section Runs

variable (s : TelemetryRegistry Λ) (calls : List (TelemetryCall Λ))

theorem exec_alertsHistory
    : ((telemetryMachine Λ).exec s calls).alertsHistory
      = s.alertsHistory ++ numbered s.alertsHistory.length (calls.filterMap (·.raised)) := by
  induction calls generalizing s with
  | nil => simp [Machine.exec, numbered]
  | cons call rest ih =>
      rw [Machine.exec, ih, (s.step_raises call).history, List.length_append, List.append_assoc]
      cases raised : call.raised with
      | none => simp [numbered, raised]
      | some alert => simp [numbered, raised]

theorem exec_alertListeners
    : ((telemetryMachine Λ).exec s calls).alertListeners
      = s.alertListeners ++ calls.flatMap (·.added) := by
  induction calls generalizing s with
  | nil => simp [Machine.exec]
  | cons call rest ih =>
      rw [Machine.exec, ih, (s.step_raises call).listeners, List.flatMap_cons, List.append_assoc]

/-- The alerts of a call are told to a listener once for each time that it is in the list. -/
theorem step_toldTo [DecidableEq Λ] (call : TelemetryCall Λ) (listener : Λ)
    : ((telemetryMachine Λ).step s call).2.toldTo listener
      = s.toldTo listener
        ++ (numbered s.alertsHistory.length call.raised.toList).flatMap
          (List.replicate (s.alertListeners.count listener)) := by
  have copies (event : AlertEvent) (listeners : List Λ)
      : ((listeners.map (fun told => (told, event))).filter (fun told => told.1 = listener)).map
          Prod.snd
        = List.replicate (listeners.count listener) event := by
    induction listeners with
    | nil => rfl
    | cons told rest ih =>
        by_cases same : told = listener
        · simp [same, ih, List.replicate_succ]
        · simp [same, ih]
  rw [TelemetryRegistry.toldTo, (s.step_raises call).told, List.filter_append, List.map_append,
    List.filter_flatMap, List.map_flatMap]
  simp only [copies]
  rfl

/-- A listener that is not added again is told what a run raises, each time that it is in the list.
-/
theorem exec_toldTo [DecidableEq Λ] {listener : Λ} (absent : listener ∉ calls.flatMap (·.added))
    : ((telemetryMachine Λ).exec s calls).toldTo listener
      = s.toldTo listener
        ++ (numbered s.alertsHistory.length (calls.filterMap (·.raised))).flatMap
          (List.replicate (s.alertListeners.count listener)) := by
  induction calls generalizing s with
  | nil => simp [Machine.exec, numbered]
  | cons call rest ih =>
      rw [List.flatMap_cons, List.mem_append, not_or] at absent
      have step := s.step_raises call
      rw [Machine.exec, ih _ absent.2, step_toldTo, step.listeners, step.history, List.count_append,
        List.count_eq_zero.mpr absent.1, List.append_assoc, Nat.add_zero, List.length_append]
      cases raised : call.raised with
      | none => simp [numbered, raised]
      | some alert => simp [numbered, raised]

end Runs

/-- What a run leaves in a registry: all alerts under different identifiers, a status that tells the
gravest of them, and every listener told what was raised since it was added.
-/
structure Watched [DecidableEq Λ] (calls : List (TelemetryCall Λ)) (s : TelemetryRegistry Λ)
    : Prop where
  history : s.alertsHistory = numbered 0 (calls.filterMap (·.raised))
  ids : (s.alertsHistory.map (·.alertId)).Nodup
  critical : s.evaluateSystemHealth.status = "CRITICAL" ↔ ∃ call ∈ calls, call.Pages
  degraded
    : s.evaluateSystemHealth.status = "DEGRADED"
      ↔ (∀ call ∈ calls, ¬ call.Pages) ∧ ∃ call ∈ calls, call.Warns
  told
    : ∀ before listener after,
        calls = before ++ .addAlertListener listener :: after
        → listener ∉ (before ++ after).flatMap (·.added)
        → s.toldTo listener = s.alertsHistory.drop (before.filterMap (·.raised)).length

/-- Some alert has a severity exactly if some call raised it. -/
theorem active_iff (calls : List (TelemetryCall Λ)) (severity : AlertSeverity)
    : 0 < (((telemetryMachine Λ).exec .new calls).getActiveAlerts (some severity)).length
      ↔ ∃ call ∈ calls, ∃ alert ∈ call.raised, alert.2.severity = severity := by
  have kinds (earlier : Nat) (alerts : List (Instant × AlertBody))
      : (numbered earlier alerts).map (·.severity) = alerts.map (fun alert => alert.2.severity) := by
    induction alerts generalizing earlier with
    | nil => rfl
    | cons alert rest ih => rw [numbered, List.map_cons, ih, List.map_cons, AlertBody.event]
  have history := exec_alertsHistory (.new : TelemetryRegistry Λ) calls
  rw [TelemetryRegistry.getActiveAlerts, List.length_pos_iff_exists_mem, history]
  calc
    (∃ event, event ∈ (numbered 0 (calls.filterMap (·.raised))).filter
        (fun a => a.severity = severity))
      ↔ severity ∈ (numbered 0 (calls.filterMap (·.raised))).map (·.severity) := by
      simp [List.mem_map]
    _ ↔ ∃ call ∈ calls, ∃ alert ∈ call.raised, alert.2.severity = severity := by
      rw [kinds, List.mem_map]
      constructor
      · rintro ⟨alert, member, same⟩
        obtain ⟨call, called, raised⟩ := List.mem_filterMap.mp member
        exact ⟨call, called, alert, raised, same⟩
      · rintro ⟨call, called, alert, raised, same⟩
        exact ⟨alert, List.mem_filterMap.mpr ⟨call, called, raised⟩, same⟩

/-- After every run from a new registry, the status tells whether a call for a page, or for an alert
of the second severity, was among the calls, and each listener has been called with exactly the
alerts that were raised after it was added, in order.
-/
theorem run_watched [DecidableEq Λ] (calls : List (TelemetryCall Λ))
    : Watched calls ((telemetryMachine Λ).exec .new calls) := by
  have history := exec_alertsHistory (.new : TelemetryRegistry Λ) calls
  have pages := (active_iff calls .p1Critical).trans
    (exists_congr fun call => and_congr_right fun _ => call.pages_iff.symm)
  have warns := (active_iff calls .p2High).trans
    (exists_congr fun call => and_congr_right fun _ => call.warns_iff.symm)
  refine ⟨history, ?_, ?_, ?_, ?_⟩
  · rw [history]
    exact numbered_ids_nodup 0 _
  · rw [← pages, TelemetryRegistry.evaluateSystemHealth]
    dsimp only
    split
    · rename_i paged
      exact iff_of_true rfl paged
    · rename_i calm
      split <;> exact iff_of_false (by decide) calm
  · have unpaged
        : (∀ call ∈ calls, ¬ call.Pages)
          ↔ ¬ 0 < (((telemetryMachine Λ).exec .new calls).getActiveAlerts
              (some .p1Critical)).length := by
      rw [pages]
      simp only [not_exists, not_and]
    rw [unpaged, ← warns, TelemetryRegistry.evaluateSystemHealth]
    dsimp only
    split
    · rename_i paged
      exact iff_of_false (by decide) (fun degraded => degraded.1 paged)
    · rename_i calm
      split
      · rename_i warned
        exact iff_of_true rfl ⟨calm, warned⟩
      · rename_i quiet
        exact iff_of_false (by decide) (fun degraded => quiet degraded.2)
  · rintro before listener after rfl absent
    rw [List.flatMap_append, List.mem_append, not_or] at absent
    have listed
        : ((telemetryMachine Λ).exec .new before).alertListeners = before.flatMap (·.added) :=
      exec_alertListeners .new before
    have raised
        : ((telemetryMachine Λ).exec .new before).alertsHistory
          = numbered 0 (before.filterMap (·.raised)) :=
      exec_alertsHistory .new before
    have untold : ((telemetryMachine Λ).exec .new before).toldTo listener = [] := by
      rw [exec_toldTo _ _ absent.1]
      simp [TelemetryRegistry.new, TelemetryRegistry.toldTo]
    rw [history, Machine.exec_append, Machine.exec]
    generalize (telemetryMachine Λ).exec .new before = s at listed raised untold
    have once : (s.alertListeners ++ [listener]).count listener = 1 := by
      rw [List.count_append, listed, List.count_eq_zero.mpr absent.1, List.count_singleton_self]
    have single : (List.replicate 1 : AlertEvent → List AlertEvent) = fun event => [event] := rfl
    calc
      ((telemetryMachine Λ).exec (s.addAlertListener listener) after).toldTo listener
        = numbered s.alertsHistory.length (after.filterMap (·.raised)) := by
        rw [exec_toldTo _ _ absent.2]
        change s.toldTo listener
          ++ (numbered s.alertsHistory.length (after.filterMap (·.raised))).flatMap
            (List.replicate ((s.alertListeners ++ [listener]).count listener)) = _
        rw [untold, once, single, List.flatMap_singleton', List.nil_append]
      _ = (numbered 0 ((before ++ .addAlertListener listener :: after).filterMap (·.raised))).drop
          (before.filterMap (·.raised)).length := by
        rw [List.filterMap_append, List.filterMap_cons_none rfl, numbered_append, Nat.zero_add,
          List.drop_left' (length_numbered _ _), raised]
        rw [length_numbered]

end PettyFlow.Observability
