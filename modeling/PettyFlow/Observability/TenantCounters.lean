import PettyFlow.Foundation.FloatErrors
import PettyFlow.Observability.SystemHealth

/-! What the drills of a tenant have counted is read back exactly, whatever other tenants do. -/

namespace PettyFlow.Observability

open Foundation

variable {Λ : Type}

/-- The numbers that a call counts, each with the tenant and the metric that it is counted for. -/
def TelemetryCall.counters : TelemetryCall Λ → List (String × String × Int)
  | .executeBankReconciliationDrill _ tenantId matched unmatched _ => [
      (tenantId, "bank.reconciliation.matched", matched),
      (tenantId, "bank.reconciliation.unmatched", unmatched)
    ]
  | .executeRetryStormDrill _ tenantId attempted rate =>
      match TelemetryRegistry.stormFailures attempted rate with
      | .ok failures => [
          (tenantId, "disbursement.requests.total", attempted),
          (tenantId, "disbursement.requests.failed", failures)
        ]
      | .error _ => []
  | _ => []

/-- A value is recorded under a metric by itself, not by a drill. -/
def TelemetryCall.records (metricName : String) : TelemetryCall Λ → Bool
  | .recordCounter name _ | .recordLatency name _ => name = metricName
  | _ => false

/-- The numbers that a run's drills count for a tenant, under one metric. -/
def countedFor (tenantId metricName : String) (counters : List (String × String × Int))
    : List Int :=
  (counters.filter (fun counter => counter.1 = tenantId ∧ counter.2.1 = metricName)).map (·.2.2)

namespace TelemetryRegistry

variable (s : TelemetryRegistry Λ)

/-- The entries of a metric that have a tenant's tag. -/
def entriesOf (tenantId metricName : String) : List MetricEntry :=
  (s.metrics.getD metricName []).filter (matchesTags (tenantTag tenantId))

theorem matchesTags_tenantTag (tenantId tenantId' : String) (value : FloatValue)
    : matchesTags (tenantTag tenantId) ⟨value, tenantTag tenantId'⟩
      = decide (tenantId' = tenantId) := by
  have tag : (tenantTag tenantId).entries = [("tenant_id", tenantId)] := rfl
  have tagged : (tenantTag tenantId').get? "tenant_id" = some tenantId' := Dict.get?_set_self _ _ _
  simp [matchesTags, tag, tagged]

theorem entriesOf_record (tenantId metricName name : String) (entry : MetricEntry)
    : (s.record name entry).entriesOf tenantId metricName
      = s.entriesOf tenantId metricName
        ++ if name = metricName ∧ matchesTags (tenantTag tenantId) entry then [entry] else [] := by
  unfold entriesOf record
  by_cases same : name = metricName
  · subst same
    rw [Dict.getD_set_self, List.filter_append]
    by_cases tagged : matchesTags (tenantTag tenantId) entry <;> simp [tagged]
  · rw [Dict.getD_set_ne _ _ _ same]
    simp [same]

/-- A number that fits is recorded for its own tenant under its own metric. -/
theorem entriesOf_recordWhole (tenantId metricName tenantId' name : String) (n : Int)
    (small : tenantId' = tenantId → n.natAbs < 2 ^ 53)
    : (s.recordWhole name n (tenantTag tenantId')).2.entriesOf tenantId metricName
      = s.entriesOf tenantId metricName
        ++ (countedFor tenantId metricName [(tenantId', name, n)]).map
          (fun n => ⟨.finite n, tenantTag tenantId⟩) := by
  unfold recordWhole
  by_cases own : tenantId' = tenantId
  · subst own
    have whole : FloatValue.ofInt? n = some (.finite n) := by
      rw [FloatValue.ofInt?, FloatValue.nearest_int (small rfl)]
    rw [toFloat, whole]
    dsimp only [orRaise]
    rw [entriesOf_record, matchesTags_tenantTag]
    by_cases same : name = metricName <;> simp [countedFor, same]
  · have other : countedFor tenantId metricName [(tenantId', name, n)] = [] := by
      simp [countedFor, own]
    rw [other, List.map_nil, List.append_nil]
    cases toFloat n with
    | ok value =>
        dsimp only
        rw [entriesOf_record, matchesTags_tenantTag]
        simp [own]
    | error error =>
        unfold entriesOf
        by_cases same : name = metricName
        · rw [same, Dict.getD_set_self]
        · rw [Dict.getD_set_ne _ _ _ same]

/-- Counters are recorded for their own tenant, each under its own metric. -/
theorem entriesOf_recordCounters (tenantId metricName tenantId' : String)
    (counters : List (String × Int))
    (small : tenantId' = tenantId → ∀ counter ∈ counters, counter.2.natAbs < 2 ^ 53)
    : (s.recordCounters tenantId' counters).2.entriesOf tenantId metricName
      = s.entriesOf tenantId metricName
        ++ (countedFor tenantId metricName (counters.map (tenantId', ·))).map
          (fun n => ⟨.finite n, tenantTag tenantId⟩) := by
  induction counters generalizing s with
  | nil => simp [recordCounters, countedFor]
  | cons counter rest ih =>
      obtain ⟨name, n⟩ := counter
      have first := s.entriesOf_recordWhole tenantId metricName tenantId' name n
        (fun own => small own _ List.mem_cons_self)
      obtain ⟨-, fits⟩ := s.recordWhole_spec name n (tenantTag tenantId')
      have split
          : countedFor tenantId metricName (((name, n) :: rest).map (tenantId', ·))
            = countedFor tenantId metricName [(tenantId', name, n)]
              ++ countedFor tenantId metricName (rest.map (tenantId', ·)) := by
        simp only [countedFor, List.map_cons]
        rw [← List.map_append, ← List.filter_append, List.singleton_append]
      rw [recordCounters, split, List.map_append, ← List.append_assoc, ← first]
      generalize s.recordWhole name n (tenantTag tenantId') = recorded at fits
      obtain ⟨outcome, next⟩ := recorded
      cases outcome with
      | ok done => exact ih next (fun own c later => small own c (List.mem_cons_of_mem _ later))
      | error error =>
          have other : tenantId' ≠ tenantId := by
            intro own
            apply fits.mp ⟨error, rfl⟩
            rw [Fits, FloatValue.ofInt?,
              FloatValue.nearest_int (small own _ List.mem_cons_self)]
            rfl
          have none : countedFor tenantId metricName (rest.map (tenantId', ·)) = [] := by
            rw [countedFor, List.map_eq_nil_iff, List.filter_eq_nil_iff]
            intro counter member
            obtain ⟨c, -, rfl⟩ := List.mem_map.mp member
            simp [other]
          rw [none, List.map_nil, List.append_nil]

/-- A call adds to a metric what it counts for the tenant. -/
theorem entriesOf_step (tenantId metricName : String) (call : TelemetryCall Λ)
    (drilled : call.records metricName = false)
    (small : ∀ counter ∈ call.counters, counter.1 = tenantId → counter.2.2.natAbs < 2 ^ 53)
    : ((telemetryMachine Λ).step s call).2.entriesOf tenantId metricName
      = s.entriesOf tenantId metricName
        ++ (countedFor tenantId metricName call.counters).map
          (fun n => ⟨.finite n, tenantTag tenantId⟩) := by
  cases call with
  | recordCounter name entry =>
      have other : name ≠ metricName := by simpa [TelemetryCall.records] using drilled
      change (s.record name entry).entriesOf tenantId metricName = _
      rw [entriesOf_record]
      simp [other, TelemetryCall.counters, countedFor]
  | recordLatency name entry =>
      have other : name ≠ metricName := by simpa [TelemetryCall.records] using drilled
      change (s.record name entry).entriesOf tenantId metricName = _
      rw [entriesOf_record]
      simp [other, TelemetryCall.counters, countedFor]
  | addAlertListener listener => simp [telemetryMachine, TelemetryCall.counters, countedFor,
      addAlertListener, entriesOf]
  | triggerAlert now body => simp [telemetryMachine, TelemetryCall.counters, countedFor,
      triggerAlert, entriesOf]
  | executeBankReconciliationDrill now tenantId' matched unmatched variance =>
      have counted := s.entriesOf_recordCounters tenantId metricName tenantId'
        [("bank.reconciliation.matched", matched), ("bank.reconciliation.unmatched", unmatched)]
        (fun own c member => small (tenantId', c) (List.mem_map_of_mem member) own)
      refine Eq.trans ?_ counted
      change (s.executeBankReconciliationDrill now tenantId' matched unmatched variance).2.entriesOf
        tenantId metricName = _
      unfold executeBankReconciliationDrill
      generalize s.recordCounters tenantId' _ = recorded
      obtain ⟨outcome, next⟩ := recorded
      cases outcome with
      | error error => rfl
      | ok done =>
          dsimp only
          split
          · cases toFloat variance <;> rfl
          · rfl
  | executeRetryStormDrill now tenantId' attempted rate =>
      change (s.executeRetryStormDrill now tenantId' attempted rate).2.entriesOf
        tenantId metricName = _
      unfold executeRetryStormDrill
      cases counted : stormFailures attempted rate with
      | error error => simp [TelemetryCall.counters, counted, countedFor]
      | ok failures =>
          have drill
              : (TelemetryCall.executeRetryStormDrill now tenantId' attempted rate
                  : TelemetryCall Λ).counters
                = [
                    ("disbursement.requests.total", attempted),
                    ("disbursement.requests.failed", failures)
                  ].map (tenantId', ·) := by
            simp [TelemetryCall.counters, counted]
          rw [drill] at small ⊢
          rw [← s.entriesOf_recordCounters tenantId metricName tenantId' _
            (fun own c member => small (tenantId', c) (List.mem_map_of_mem member) own)]
          dsimp only
          generalize s.recordCounters tenantId' _ = recorded
          obtain ⟨outcome, next⟩ := recorded
          cases outcome with
          | error error => rfl
          | ok done =>
              dsimp only
              split <;> rfl

end TelemetryRegistry

/-- Entries after a run, one after the other what each call counts. -/
theorem entriesOf_exec (s : TelemetryRegistry Λ) (tenantId metricName : String)
    (calls : List (TelemetryCall Λ)) (drilled : ∀ call ∈ calls, call.records metricName = false)
    (small
      : ∀ counter ∈ calls.flatMap (·.counters),
          counter.1 = tenantId → counter.2.2.natAbs < 2 ^ 53)
    : ((telemetryMachine Λ).exec s calls).entriesOf tenantId metricName
      = s.entriesOf tenantId metricName
        ++ (countedFor tenantId metricName (calls.flatMap (·.counters))).map
          (fun n => ⟨.finite n, TelemetryRegistry.tenantTag tenantId⟩) := by
  induction calls generalizing s with
  | nil => simp [Machine.exec, countedFor]
  | cons call rest ih =>
      obtain ⟨first, later⟩ := List.forall_mem_cons.mp drilled
      rw [List.flatMap_cons] at small ⊢
      have split
          : countedFor tenantId metricName (call.counters ++ rest.flatMap (·.counters))
            = countedFor tenantId metricName call.counters
              ++ countedFor tenantId metricName (rest.flatMap (·.counters)) := by
        rw [countedFor, List.filter_append, List.map_append]
        rfl
      rw [Machine.exec,
        ih _ later (fun counter member => small counter (List.mem_append_right _ member)),
        s.entriesOf_step tenantId metricName call first
          (fun counter member => small counter (List.mem_append_left _ member)),
        split, List.map_append, List.append_assoc]

/-- Where a metric is left to the drills, and a tenant's drills count fewer than two to the
fifty-third all in all, the sum and the number of values that the registry gives for the tenant are
exactly those of the numbers that its own drills have counted, in every run.
-/
theorem tenant_counters_exact (tenantId metricName : String) (calls : List (TelemetryCall Λ))
    (drilled : ∀ call ∈ calls, call.records metricName = false)
    (small
      : (((calls.flatMap (·.counters)).filter (fun counter => counter.1 = tenantId)).map
          (fun counter => counter.2.2.natAbs)).sum < 2 ^ 53)
    : let s := (telemetryMachine Λ).exec .new calls
      let counted := countedFor tenantId metricName (calls.flatMap (·.counters))
      s.getMetricSum metricName (TelemetryRegistry.tenantTag tenantId) = .finite counted.sum
      ∧ s.getMetricCount metricName (TelemetryRegistry.tenantTag tenantId) = counted.length := by
  dsimp only
  have each
      : ∀ counter ∈ calls.flatMap (·.counters),
          counter.1 = tenantId → counter.2.2.natAbs < 2 ^ 53 := by
    intro counter member own
    refine lt_of_le_of_lt (List.single_le_sum (fun _ _ => Nat.zero_le _) _ ?_) small
    exact List.mem_map.mpr ⟨counter, List.mem_filter.mpr ⟨member, decide_eq_true own⟩, rfl⟩
  have entries := entriesOf_exec .new tenantId metricName calls drilled each
  have fresh : (.new : TelemetryRegistry Λ).entriesOf tenantId metricName = [] := rfl
  have sublist
      : ((countedFor tenantId metricName (calls.flatMap (·.counters))).map Int.natAbs).Sublist
          (((calls.flatMap (·.counters)).filter (fun counter => counter.1 = tenantId)).map
            (fun counter => counter.2.2.natAbs)) := by
    rw [countedFor, List.map_map]
    apply List.Sublist.map
    apply List.monotone_filter_right
    intro counter both
    exact decide_eq_true (of_decide_eq_true both).1
  have bounded := (sublist.sum_le_sum (fun _ _ => Nat.zero_le _)).trans_lt small
  rw [fresh, List.nil_append, TelemetryRegistry.entriesOf] at entries
  rw [TelemetryRegistry.getMetricSum, TelemetryRegistry.getMetricCount, entries, List.length_map]
  refine ⟨?_, rfl⟩
  rw [List.foldl_map, ← FloatValue.foldl_add_ints _ bounded, List.foldl_map]

/-- Two tenants drill, and one of them records another metric by itself. -/
def drilledCalls : List (TelemetryCall String) := [
  .executeBankReconciliationDrill ⟨0⟩ "t1" 3 1 0,
  .recordCounter "bank.reconciliation.unmatched" ⟨.finite 1, TelemetryRegistry.tenantTag "t1"⟩,
  .executeBankReconciliationDrill ⟨0⟩ "t2" 5 0 (-20000),
  .executeBankReconciliationDrill ⟨0⟩ "t1" 4 0 7
]

theorem tenant_counters_exact_sample
    : let s := (telemetryMachine String).exec .new drilledCalls
      let tag := TelemetryRegistry.tenantTag "t1"
      s.getMetricSum "bank.reconciliation.matched" tag = .finite (7 : Int)
      ∧ s.getMetricCount "bank.reconciliation.matched" tag = 2 :=
  tenant_counters_exact "t1" "bank.reconciliation.matched" drilledCalls (by decide) (by decide)

end PettyFlow.Observability
