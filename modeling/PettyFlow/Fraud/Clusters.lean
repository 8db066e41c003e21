import PettyFlow.Fraud.SplitTxDetector

/-! The clusters of a window are the connected components of the link graph on its events. The
search works on positions; with distinct events these are the events themselves.
-/

namespace PettyFlow.Fraud

open Foundation

namespace DetectorSettings

variable {settings : DetectorSettings} {lower : String → String}

/-- Two events are linked, for whatever reason. -/
def Linked (settings : DetectorSettings) (lower : String → String) (e1 e2 : TransactionEvent)
    : Prop :=
  (settings.areEventsLinked lower e1 e2).isSome

theorem sharedText_comm (first second : Option String)
    : sharedText first second = sharedText second first := by
  cases first with
  | none => cases second <;> rfl
  | some a =>
      cases second with
      | none => rfl
      | some b =>
          simp only [sharedText]
          by_cases same : a = b
          · rw [same]
          · simp [same, Ne.symm same]

theorem sharedName_comm (first second : Option String)
    : (sharedName lower first second).isSome = (sharedName lower second first).isSome := by
  cases first with
  | none => cases second <;> rfl
  | some a =>
      cases second with
      | none => rfl
      | some b =>
          simp only [sharedName]
          by_cases same : lower (strip a) = lower (strip b)
          · simp only [same]
            by_cases first : a = "" <;> by_cases second : b = "" <;>
              by_cases blank : lower (strip b) = "" <;> simp [first, second, blank]
          · simp [same, Ne.symm same]

/-- Events within the window of each other are linked by what they share. -/
theorem linked_iff {e1 e2 : TransactionEvent}
    : settings.Linked lower e1 e2
      ↔ |e1.micros - e2.micros| ≤ settings.windowMicros
        ∧ (e1.custodianId = e2.custodianId
          ∨ (sharedText e1.merchantId e2.merchantId).isSome
          ∨ (sharedName lower e1.merchantName e2.merchantName).isSome
          ∨ (sharedText e1.receiptHash e2.receiptHash).isSome) := by
  unfold Linked areEventsLinked
  by_cases far : settings.windowMicros < |e1.micros - e2.micros|
  · simp [far, not_le.mpr far]
  · have near := not_lt.mp far
    by_cases same : e1.custodianId = e2.custodianId
    · simp [near, same, far]
    · simp [near, same, far, Option.isSome_or, Option.isSome_map]

theorem Linked.symm {e1 e2 : TransactionEvent} (linked : settings.Linked lower e1 e2)
    : settings.Linked lower e2 e1 := by
  rw [linked_iff] at linked ⊢
  obtain ⟨near, shared⟩ := linked
  rw [abs_sub_comm] at near
  refine ⟨near, ?_⟩
  rcases shared with custodian | merchant | name | receipt
  · exact Or.inl custodian.symm
  · rw [sharedText_comm] at merchant
    exact Or.inr (Or.inl merchant)
  · rw [sharedName_comm] at name
    exact Or.inr (Or.inr (Or.inl name))
  · rw [sharedText_comm] at receipt
    exact Or.inr (Or.inr (Or.inr receipt))

section Positions

variable {events : List TransactionEvent}

theorem mem_linkedPairs {i j : Nat} {reason : String}
    : (i, j, reason) ∈ settings.linkedPairs lower events
      ↔ i < j
        ∧ ∃ e1 e2,
            events[i]? = some e1 ∧ events[j]? = some e2
            ∧ settings.areEventsLinked lower e1 e2 = some reason := by
  simp only [linkedPairs, List.mem_flatMap, List.mem_range, List.mem_filterMap, List.mem_range'_1]
  constructor
  · rintro ⟨i', _, j', ⟨above, _⟩, found⟩
    obtain ⟨e1, first, found⟩ := Option.bind_eq_some_iff.mp found
    obtain ⟨e2, second, found⟩ := Option.bind_eq_some_iff.mp found
    obtain ⟨reason', linked, found⟩ := Option.bind_eq_some_iff.mp found
    cases found
    exact ⟨above, e1, e2, first, second, linked⟩
  · rintro ⟨above, e1, e2, first, second, linked⟩
    obtain ⟨inside, _⟩ := List.getElem?_eq_some_iff.mp first
    obtain ⟨inside', _⟩ := List.getElem?_eq_some_iff.mp second
    refine ⟨i, inside, j, by omega, ?_⟩
    simp [first, second, linked]

/-- A pair is a link of both its positions. -/
theorem mem_adjacency {pairs : List (Nat × Nat × String)} {i j : Nat} {reason : String}
    : (j, reason) ∈ adjacency pairs i ↔ (i, j, reason) ∈ pairs ∨ (j, i, reason) ∈ pairs := by
  have single (p q k : Nat) (r : String)
      : (j, reason) ∈ (if p = q then [(k, r)] else []) ↔ p = q ∧ k = j ∧ r = reason := by
    by_cases own : p = q
    · simp [own, eq_comm]
    · simp [own]
  simp only [adjacency, List.mem_flatMap, Prod.exists, List.mem_append, single]
  constructor
  · rintro ⟨p, q, r, pair, ⟨rfl, rfl, rfl⟩ | ⟨rfl, rfl, rfl⟩⟩
    · exact Or.inl pair
    · exact Or.inr pair
  · rintro (pair | pair)
    · exact ⟨i, j, reason, pair, Or.inl ⟨rfl, rfl, rfl⟩⟩
    · exact ⟨j, i, reason, pair, Or.inr ⟨rfl, rfl, rfl⟩⟩

/-- Two positions are adjacent when they differ and their events are linked. -/
theorem adjacent_iff {i j : Nat}
    : Adjacent (adjacency (settings.linkedPairs lower events)) i j
      ↔ i ≠ j
        ∧ ∃ e1 e2,
            events[i]? = some e1 ∧ events[j]? = some e2 ∧ settings.Linked lower e1 e2 := by
  simp only [Adjacent, mem_adjacency, mem_linkedPairs]
  constructor
  · rintro ⟨reason, ⟨above, e1, e2, here, there, linked⟩ | ⟨above, e1, e2, here, there, linked⟩⟩
    · exact ⟨ne_of_lt above, e1, e2, here, there, Option.isSome_of_eq_some linked⟩
    · have linked' : settings.Linked lower e1 e2 := Option.isSome_of_eq_some linked
      exact ⟨ne_of_gt above, e2, e1, there, here, linked'.symm⟩
  · rintro ⟨different, e1, e2, here, there, linked⟩
    rcases lt_or_gt_of_ne different with below | above
    · obtain ⟨reason, found⟩ := Option.isSome_iff_exists.mp linked
      exact ⟨reason, Or.inl ⟨below, e1, e2, here, there, found⟩⟩
    · obtain ⟨reason, found⟩ := Option.isSome_iff_exists.mp linked.symm
      exact ⟨reason, Or.inr ⟨above, e2, e1, there, here, found⟩⟩

theorem adjacency_undirected
    : Undirected (adjacency (settings.linkedPairs lower events)) (List.range events.length) := by
  constructor
  · intro i _ j adjacent
    obtain ⟨_, _, _, _, there, _⟩ := adjacent_iff.mp adjacent
    exact List.mem_range.mpr (List.getElem?_eq_some_iff.mp there).1
  · intro i _ j adjacent
    obtain ⟨different, e1, e2, here, there, linked⟩ := adjacent_iff.mp adjacent
    exact adjacent_iff.mpr ⟨different.symm, e2, e1, there, here, linked.symm⟩

/-- A path of positions is a path of events, edge by edge. -/
theorem connected_of_reaches {i j : Nat} {a b : TransactionEvent}
    (reaches : Reaches (adjacency (settings.linkedPairs lower events)) i j)
    (here : events[i]? = some a) (there : events[j]? = some b)
    : Connected events (settings.Linked lower) a b := by
  induction reaches generalizing b with
  | refl =>
      obtain rfl := Option.some.inj (here.symm.trans there)
      exact .refl
  | tail _ edge ih =>
      obtain ⟨_, e1, e2, first, second, linked⟩ := adjacent_iff.mp edge
      obtain rfl := Option.some.inj (second.symm.trans there)
      exact (ih first).tail ⟨List.mem_of_getElem? there, linked⟩

/-- A path of events visits positions; a link of an event to itself stays where it is. -/
theorem reaches_of_connected {i : Nat} {a b : TransactionEvent} (here : events[i]? = some a)
    (connected : Connected events (settings.Linked lower) a b)
    : ∃ j,
        events[j]? = some b
        ∧ Reaches (adjacency (settings.linkedPairs lower events)) i j := by
  induction connected with
  | refl => exact ⟨i, here, .refl⟩
  | tail _ edge ih =>
      obtain ⟨j, there, reaches⟩ := ih
      obtain ⟨k, next⟩ := List.mem_iff_getElem?.mp edge.1
      by_cases same : j = k
      · subst same
        exact ⟨j, next, reaches⟩
      · have adjacent := adjacent_iff.mpr ⟨same, _, _, there, next, edge.2⟩
        exact ⟨k, next, reaches.tail adjacent⟩

theorem mem_transactions {tenantId : String} {indices : List Nat} {reasons : List String}
    {number : Nat} {e : TransactionEvent}
    : e ∈ (cluster tenantId events indices reasons number).transactions
      ↔ ∃ i ∈ indices, events[i]? = some e := by
  simp [cluster, List.mem_filterMap]

/-- Distinct positions hold distinct events. -/
theorem transactions_nodup (nodup : events.Nodup) {tenantId : String} {indices : List Nat}
    {reasons : List String} {number : Nat} (once : indices.Nodup)
    : (cluster tenantId events indices reasons number).transactions.Nodup := by
  apply List.Nodup.filterMap _ once
  intro i j e first second
  obtain ⟨inside, _⟩ := List.getElem?_eq_some_iff.mp first
  exact (List.getElem?_inj inside nodup).mp (first.trans second.symm)

/-- What a cluster says of its events, which are one component of the window. -/
structure ClusterOf (settings : DetectorSettings) (lower : String → String)
    (events : List TransactionEvent) (cluster : TransactionCluster)
    : Prop where
  nodup : cluster.transactions.Nodup
  total : cluster.totalAmountScaled = totalScaled cluster.transactions
  windowStart : cluster.windowStart = earliest cluster.transactions
  windowEnd : cluster.windowEnd = latest cluster.transactions
  connected
    : ∀ a ∈ cluster.transactions,
        ∀ b, b ∈ cluster.transactions ↔ b ∈ component events (settings.Linked lower) a

theorem ClusterOf.perm {c : TransactionCluster} (ofWindow : ClusterOf settings lower events c)
    (nodup : events.Nodup) {e : TransactionEvent} (member : e ∈ c.transactions)
    : c.transactions.Perm (component events (settings.Linked lower) e) :=
  (List.perm_ext_iff_of_nodup ofWindow.nodup (component_nodup nodup)).mpr
    (ofWindow.connected e member)

theorem cluster_of_component (nodup : events.Nodup) {tenantId : String}
    {found : List Nat × List String} {number : Nat}
    (listed
      : found
        ∈ Search.components (adjacency (settings.linkedPairs lower events))
            (List.range events.length))
    : ClusterOf settings lower events (cluster tenantId events found.1 found.2 number) := by
  have positions (i : Nat) (member : i ∈ found.1) :=
    Search.mem_components adjacency_undirected listed member
  have once : found.1.Nodup := by
    cases queue : found.1 with
    | nil => exact List.nodup_nil
    | cons i rest => exact queue ▸ (positions i (queue ▸ List.mem_cons_self)).1
  refine ⟨transactions_nodup nodup once, rfl, rfl, rfl, fun a inCluster b => ?_⟩
  obtain ⟨i, inQueue, here⟩ := mem_transactions.mp inCluster
  obtain ⟨_, _, same⟩ := positions i inQueue
  rw [mem_transactions, mem_component]
  constructor
  · rintro ⟨j, queued, there⟩
    have reaches := (same j).mp queued
    exact ⟨List.mem_of_getElem? there, connected_of_reaches reaches here there⟩
  · rintro ⟨_, connected⟩
    obtain ⟨j, there, reaches⟩ := reaches_of_connected here connected
    exact ⟨j, (same j).mpr reaches, there⟩

/-- Every cluster is a component of the link graph on the window. -/
theorem clusters_sound (nodup : events.Nodup) {tenantId : String} {c : TransactionCluster}
    (listed : c ∈ settings.clusters lower tenantId events)
    : ClusterOf settings lower events c := by
  unfold clusters at listed
  split at listed
  · cases listed
  · obtain ⟨⟨found, position⟩, numbered, rfl⟩ := List.mem_map.mp listed
    have kept := (List.mem_filter.mp (List.fst_mem_of_mem_zipIdx numbered)).1
    exact cluster_of_component nodup kept

/-- A component with enough events is the cluster of each of its events. -/
theorem clusters_complete (nodup : events.Nodup) (tenantId : String) (two : 2 ≤ events.length)
    {e : TransactionEvent} (member : e ∈ events)
    (enough
      : settings.minTxCount ≤ (component events (settings.Linked lower) e).length)
    : ∃ c ∈ settings.clusters lower tenantId events, e ∈ c.transactions := by
  obtain ⟨i, here⟩ := List.mem_iff_getElem?.mp member
  obtain ⟨inside, _⟩ := List.getElem?_eq_some_iff.mp here
  have undirected
      : Undirected (adjacency (settings.linkedPairs lower events)) (List.range events.length) :=
    adjacency_undirected
  obtain ⟨found, listed, queued⟩ := Search.exists_component undirected (List.mem_range.mpr inside)
  have inCluster (number : Nat)
      : e ∈ (cluster tenantId events found.1 found.2 number).transactions :=
    mem_transactions.mpr ⟨i, queued, here⟩
  -- The indices that were found are as many as the transactions of the component
  have large : settings.minTxCount ≤ found.1.length := by
    have ofWindow : ClusterOf settings lower events (cluster tenantId events found.1 found.2 0) :=
      cluster_of_component nodup listed
    have same := (ofWindow.perm nodup (inCluster 0)).length_eq
    have bound : (cluster tenantId events found.1 found.2 0).transactions.length ≤ found.1.length :=
      List.length_filterMap_le _ _
    omega
  have kept
      : found
        ∈ (Search.components (adjacency (settings.linkedPairs lower events))
            (List.range events.length)).filter
              (fun found => settings.minTxCount ≤ found.1.length) :=
    List.mem_filter.mpr ⟨listed, decide_eq_true large⟩
  obtain ⟨position, numbered⟩ := List.mem_iff_getElem?.mp kept
  have small : ¬ events.length < 2 := not_lt.mpr two
  refine ⟨cluster tenantId events found.1 found.2 (position + 1), ?_, inCluster _⟩
  unfold clusters
  rw [if_neg small]
  exact List.mem_map.mpr ⟨(found, position), List.mem_zipIdx_iff_getElem?.mpr numbered, rfl⟩

end Positions

end DetectorSettings

end PettyFlow.Fraud
