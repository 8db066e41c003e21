import PettyFlow.Foundation.Matching
import PettyFlow.Fraud.WindowClusters

/-! The clusters of any window are the connected components of its link graph. Events count by
their positions, so the same event may be recorded more than once.
-/

namespace PettyFlow.Fraud

open Foundation

/-- The list holds each text of the set once, in the order of the texts. -/
structure ListsSet (texts : List String) (set : Set String) : Prop where
  ascending : texts.Pairwise (· < ·)
  mem : ∀ text, text ∈ texts ↔ text ∈ set

theorem sortedSet_lists {texts : List String} {set : Set String}
    (mem : ∀ text, text ∈ texts ↔ text ∈ set)
    : ListsSet (sortedSet texts) set := by
  have perm : (sortedSet texts).Perm texts.dedup := List.perm_insertionSort _ _
  constructor
  · have sorted : (sortedSet texts).Pairwise (· ≤ ·) := List.pairwise_insertionSort _ _
    have nodup : (sortedSet texts).Pairwise (· ≠ ·) := perm.nodup_iff.mpr texts.nodup_dedup
    exact (sorted.and nodup).imp (fun both => lt_of_le_of_ne both.1 both.2)
  · intro text
    rw [perm.mem_iff, List.mem_dedup, mem]

theorem ListsSet.one_lt_length {texts : List String} {set : Set String} (lists : ListsSet texts set)
    : 1 < texts.length ↔ ∃ a ∈ set, ∃ b ∈ set, a ≠ b := by
  have nodup : texts.Nodup := lists.ascending.imp ne_of_lt
  simp only [← lists.mem]
  rw [← List.toFinset_card_of_nodup nodup, Finset.one_lt_card]
  simp only [List.mem_toFinset]

namespace DetectorSettings

/-- The graph on the positions of a window whose edges are the linked pairs. -/
def linkGraph (settings : DetectorSettings) (lower : String → String)
    (window : List TransactionEvent)
    : SimpleGraph (Fin window.length) where
  Adj i j := i ≠ j ∧ settings.Linked lower window[i] window[j]
  symm := ⟨fun _ _ edge => ⟨edge.1.symm, edge.2.symm⟩⟩
  loopless := ⟨fun _ edge => edge.1 rfl⟩

open Classical in
/-- What a cluster says is exactly what a component of the link graph is made of. -/
structure Describes (settings : DetectorSettings) (lower : String → String)
    {window : List TransactionEvent} (C : (settings.linkGraph lower window).ConnectedComponent)
    (cluster : TransactionCluster)
    : Prop where
  transactions
    : ∃ positions : List (Fin window.length),
        positions.Nodup ∧ (∀ i, i ∈ positions ↔ i ∈ C.supp)
        ∧ cluster.transactions = positions.map (window[·])
  total : cluster.totalAmountScaled = ∑ i with i ∈ C.supp, window[i].amountScaled
  custodians : ListsSet cluster.custodiansInvolved {c | ∃ i ∈ C.supp, window[i].custodianId = c}
  merchants
    : ListsSet cluster.merchantsInvolved {m | m ≠ "" ∧ ∃ i ∈ C.supp, window[i].merchantId = some m}
  windowStart : IsLeast {t | ∃ i ∈ C.supp, window[i].micros = t} cluster.windowStart.micros
  windowEnd : IsGreatest {t | ∃ i ∈ C.supp, window[i].micros = t} cluster.windowEnd.micros
  linkReasons
    : ListsSet cluster.linkReasons
        {reason |
          ∃ i ∈ C.supp, ∃ j ∈ C.supp,
            i < j ∧ settings.areEventsLinked lower window[i] window[j] = some reason}
  smurfing
    : cluster.isSmurfing = true
      ↔ ∃ i ∈ C.supp, ∃ j ∈ C.supp, window[i].custodianId ≠ window[j].custodianId

section Components

variable {settings : DetectorSettings} {lower : String → String}
  {window : List TransactionEvent}

theorem linkGraph_edges
    : Search.EdgesOf (settings.linkGraph lower window)
        (adjacency (settings.linkedPairs lower window)) := by
  intro i j
  rw [adjacent_iff]
  constructor
  · rintro ⟨different, e1, e2, here, there, linked⟩
    obtain ⟨inside, rfl⟩ := List.getElem?_eq_some_iff.mp here
    obtain ⟨inside', rfl⟩ := List.getElem?_eq_some_iff.mp there
    exact ⟨inside, inside', fun same => different (congrArg Fin.val same), linked⟩
  · rintro ⟨inside, inside', different, linked⟩
    refine ⟨fun same => different (Fin.ext same), window[i], window[j], ?_, ?_, linked⟩
    · exact List.getElem?_eq_getElem inside
    · exact List.getElem?_eq_getElem inside'

/-- The labels that the search collects are the reasons of the links, each pair of positions
being asked with the smaller one first.
-/
theorem mem_labels {C : (settings.linkGraph lower window).ConnectedComponent}
    {found : List Nat × List String}
    (holds : Search.FoundComponent (adjacency (settings.linkedPairs lower window)) C found)
    (reason : String)
    : reason ∈ found.2
      ↔ ∃ i ∈ C.supp, ∃ j ∈ C.supp,
          i < j ∧ settings.areEventsLinked lower window[i] window[j] = some reason := by
  have edge {i j : Fin window.length} (below : i < j)
      (linked : settings.areEventsLinked lower window[i] window[j] = some reason)
      : (settings.linkGraph lower window).Adj i j :=
    ⟨ne_of_lt below, Option.isSome_of_eq_some linked⟩
  rw [holds.labels]
  simp only [mem_adjacency, mem_linkedPairs]
  constructor
  · rintro ⟨i, inC, w, ⟨below, _, _, here, there, linked⟩ | ⟨below, _, _, here, there, linked⟩⟩
    · obtain ⟨_, rfl⟩ := List.getElem?_eq_some_iff.mp here
      obtain ⟨bound, rfl⟩ := List.getElem?_eq_some_iff.mp there
      lift w to Fin window.length using bound
      exact ⟨i, inC, w, C.mem_supp_of_adj_mem_supp inC (edge below linked), below, linked⟩
    · obtain ⟨bound, rfl⟩ := List.getElem?_eq_some_iff.mp here
      obtain ⟨_, rfl⟩ := List.getElem?_eq_some_iff.mp there
      lift w to Fin window.length using bound
      exact ⟨w, C.mem_supp_of_adj_mem_supp inC (edge below linked).symm, i, inC, below, linked⟩
  · rintro ⟨i, inC, j, _, below, linked⟩
    refine ⟨i, inC, j, Or.inl ⟨below, window[i], window[j], ?_, ?_, linked⟩⟩
    · exact List.getElem?_eq_getElem i.isLt
    · exact List.getElem?_eq_getElem j.isLt

/-- The cluster of what the search found for a component describes that component. -/
theorem cluster_describes {C : (settings.linkGraph lower window).ConnectedComponent}
    {found : List Nat × List String}
    (holds : Search.FoundComponent (adjacency (settings.linkedPairs lower window)) C found)
    (tenantId : String) (number : Nat)
    : Describes settings lower C (cluster tenantId window found.1 found.2 number) := by
  classical
  obtain ⟨positions, nodup, support, queue⟩ := holds.vertices
  -- The indices found are the positions of the window in the component
  have transactions
      : found.1.filterMap (window[·]?) = positions.map (window[·]) := by
    rw [queue, List.filterMap_map, ← List.filterMap_eq_map]
    exact List.filterMap_congr (fun i _ => List.getElem?_eq_getElem i.isLt)
  have member (e : TransactionEvent)
      : e ∈ found.1.filterMap (window[·]?) ↔ ∃ i ∈ C.supp, window[i] = e := by
    simp only [transactions, List.mem_map, support]
  have filled : found.1.filterMap (window[·]?) ≠ [] := by
    obtain ⟨i, inC⟩ := C.nonempty_supp
    exact List.ne_nil_of_mem ((member _).mpr ⟨i, inC, rfl⟩)
  have custodians
      : ListsSet (cluster tenantId window found.1 found.2 number).custodiansInvolved
          {c | ∃ i ∈ C.supp, window[i].custodianId = c} := by
    apply sortedSet_lists
    intro custodian
    simp only [List.mem_map, member, exists_exists_and_eq_and, Set.mem_ofPred_eq]
  obtain ⟨⟨first, isFirst, start⟩, last, isLast, finish⟩ := exists_ends filled
  exact {
    transactions := ⟨positions, nodup, support, transactions⟩
    total := by
      have same : positions.toFinset = Finset.univ.filter (· ∈ C.supp) := by
        ext i
        simp only [List.mem_toFinset, support, Finset.mem_filter, Finset.mem_univ, true_and]
      rw [← same, List.sum_toFinset _ nodup]
      simp only [cluster, totalScaled, transactions, List.map_map]
      rfl
    custodians
    merchants := by
      apply sortedSet_lists
      intro merchant
      simp only [List.mem_filter, List.mem_filterMap (f := TransactionEvent.merchantId), member,
        exists_exists_and_eq_and, decide_eq_true_eq, Set.mem_ofPred_eq]
      exact and_comm
    windowStart := by
      obtain ⟨i, inC, rfl⟩ := (member first).mp isFirst
      refine ⟨⟨i, inC, start⟩, ?_⟩
      rintro _ ⟨j, inside, rfl⟩
      exact earliest_le ((member _).mpr ⟨j, inside, rfl⟩)
    windowEnd := by
      obtain ⟨i, inC, rfl⟩ := (member last).mp isLast
      refine ⟨⟨i, inC, finish⟩, ?_⟩
      rintro _ ⟨j, inside, rfl⟩
      exact le_latest ((member _).mpr ⟨j, inside, rfl⟩)
    linkReasons := sortedSet_lists (mem_labels holds)
    smurfing := by
      refine decide_eq_true_iff.trans (custodians.one_lt_length.trans ?_)
      simp only [Set.mem_ofPred_eq, exists_exists_and_eq_and]
  }

/-- Distinct components hold different events. An event that is recorded twice is linked to
itself, unless the window is too short for any link; but then no component has two events.
-/
theorem Describes.disjoint {C D : (settings.linkGraph lower window).ConnectedComponent}
    {first second : TransactionCluster} (describes : Describes settings lower C first)
    (describes' : Describes settings lower D second) (different : C ≠ D)
    (several : 2 ≤ C.supp.ncard)
    : first.transactions.Disjoint second.transactions := by
  intro e inFirst inSecond
  obtain ⟨positions, _, support, transactions⟩ := describes.transactions
  obtain ⟨positions', _, support', transactions'⟩ := describes'.transactions
  rw [transactions] at inFirst
  rw [transactions'] at inSecond
  obtain ⟨i, listed, here⟩ := List.mem_map.mp inFirst
  obtain ⟨j, listed', there⟩ := List.mem_map.mp inSecond
  have inC := (support i).mp listed
  have inD := (support' j).mp listed'
  apply different
  by_cases same : i = j
  · subst same
    exact SimpleGraph.ConnectedComponent.eq_of_common_vertex inC inD
  · have wide : 0 ≤ settings.windowMicros := by
      -- A path between two positions begins with a link
      obtain ⟨a, b, aIn, bIn, other⟩ := (Set.one_lt_ncard_iff (Set.toFinite _)).mp several
      have path := C.reachable_of_mem_supp aIn bIn
      rw [SimpleGraph.reachable_iff_reflTransGen] at path
      obtain rfl | ⟨_, edge, _⟩ := path.cases_head
      · exact absurd rfl other
      · exact (abs_nonneg _).trans (linked_iff.mp edge.2).1
    have linked : settings.Linked lower window[i] window[j] := by
      rw [linked_iff, here.trans there.symm, sub_self, abs_zero]
      exact ⟨wide, Or.inl rfl⟩
    exact SimpleGraph.ConnectedComponent.eq_of_common_vertex
      (C.mem_supp_of_adj_mem_supp inC ⟨same, linked⟩) inD

/-- The clusters of a window are its components with enough events. -/
theorem clusters_describe (settings : DetectorSettings) (lower : String → String)
    (tenantId : String) (window : List TransactionEvent) (several : 2 ≤ settings.minTxCount)
    : ∃ components : List (settings.linkGraph lower window).ConnectedComponent,
        components.Nodup
        ∧ (∀ C, C ∈ components ↔ settings.minTxCount ≤ C.supp.ncard)
        ∧ List.Forall₂ (Describes settings lower) components
            (settings.clusters lower tenantId window) := by
  unfold clusters
  by_cases short : window.length < 2
  · rw [if_pos short]
    refine ⟨[], List.nodup_nil, fun C => ?_, .nil⟩
    have bound : C.supp.ncard ≤ window.length := by
      simpa using Set.ncard_le_card C.supp
    refine iff_of_false List.not_mem_nil (by omega)
  · rw [if_neg short]
    obtain ⟨all, matching, nodup, complete⟩ :=
      Search.components_graph (@linkGraph_edges settings lower window)
    refine ⟨all.filter (fun C => settings.minTxCount ≤ C.supp.ncard), nodup.filter _, ?_, ?_⟩
    · intro C
      rw [List.mem_filter, decide_eq_true_eq]
      exact and_iff_right (complete C)
    · have large
          : List.Forall₂ (Search.FoundComponent (adjacency (settings.linkedPairs lower window)))
              (all.filter (fun C => settings.minTxCount ≤ C.supp.ncard))
              ((Search.components (adjacency (settings.linkedPairs lower window))
                  (List.range window.length)).filter
                (fun found => settings.minTxCount ≤ found.1.length)) := by
        apply List.rel_filter _ matching
        intro C found holds
        simp only [decide_eq_true_eq, holds.length_eq]
      rw [List.forall₂_map_right_iff]
      -- Clusters are numbered once the small components are left out
      exact (Matching.zipIdx large 0).imp
        (fun C numbered holds => cluster_describes holds tenantId (numbered.2 + 1))

end Components

end DetectorSettings

/-- Without a time to read the window at, the clusters of any state are the components of the
link graph with enough events, in some order, each once. No event is in two of them.
-/
theorem getClusters_components (s : SplitTransactionDetector) (lower : String → String)
    (tenantId : String) (several : 2 ≤ s.settings.minTxCount)
    : let graph := s.settings.linkGraph lower (s.tenantWindows.getD tenantId [])
      ∃ clusters : List TransactionCluster,
        (s.getClusters lower tenantId none).1 = .ok clusters
        ∧ (∃ components : List graph.ConnectedComponent,
            components.Nodup
            ∧ (∀ C, C ∈ components ↔ s.settings.minTxCount ≤ C.supp.ncard)
            ∧ List.Forall₂ (s.settings.Describes lower) components clusters)
        ∧ clusters.Pairwise (fun first second =>
            first.transactions.Disjoint second.transactions) := by
  intro graph
  obtain ⟨components, nodup, enough, describes⟩ :=
    DetectorSettings.clusters_describe s.settings lower tenantId
      (s.tenantWindows.getD tenantId []) several
  refine ⟨_, ?_, ⟨components, nodup, enough, describes⟩, ?_⟩
  · unfold SplitTransactionDetector.getClusters
    dsimp only
    split
    · rename_i none_
      rw [none_]
      rfl
    · rfl
  · have sized : components.Pairwise (fun C D => C ≠ D ∧ 2 ≤ C.supp.ncard) := by
      apply List.Pairwise.imp_of_mem _ nodup
      intro C D inC _ different
      have large := (enough C).mp inC
      exact ⟨different, by omega⟩
    exact Matching.pairwise describes sized
      (fun apart first second => first.disjoint second apart.1 apart.2)

section Sample

/-- Three payments at one shop in three days, by two custodians: the first and the last are only
linked through the one between them.
-/
def chainedPayments : SplitTransactionDetector := {
  settings := defaultSettings
  windows := .empty
  tenantWindows :=
    .set .empty "A" [payment "T1" "A" "c1" 0, payment "T2" "A" "c2" 40, payment "T3" "A" "c1" 80]
}

theorem getClusters_components_sample
    : let graph :=
        defaultSettings.linkGraph String.toLower (chainedPayments.tenantWindows.getD "A" [])
      ∃ clusters : List TransactionCluster,
        (chainedPayments.getClusters String.toLower "A" none).1 = .ok clusters
        ∧ (∃ components : List graph.ConnectedComponent,
            components.Nodup
            ∧ (∀ C, C ∈ components ↔ defaultSettings.minTxCount ≤ C.supp.ncard)
            ∧ List.Forall₂ (defaultSettings.Describes String.toLower) components clusters)
        ∧ clusters.Pairwise (fun first second =>
            first.transactions.Disjoint second.transactions) :=
  getClusters_components chainedPayments String.toLower "A" (by decide)

end Sample

end PettyFlow.Fraud
