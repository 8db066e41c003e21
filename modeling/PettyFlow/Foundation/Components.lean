import Mathlib

/-! Connected components of a graph by breadth-first search. The queue of a search is read
while it grows; what it holds in the end is one component. Edges carry labels, which a search
collects on its way.
-/

namespace Foundation

/-- An edge leads from one vertex to the other. -/
def Adjacent {κ β : Type} (adj : κ → List (κ × β)) (v w : κ) : Prop := ∃ label, (w, label) ∈ adj v

/-- The edges of some vertices lead both ways, and to no other vertices. -/
structure Undirected {κ β : Type} (adj : κ → List (κ × β)) (vertices : List κ) : Prop where
  inside : ∀ v ∈ vertices, ∀ w, Adjacent adj v w → w ∈ vertices
  symm : ∀ v ∈ vertices, ∀ w, Adjacent adj v w → Adjacent adj w v

/-- A path of edges leads from one vertex to the other. -/
abbrev Reaches {κ β : Type} (adj : κ → List (κ × β)) : κ → κ → Prop :=
  Relation.ReflTransGen (Adjacent adj)

section Reaching

variable {κ β : Type} {adj : κ → List (κ × β)} {vertices : List κ} {v w : κ}

theorem Undirected.reaches_mem (undirected : Undirected adj vertices) (member : v ∈ vertices)
    (reaches : Reaches adj v w)
    : w ∈ vertices := by
  induction reaches with
  | refl => exact member
  | tail _ edge ih => exact undirected.inside _ ih _ edge

/-- A path can be walked back, edge by edge. -/
theorem Undirected.reaches_symm (undirected : Undirected adj vertices) (member : v ∈ vertices)
    (reaches : Reaches adj v w)
    : Reaches adj w v := by
  induction reaches with
  | refl => exact .refl
  | tail path edge ih =>
      have there := undirected.reaches_mem member path
      exact .head (undirected.symm _ there _ edge) ih

/-- Vertices whose edges lead to themselves only reach no others. -/
theorem closed_reaches {old : List κ}
    (closed : ∀ v ∈ old, ∀ w, Adjacent adj v w → w ∈ old) (member : v ∈ old)
    (reaches : Reaches adj v w)
    : w ∈ old := by
  induction reaches with
  | refl => exact member
  | tail _ edge ih => exact closed _ ih _ edge

end Reaching

/-- A search in progress: the queue, all visited vertices, and the labels seen. -/
structure Search (κ β : Type) where
  queue : List κ
  visited : List κ
  labels : List β

namespace Search

variable {κ β : Type} [DecidableEq κ] [DecidableEq β]

/-- Look along an edge, and queue its end if that was not visited before. -/
def visit (s : Search κ β) (edge : κ × β) : Search κ β :=
  let labels := if edge.2 ∈ s.labels then s.labels else s.labels ++ [edge.2]
  if edge.1 ∈ s.visited then
    { s with labels }
  else
    ⟨s.queue ++ [edge.1], s.visited ++ [edge.1], labels⟩

/-- Expand the queued vertices from a position on, those included that are queued meanwhile. -/
def run (adj : κ → List (κ × β)) : Nat → Nat → Search κ β → Search κ β
  | 0, _, s => s
  | fuel + 1, position, s =>
      match s.queue[position]? with
      | none => s
      | some current => run adj fuel (position + 1) ((adj current).foldl visit s)

/-- The components of the vertices that were not visited before, in the order of the vertices. -/
def componentsFrom (adj : κ → List (κ × β)) (fuel : Nat)
    : List κ → List κ → List (List κ × List β)
  | [], _ => []
  | vertex :: rest, visited =>
      if vertex ∈ visited then
        componentsFrom adj fuel rest visited
      else
        let s := run adj fuel 0 ⟨[vertex], visited ++ [vertex], []⟩
        (s.queue, s.labels) :: componentsFrom adj fuel rest s.visited

/-- All components, each with the labels of its edges. No queue is longer than the vertices. -/
def components (adj : κ → List (κ × β)) (vertices : List κ) : List (List κ × List β) :=
  componentsFrom adj vertices.length vertices []

/-- What a search keeps: the queue lists vertices that the start reaches, each one once and
none of an older component, and the vertices before the position are expanded.
-/
structure Sound (adj : κ → List (κ × β)) (old : List κ) (start : κ) (position : Nat)
    (s : Search κ β)
    : Prop where
  nodup : s.queue.Nodup
  started : start ∈ s.queue
  visited : ∀ v, v ∈ s.visited ↔ v ∈ old ∨ v ∈ s.queue
  reached : ∀ v ∈ s.queue, Reaches adj start v
  expanded : ∀ v ∈ s.queue.take position, ∀ w, Adjacent adj v w → w ∈ s.visited

section Searching

variable {adj : κ → List (κ × β)} {vertices old : List κ} {start : κ} {position : Nat}
  {s : Search κ β}

/-- Looking along an edge only adds to the queue and to what was visited. -/
theorem visit_grows (s : Search κ β) (edge : κ × β)
    : s.queue <+: (s.visit edge).queue ∧ s.visited ⊆ (s.visit edge).visited
      ∧ edge.1 ∈ (s.visit edge).visited := by
  unfold visit
  dsimp only
  split
  · rename_i seen
    exact ⟨List.prefix_rfl, List.Subset.refl _, seen⟩
  · exact ⟨List.prefix_append _ _, List.subset_append_left _ _, by simp⟩

/-- The search stays sound along an edge from a vertex that the start reaches. -/
theorem Sound.visit (sound : Sound adj old start position s) (inQueue : position ≤ s.queue.length)
    {edge : κ × β} (reaches : Reaches adj start edge.1)
    : Sound adj old start position (s.visit edge) := by
  obtain ⟨grown, more, _⟩ := visit_grows s edge
  have same : (s.visit edge).queue.take position = s.queue.take position := by
    obtain ⟨added, whole⟩ := grown
    rw [← whole, List.take_append_of_le_length inQueue]
  have expanded
      : ∀ v ∈ (s.visit edge).queue.take position, ∀ w, Adjacent adj v w →
          w ∈ (s.visit edge).visited := by
    intro v member w edge
    rw [same] at member
    exact more (sound.expanded v member w edge)
  -- A vertex that was seen before adds nothing but its label
  by_cases seen : edge.1 ∈ s.visited
  · have kept : (s.visit edge).queue = s.queue ∧ (s.visit edge).visited = s.visited := by
      simp [Search.visit, seen]
    exact {
      nodup := kept.1 ▸ sound.nodup
      started := kept.1 ▸ sound.started
      visited := by rw [kept.1, kept.2]; exact sound.visited
      reached := by rw [kept.1]; exact sound.reached
      expanded
    }
  · have added
        : (s.visit edge).queue = s.queue ++ [edge.1]
          ∧ (s.visit edge).visited = s.visited ++ [edge.1] := by
      simp [Search.visit, seen]
    have fresh : edge.1 ∉ s.queue := fun queued => seen ((sound.visited _).mpr (Or.inr queued))
    exact {
      nodup := by
        rw [added.1]
        exact List.nodup_append.mpr ⟨sound.nodup, List.nodup_singleton _, by
          rintro v queued w new rfl
          exact fresh (List.mem_singleton.mp new ▸ queued)⟩
      started := by rw [added.1]; exact List.mem_append_left _ sound.started
      visited := by
        intro v
        rw [added.1, added.2, List.mem_append, List.mem_append, sound.visited, or_assoc]
      reached := by
        rw [added.1]
        intro v member
        rcases List.mem_append.mp member with queued | new
        · exact sound.reached v queued
        · rw [List.mem_singleton.mp new]
          exact reaches
      expanded
    }

/-- Expanding a vertex looks along all its edges, by induction over them. -/
theorem Sound.visitAll {edges : List (κ × β)} (sound : Sound adj old start position s)
    (inQueue : position ≤ s.queue.length) (reaches : ∀ edge ∈ edges, Reaches adj start edge.1)
    : Sound adj old start position (edges.foldl Search.visit s)
      ∧ s.queue <+: (edges.foldl Search.visit s).queue
      ∧ s.visited ⊆ (edges.foldl Search.visit s).visited
      ∧ ∀ edge ∈ edges, edge.1 ∈ (edges.foldl Search.visit s).visited := by
  induction edges generalizing s with
  | nil => exact ⟨sound, List.prefix_rfl, List.Subset.refl _, by simp⟩
  | cons edge rest ih =>
      obtain ⟨grown, more, seen⟩ := visit_grows s edge
      have next := sound.visit inQueue (reaches edge List.mem_cons_self)
      obtain ⟨last, grownRest, moreRest, seenRest⟩ :=
        ih next (inQueue.trans grown.length_le)
          (fun edge member => reaches edge (List.mem_cons_of_mem _ member))
      refine ⟨last, grown.trans grownRest, fun v member => moreRest (more member), ?_⟩
      intro other member
      rcases List.mem_cons.mp member with rfl | later
      · exact moreRest seen
      · exact seenRest other later

omit [DecidableEq κ] [DecidableEq β] in
/-- A queue is no longer than the vertices, all of which it lists at most once. -/
theorem Sound.length_le (sound : Sound adj old start position s)
    (undirected : Undirected adj vertices) (member : start ∈ vertices)
    : s.queue.length ≤ vertices.length := by
  apply (sound.nodup.subperm _).length_le
  intro v queued
  exact undirected.reaches_mem member (sound.reached v queued)

/-- A round looks along all edges of the vertex at the position, and moves past it. -/
theorem Sound.expand (sound : Sound adj old start position s) {current : κ}
    (next : s.queue[position]? = some current)
    : Sound adj old start (position + 1) ((adj current).foldl Search.visit s)
      ∧ ((adj current).foldl Search.visit s).queue.take (position + 1)
        = s.queue.take position ++ [current] := by
  obtain ⟨inside, isCurrent⟩ := List.getElem?_eq_some_iff.mp next
  have queued : current ∈ s.queue := isCurrent ▸ List.getElem_mem inside
  have reaches : ∀ edge ∈ adj current, Reaches adj start edge.1 :=
    fun edge listed => (sound.reached current queued).tail ⟨edge.2, listed⟩
  obtain ⟨expanded, grown, more, seen⟩ := sound.visitAll (le_of_lt inside) reaches
  have split
      : ((adj current).foldl Search.visit s).queue.take (position + 1)
        = s.queue.take position ++ [current] := by
    obtain ⟨added, whole⟩ := grown
    rw [← whole, List.take_append_of_le_length (by omega),
      List.take_succ_eq_append_getElem inside, isCurrent]
  refine ⟨{ expanded with expanded := ?_ }, split⟩
  intro v taken w edge
  rw [split] at taken
  rcases List.mem_append.mp taken with before | new
  · exact more (sound.expanded v before w edge)
  · obtain rfl := List.mem_singleton.mp new
    obtain ⟨label, listed⟩ := edge
    exact seen (w, label) listed

/-- With fuel for the rest of the queue a search expands every vertex it queues. By induction on
the fuel; each round moves the position by one.
-/
theorem Sound.run (undirected : Undirected adj vertices) (member : start ∈ vertices) {fuel : Nat}
    (sound : Sound adj old start position s) (enough : vertices.length ≤ fuel + position)
    : ∃ last,
        Sound adj old start last (Search.run adj fuel position s)
        ∧ (Search.run adj fuel position s).queue.length ≤ last := by
  induction fuel generalizing position s with
  | zero =>
      have bound := sound.length_le undirected member
      exact ⟨position, sound, by simp only [Search.run]; omega⟩
  | succ fuel ih =>
      unfold Search.run
      cases next : s.queue[position]? with
      | none => exact ⟨position, sound, List.getElem?_eq_none_iff.mp next⟩
      | some current => exact ih (sound.expand next).1 (by omega)

/-- The labels seen are those on the edges of the expanded vertices. -/
def Labelled (adj : κ → List (κ × β)) (position : Nat) (s : Search κ β) : Prop :=
  ∀ label, label ∈ s.labels ↔ ∃ v ∈ s.queue.take position, ∃ w, (w, label) ∈ adj v

theorem foldl_visit_labels (edges : List (κ × β)) (s : Search κ β) (label : β)
    : label ∈ (edges.foldl visit s).labels
      ↔ label ∈ s.labels ∨ ∃ edge ∈ edges, edge.2 = label := by
  induction edges generalizing s with
  | nil => simp
  | cons edge rest ih =>
      have here : label ∈ (s.visit edge).labels ↔ label ∈ s.labels ∨ edge.2 = label := by
        have listed : (s.visit edge).labels
            = if edge.2 ∈ s.labels then s.labels else s.labels ++ [edge.2] := by
          unfold visit
          dsimp only
          split <;> rfl
        rw [listed]
        by_cases known : edge.2 ∈ s.labels
        · rw [if_pos known]
          refine ⟨Or.inl, fun either => either.elim id ?_⟩
          rintro rfl
          exact known
        · rw [if_neg known, List.mem_append, List.mem_singleton, eq_comm (a := label)]
      rw [List.foldl_cons, ih, here, List.exists_mem_cons_iff, or_assoc]

/-- A search with enough fuel has seen the labels of all edges of its component. -/
theorem Sound.run_labels (undirected : Undirected adj vertices) (member : start ∈ vertices)
    {fuel : Nat} (sound : Sound adj old start position s)
    (enough : vertices.length ≤ fuel + position) (labelled : Labelled adj position s) (label : β)
    : label ∈ (Search.run adj fuel position s).labels
      ↔ ∃ v ∈ (Search.run adj fuel position s).queue, ∃ w, (w, label) ∈ adj v := by
  induction fuel generalizing position s with
  | zero =>
      have bound := sound.length_le undirected member
      have whole : s.queue.take position = s.queue := List.take_of_length_le (by omega)
      rw [Search.run, labelled, whole]
  | succ fuel ih =>
      unfold Search.run
      cases next : s.queue[position]? with
      | none =>
          have whole : s.queue.take position = s.queue :=
            List.take_of_length_le (List.getElem?_eq_none_iff.mp next)
          dsimp only
          rw [labelled, whole]
      | some current =>
          obtain ⟨soundNext, taken⟩ := sound.expand next
          apply ih soundNext (by omega)
          intro label
          rw [foldl_visit_labels, labelled, taken]
          simp [or_and_right, exists_or]

/-- A search from a new vertex queues what that vertex reaches, with the labels of all its edges,
and visits nothing else.
-/
theorem run_component (undirected : Undirected adj vertices) (member : start ∈ vertices)
    (closed : ∀ v ∈ old, ∀ w, Adjacent adj v w → w ∈ old) (new : start ∉ old)
    : let s := Search.run adj vertices.length 0 ⟨[start], old ++ [start], []⟩
      s.queue.Nodup
      ∧ (∀ v, v ∈ s.queue ↔ Reaches adj start v)
      ∧ (∀ v, v ∈ s.visited ↔ v ∈ old ∨ v ∈ s.queue)
      ∧ ∀ label, label ∈ s.labels ↔ ∃ v ∈ s.queue, ∃ w, (w, label) ∈ adj v := by
  have opening : Sound adj old start 0 ⟨[start], old ++ [start], []⟩ := {
    nodup := List.nodup_singleton start
    started := List.mem_singleton_self start
    visited := fun v => List.mem_append
    reached := fun v queued => List.mem_singleton.mp queued ▸ .refl
    expanded := fun v taken => by simp at taken
  }
  obtain ⟨last, sound, whole⟩ := opening.run undirected member le_rfl
  intro s
  refine ⟨sound.nodup, fun v => ⟨sound.reached v, fun reaches => ?_⟩, sound.visited, ?_⟩
  · induction reaches with
    | refl => exact sound.started
    | @tail v w path edge ih =>
        have expanded : v ∈ s.queue.take last := by rwa [List.take_of_length_le whole]
        rcases (sound.visited w).mp (sound.expanded v expanded w edge) with older | queued
        · -- An older component would have to reach back to the start
          have back := undirected.reaches_symm member (path.tail edge)
          exact absurd (closed_reaches closed older back) new
        · exact queued
  · exact opening.run_labels undirected member le_rfl (fun label => by simp)

/-- What is found lists all that one of the pending vertices reaches, each vertex once and none
of an older component, with the labels of all edges among them.
-/
structure Found (adj : κ → List (κ × β)) (old pending : List κ) (found : List κ × List β) : Prop
    where
  nodup : found.1.Nodup
  started : ∃ v ∈ pending, ∀ w, w ∈ found.1 ↔ Reaches adj v w
  new : ∀ v ∈ found.1, v ∉ old
  labels : ∀ label, label ∈ found.2 ↔ ∃ v ∈ found.1, ∃ w, (w, label) ∈ adj v

omit [DecidableEq κ] [DecidableEq β] in
theorem Found.mono {pending more older : List κ} {found : List κ × List β}
    (holds : Found adj old pending found) (subset : pending ⊆ more) (fewer : older ⊆ old)
    : Found adj older more found := by
  obtain ⟨v, member, same⟩ := holds.started
  exact {
    holds with
    started := ⟨v, subset member, same⟩
    new := fun w inside older => holds.new w inside (fewer older)
  }

/-- What the search over a list of vertices finds, given that whole components were visited
before. By induction over the list.
-/
theorem componentsFrom_spec (undirected : Undirected adj vertices) {pending : List κ}
    (listed : ∀ v ∈ pending, v ∈ vertices)
    (closed : ∀ v ∈ old, ∀ w, Adjacent adj v w → w ∈ old)
    : let found := componentsFrom adj vertices.length pending old
      (∀ component ∈ found, Found adj old pending component)
      ∧ (∀ v ∈ pending, v ∈ old ∨ ∃ component ∈ found, v ∈ component.1)
      ∧ found.Pairwise (fun first second => first.1.Disjoint second.1) := by
  induction pending generalizing old with
  | nil => exact ⟨by simp [componentsFrom], by simp, .nil⟩
  | cons vertex rest ih =>
      have listedRest : ∀ v ∈ rest, v ∈ vertices :=
        fun v member => listed v (List.mem_cons_of_mem _ member)
      unfold componentsFrom
      by_cases seen : vertex ∈ old
      · rw [if_pos seen]
        obtain ⟨sound, complete, apart⟩ := ih listedRest closed
        refine ⟨fun component member => ?_, fun v member => ?_, apart⟩
        · exact (sound component member).mono (List.subset_cons_self _ _) (List.Subset.refl _)
        · rcases List.mem_cons.mp member with rfl | later
          · exact Or.inl seen
          · exact complete v later
      · rw [if_neg seen]
        have member := listed vertex List.mem_cons_self
        obtain ⟨nodup, same, visited, labels⟩ := run_component undirected member closed seen
        dsimp only
        generalize Search.run adj vertices.length 0 ⟨[vertex], old ++ [vertex], []⟩ = s
          at nodup same visited labels
        -- What is visited stays closed: the older part was, and the new one is a whole component
        have closedNext : ∀ v ∈ s.visited, ∀ w, Adjacent adj v w → w ∈ s.visited := by
          intro v inVisited w edge
          rcases (visited v).mp inVisited with older | queued
          · exact (visited w).mpr (Or.inl (closed v older w edge))
          · exact (visited w).mpr (Or.inr ((same w).mpr (((same v).mp queued).tail edge)))
        -- Whatever is reached leads back, so it cannot lie in the closed older part
        have new : ∀ v ∈ s.queue, v ∉ old := by
          intro v queued older
          have back := undirected.reaches_symm member ((same v).mp queued)
          exact seen (closed_reaches closed older back)
        have older : old ⊆ s.visited := fun v known => (visited v).mpr (Or.inl known)
        obtain ⟨sound, complete, apart⟩ := ih listedRest closedNext
        refine ⟨?_, ?_, List.pairwise_cons.mpr ⟨?_, apart⟩⟩
        · intro component inList
          rcases List.mem_cons.mp inList with rfl | later
          · exact ⟨nodup, ⟨vertex, List.mem_cons_self, same⟩, new, labels⟩
          · exact (sound component later).mono (List.subset_cons_self _ _) older
        · intro v inList
          rcases List.mem_cons.mp inList with rfl | later
          · exact Or.inr ⟨_, List.mem_cons_self, (same v).mpr .refl⟩
          · rcases complete v later with inVisited | ⟨component, inRest, holds⟩
            · rcases (visited v).mp inVisited with older | queued
              · exact Or.inl older
              · exact Or.inr ⟨_, List.mem_cons_self, queued⟩
            · exact Or.inr ⟨component, List.mem_cons_of_mem _ inRest, holds⟩
        · intro component later v queued inside
          exact (sound component later).new v inside ((visited v).mpr (Or.inr queued))

/-- What the search over all vertices finds. -/
theorem components_spec (undirected : Undirected adj vertices)
    : (∀ found ∈ components adj vertices, Found adj [] vertices found)
      ∧ (∀ v ∈ vertices, ∃ found ∈ components adj vertices, v ∈ found.1)
      ∧ (components adj vertices).Pairwise (fun first second => first.1.Disjoint second.1) := by
  obtain ⟨sound, complete, apart⟩ :=
    componentsFrom_spec undirected (fun _ member => member)
      (fun v (older : v ∈ []) => nomatch older)
  exact ⟨sound, fun v member => (complete v member).resolve_left List.not_mem_nil, apart⟩

/-- A component that is found lists what each of its vertices reaches, each vertex once. -/
theorem mem_components (undirected : Undirected adj vertices) {found : List κ × List β}
    (listed : found ∈ components adj vertices) {v : κ} (member : v ∈ found.1)
    : found.1.Nodup ∧ v ∈ vertices ∧ ∀ w, w ∈ found.1 ↔ Reaches adj v w := by
  have holds := (components_spec undirected).1 found listed
  obtain ⟨start, inside, same⟩ := holds.started
  have there := (same v).mp member
  refine ⟨holds.nodup, undirected.reaches_mem inside there, fun w => ?_⟩
  rw [same]
  constructor
  · intro reaches
    exact (undirected.reaches_symm inside there).trans reaches
  · intro reaches
    exact there.trans reaches

/-- Every vertex lies in a component that is found. -/
theorem exists_component (undirected : Undirected adj vertices) {v : κ} (member : v ∈ vertices)
    : ∃ found ∈ components adj vertices, v ∈ found.1 :=
  (components_spec undirected).2.1 v member

end Searching

section Graphs

variable {β : Type} [DecidableEq β] {adj : Nat → List (Nat × β)} {n : Nat}
  {G : SimpleGraph (Fin n)}

/-- What is found lists the vertices of the component, each one once, and the labels of all edges
among them.
-/
structure FoundComponent (adj : Nat → List (Nat × β)) (C : G.ConnectedComponent)
    (found : List Nat × List β)
    : Prop where
  vertices
    : ∃ vertices : List (Fin n),
        vertices.Nodup ∧ (∀ v, v ∈ vertices ↔ v ∈ C.supp) ∧ found.1 = vertices.map Fin.val
  labels : ∀ label, label ∈ found.2 ↔ ∃ v ∈ C.supp, ∃ w, (w, label) ∈ adj v.val

/-- The edges are those of a graph on the first numbers. -/
def EdgesOf (G : SimpleGraph (Fin n)) (adj : Nat → List (Nat × β)) : Prop :=
  ∀ v w, Adjacent adj v w ↔ ∃ (inV : v < n) (inW : w < n), G.Adj ⟨v, inV⟩ ⟨w, inW⟩

omit [DecidableEq β] in
theorem EdgesOf.undirected (edges : EdgesOf G adj) : Undirected adj (List.range n) := by
  constructor
  · intro v _ w adjacent
    obtain ⟨_, inW, _⟩ := (edges v w).mp adjacent
    exact List.mem_range.mpr inW
  · intro v _ w adjacent
    obtain ⟨inV, inW, edge⟩ := (edges v w).mp adjacent
    exact (edges w v).mpr ⟨inW, inV, edge.symm⟩

omit [DecidableEq β] in
/-- A path in the lists of edges is a path in the graph; both only visit its vertices. -/
theorem EdgesOf.reaches_iff (edges : EdgesOf G adj) (v w : Fin n)
    : Reaches adj v w ↔ G.Reachable v w := by
  rw [SimpleGraph.reachable_iff_reflTransGen]
  constructor
  · intro reaches
    obtain ⟨target, bound⟩ := w
    change Reaches adj v target at reaches
    induction reaches with
    | refl => exact .refl
    | tail _ edge ih =>
        obtain ⟨inside, _, adjacent⟩ := (edges _ _).mp edge
        exact (ih inside).tail adjacent
  · intro path
    exact path.lift Fin.val (fun a b edge => (edges a b).mpr ⟨a.isLt, b.isLt, edge⟩)

omit [DecidableEq β] in
theorem FoundComponent.length_eq {C : G.ConnectedComponent} {found : List Nat × List β}
    (holds : FoundComponent adj C found)
    : found.1.length = C.supp.ncard := by
  obtain ⟨vertices, nodup, same, queue⟩ := holds.vertices
  have support : C.supp = (vertices.toFinset : Set (Fin n)) := by
    ext v
    rw [Finset.mem_coe, List.mem_toFinset, same]
  rw [support, Set.ncard_coe_finset, List.toFinset_card_of_nodup nodup, queue, List.length_map]

omit [DecidableEq β] in
theorem FoundComponent.mem_iff {C : G.ConnectedComponent} {found : List Nat × List β}
    (holds : FoundComponent adj C found) (v : Fin n)
    : v.val ∈ found.1 ↔ v ∈ C.supp := by
  obtain ⟨vertices, _, same, queue⟩ := holds.vertices
  rw [queue, List.mem_map_of_injective Fin.val_injective, same]

omit [DecidableEq β] in
/-- What is found from a vertex is the component of that vertex. -/
theorem Found.component (edges : EdgesOf G adj) {found : List Nat × List β}
    (holds : Found adj [] (List.range n) found)
    : ∃ C : G.ConnectedComponent, FoundComponent adj C found := by
  obtain ⟨start, inRange, same⟩ := holds.started
  have inside : ∀ v ∈ found.1, v < n := fun v queued =>
    List.mem_range.mp (edges.undirected.reaches_mem inRange ((same v).mp queued))
  have nodup := holds.nodup
  have labels := holds.labels
  obtain ⟨queue, seen⟩ := found
  lift queue to List (Fin n) using inside
  lift start to Fin n using List.mem_range.mp inRange
  have support : ∀ v, v ∈ queue ↔ v ∈ (G.connectedComponentMk start).supp := by
    intro v
    rw [← List.mem_map_of_injective Fin.val_injective, same, edges.reaches_iff,
      SimpleGraph.ConnectedComponent.mem_supp_iff, SimpleGraph.ConnectedComponent.eq]
    exact ⟨SimpleGraph.Reachable.symm, SimpleGraph.Reachable.symm⟩
  refine ⟨G.connectedComponentMk start, ⟨queue, nodup.of_map _, support, rfl⟩, fun label => ?_⟩
  simp only [labels, List.mem_map, exists_exists_and_eq_and, support]

omit [DecidableEq β] in
/-- Lists without common vertices are distinct components. -/
theorem exists_foundComponents {found : List (List Nat × List β)}
    (each : ∀ one ∈ found, ∃ C : G.ConnectedComponent, FoundComponent adj C one)
    (apart : found.Pairwise (fun first second => first.1.Disjoint second.1))
    : ∃ components : List G.ConnectedComponent,
        List.Forall₂ (FoundComponent adj) components found
        ∧ components.Nodup
        ∧ ∀ C, C ∈ components ↔ ∃ one ∈ found, FoundComponent adj C one := by
  induction found with
  | nil => exact ⟨[], .nil, List.nodup_nil, by simp⟩
  | cons first rest ih =>
      obtain ⟨disjoint, apartRest⟩ := List.pairwise_cons.mp apart
      obtain ⟨C, holds⟩ := each first List.mem_cons_self
      obtain ⟨components, matching, nodup, all⟩ :=
        ih (fun one later => each one (List.mem_cons_of_mem _ later)) apartRest
      have new : C ∉ components := by
        intro inside
        obtain ⟨other, later, again⟩ := (all C).mp inside
        obtain ⟨v, member⟩ := C.nonempty_supp
        exact disjoint other later ((holds.mem_iff v).mpr member) ((again.mem_iff v).mpr member)
      refine ⟨C :: components, .cons holds matching, List.nodup_cons.mpr ⟨new, nodup⟩, fun D => ?_⟩
      rw [List.mem_cons, all, List.exists_mem_cons_iff]
      refine or_congr_left ⟨fun same => same ▸ holds, fun again => ?_⟩
      -- A component is determined by any of its vertices
      obtain ⟨v, member⟩ := D.nonempty_supp
      have inFirst := (holds.mem_iff v).mp ((again.mem_iff v).mpr member)
      exact SimpleGraph.ConnectedComponent.eq_of_common_vertex member inFirst

/-- The search finds every connected component of the graph, and each one once. -/
theorem components_graph (edges : EdgesOf G adj)
    : ∃ all : List G.ConnectedComponent,
        List.Forall₂ (FoundComponent adj) all (components adj (List.range n))
        ∧ all.Nodup ∧ ∀ C, C ∈ all := by
  obtain ⟨sound, complete, apart⟩ := components_spec edges.undirected
  obtain ⟨all, matching, nodup, member⟩ :=
    exists_foundComponents (fun found listed => (sound found listed).component edges) apart
  refine ⟨all, matching, nodup, fun C => ?_⟩
  obtain ⟨v, inC⟩ := C.nonempty_supp
  obtain ⟨found, listed, queued⟩ := complete v (List.mem_range.mpr v.isLt)
  obtain ⟨D, holds⟩ := (sound found listed).component edges
  obtain rfl := SimpleGraph.ConnectedComponent.eq_of_common_vertex inC ((holds.mem_iff v).mp queued)
  exact (member C).mpr ⟨found, listed, holds⟩

end Graphs

end Search

section Connection

variable {α : Type} {linked : α → α → Prop} {items : List α} {a b : α}

/-- Links lead from one item to the other and stay among the items. -/
def Connected (items : List α) (linked : α → α → Prop) : α → α → Prop :=
  Relation.ReflTransGen (fun a b => b ∈ items ∧ linked a b)

open Classical in
/-- The items that links lead to from one of them. -/
noncomputable def component (items : List α) (linked : α → α → Prop) (start : α) : List α :=
  items.filter (fun item => Connected items linked start item)

theorem mem_component : b ∈ component items linked a ↔ b ∈ items ∧ Connected items linked a b := by
  simp [component]

theorem component_singleton : component [a] linked a = [a] := by
  have connected : Connected [a] linked a a := .refl
  simp [component, connected]

theorem Connected.mem (member : a ∈ items) (connected : Connected items linked a b)
    : b ∈ items := by
  induction connected with
  | refl => exact member
  | tail _ edge _ => exact edge.1

theorem Connected.mono {more : List α} (subset : items ⊆ more)
    (connected : Connected items linked a b)
    : Connected more linked a b := by
  induction connected with
  | refl => exact .refl
  | tail _ edge ih => exact ih.tail ⟨subset edge.1, edge.2⟩

/-- With links both ways a path can be walked back. -/
theorem Connected.symm (symmetric : ∀ a b, linked a b → linked b a) (member : a ∈ items)
    (connected : Connected items linked a b)
    : Connected items linked b a := by
  induction connected with
  | refl => exact .refl
  | tail path edge ih => exact .head ⟨Connected.mem member path, symmetric _ _ edge.2⟩ ih

/-- A path among more items is a path among these if they hold all that it can reach. -/
theorem Connected.restrict {more : List α} (holds : ∀ b, Connected more linked a b → b ∈ items)
    (connected : Connected more linked a b)
    : Connected items linked a b := by
  induction connected with
  | refl => exact .refl
  | tail path edge ih => exact ih.tail ⟨holds _ (path.tail edge), edge.2⟩

/-- Components grow with the items. -/
theorem component_subset {more : List α} (subset : items ⊆ more)
    : component items linked a ⊆ component more linked a := by
  intro b member
  obtain ⟨inside, connected⟩ := mem_component.mp member
  exact mem_component.mpr ⟨subset inside, connected.mono subset⟩

theorem component_nodup (nodup : items.Nodup) : (component items linked a).Nodup :=
  nodup.filter _

/-- With links both ways, all items of a component have the same one. -/
theorem component_eq_of_mem (symmetric : ∀ a b, linked a b → linked b a) (inside : a ∈ items)
    (member : b ∈ component items linked a)
    : component items linked b = component items linked a := by
  have connected := (mem_component.mp member).2
  apply List.filter_congr
  intro c _
  rw [decide_eq_decide]
  constructor
  · exact fun further => connected.trans further
  · exact fun further => (connected.symm symmetric inside).trans further

/-- Fewer items have the same component if they hold it whole. -/
theorem component_perm_of_subset {more : List α} (nodup : items.Nodup) (nodupMore : more.Nodup)
    (inside : a ∈ more) (subset : items ⊆ more) (holds : component more linked a ⊆ items)
    : (component items linked a).Perm (component more linked a) := by
  apply (List.perm_ext_iff_of_nodup (component_nodup nodup) (component_nodup nodupMore)).mpr
  intro b
  refine ⟨fun member => component_subset subset member, fun member => ?_⟩
  refine mem_component.mpr ⟨holds member, Connected.restrict ?_ (mem_component.mp member).2⟩
  exact fun c connected => holds (mem_component.mpr ⟨connected.mem inside, connected⟩)

end Connection

end Foundation
