import PettyFlow.Api.ConnectionManager
import PettyFlow.Foundation.Tasks

/-! Whatever happens while broadcasts are under way, a broadcast tries every connection that was
open when it started once, and exactly the connections are open that have come, have not departed
and have not been found dead.
-/

namespace PettyFlow.Api

open Foundation

variable {W ε : Type}

/-! ### Runs -/

/-- The connections that are opened, in order. -/
def connections (steps : List (FeedStep W ε)) : List W :=
  steps.filterMap (fun
    | .connect websocket => some websocket
    | _ => none)

/-- At some step the endpoint of the connection, in its loop, is left by an exception that it
catches.
-/
def Departed [DecidableEq W] (steps : List (FeedStep W ε)) (websocket : W) : Prop :=
  ∃ before later,
    steps = before ++ .leave websocket true :: later
    ∧ websocket ∈ ((feedMachine W ε).exec .empty before).listening

/-- Each recipient of a broadcast has got the event, is dead, or is left, and that once. -/
structure Sending.Once (x : Sending W) : Prop where
  parted : (x.reached ++ x.deadConnections ++ x.remaining).Perm x.recipients
  distinct : x.recipients.Nodup

/-- The broadcast has come to its end, and has found the connection dead. -/
def BroadcastTask.Drops (task : BroadcastTask W ε) (websocket : W) : Prop :=
  ∃ x ∈ task.sending, x.remaining = [] ∧ websocket ∈ x.deadConnections

def LiveFeed.Dropped (s : LiveFeed W ε) (websocket : W) : Prop :=
  ∃ task ∈ s.tasks, task.Drops websocket

theorem connections_concat (steps : List (FeedStep W ε)) (step : FeedStep W ε)
    : connections (steps ++ [step])
      = connections steps ++ connections [step] :=
  List.filterMap_append

theorem mem_connections_concat {steps : List (FeedStep W ε)} {websocket : W}
    (opened : websocket ∈ connections steps) (step : FeedStep W ε)
    : websocket ∈ connections (steps ++ [step]) := by
  rw [connections_concat]
  exact List.mem_append_left _ opened

theorem connections_concat_of_ne {steps : List (FeedStep W ε)} {step : FeedStep W ε}
    (inside : ∀ websocket, step ≠ .connect websocket)
    : connections (steps ++ [step]) = connections steps := by
  rw [connections_concat]
  cases step with
  | connect websocket => exact absurd rfl (inside websocket)
  | acknowledge | leave | onWorkflowEvent | start | send => exact List.append_nil _

theorem departed_concat [DecidableEq W] {steps : List (FeedStep W ε)} {step : FeedStep W ε}
    {websocket : W}
    : Departed (steps ++ [step]) websocket
      ↔ Departed steps websocket
        ∨ step = .leave websocket true
          ∧ websocket ∈ ((feedMachine W ε).exec .empty steps).listening := by
  constructor
  · intro ⟨before, later, split, listening⟩
    rcases List.eq_nil_or_concat later with rfl | ⟨front, last, rfl⟩
    · obtain ⟨rfl, same⟩ := List.append_inj' split rfl
      exact Or.inr ⟨(List.cons.inj same).1, listening⟩
    · rw [List.concat_eq_append, ← List.cons_append, ← List.append_assoc] at split
      obtain ⟨here, _⟩ := List.append_inj' split rfl
      exact Or.inl ⟨before, front, here, listening⟩
  · rintro (⟨before, later, rfl, listening⟩ | ⟨rfl, listening⟩)
    · exact ⟨before, later ++ [step], by simp, listening⟩
    · exact ⟨steps, [], rfl, listening⟩

theorem departed_concat_of_ne [DecidableEq W] {steps : List (FeedStep W ε)}
    {step : FeedStep W ε} {websocket : W} (stays : step ≠ .leave websocket true)
    : Departed (steps ++ [step]) websocket ↔ Departed steps websocket := by
  rw [departed_concat]
  simp [stays]

/-! ### One broadcast -/

namespace Sending

theorem once_fresh {active : List W} (distinct : active.Nodup) : (fresh active).Once where
  parted := by simp [fresh]
  distinct := distinct

theorem Once.note {x : Sending W} {connection : W} {rest : List W} (once : x.Once)
    (next : x.remaining = connection :: rest) (arrives : Bool)
    : (x.note connection arrives rest).Once := by
  obtain ⟨parted, distinct⟩ := once
  rw [next] at parted
  cases arrives with
  | true =>
      refine ⟨List.Perm.trans ?_ parted, distinct⟩
      simp only [Sending.note, if_true, List.append_assoc, List.singleton_append]
      exact List.Perm.append_left _ List.perm_middle.symm
  | false =>
      refine ⟨?_, distinct⟩
      simpa [Sending.note, List.append_assoc] using parted

theorem Once.dead_subset {x : Sending W} (once : x.Once)
    : ∀ websocket ∈ x.deadConnections, websocket ∈ x.recipients := by
  intro websocket dead
  exact once.parted.subset (List.mem_append_left _ (List.mem_append_right _ dead))

theorem note_recipients (x : Sending W) (connection : W) (arrives : Bool) (rest : List W)
    : (x.note connection arrives rest).recipients = x.recipients := by
  cases arrives with
  | true => rfl
  | false => rfl

theorem note_remaining (x : Sending W) (connection : W) (arrives : Bool) (rest : List W)
    : (x.note connection arrives rest).remaining = rest := by
  cases arrives with
  | true => rfl
  | false => rfl

end Sending

/-! ### One step of the feed -/

theorem foldl_disconnect_active [DecidableEq W] (dead : List W) (s : ApprovalConnectionManager W)
    : (dead.foldl ApprovalConnectionManager.disconnect s).activeConnections
      = s.activeConnections.diff dead := by
  induction dead generalizing s with
  | nil => rfl
  | cons websocket rest ih =>
      rw [List.foldl_cons, ih, ApprovalConnectionManager.disconnect_active, List.diff_cons]

namespace LiveFeed

/-- A task is started at most once. -/
theorem start_cases (s : LiveFeed W ε) (task : Nat)
    : s.start task = s
      ∨ ∃ data,
          s.tasks[task]? = some ⟨data, none⟩
          ∧ s.start task
            = {
                s with
                tasks := s.tasks.set task ⟨data, some (.fresh s.manager.activeConnections)⟩
              } := by
  rw [start]
  split
  · rename_i data queued
    exact Or.inr ⟨data, queued, rfl⟩
  · exact Or.inl rfl

/-- Every broadcast is to connections that the steps have opened, and to each of them once. -/
def Traced (s : LiveFeed W ε) (steps : List (FeedStep W ε)) : Prop :=
  ∀ task ∈ s.tasks,
    ∀ x ∈ task.sending, x.Once ∧ ∀ websocket ∈ x.recipients, websocket ∈ connections steps

/-- What is so after every run that opens each connection once. -/
structure Settled [DecidableEq W] (s : LiveFeed W ε) (steps : List (FeedStep W ε)) : Prop where
  active_nodup : s.manager.activeConnections.Nodup
  endpoints : ∀ websocket ∈ s.greeting ++ s.listening, websocket ∈ connections steps
  departed : ∀ websocket, Departed steps websocket → websocket ∈ connections steps
  active_iff
    : ∀ websocket,
        websocket ∈ s.manager.activeConnections
        ↔ websocket ∈ connections steps ∧ ¬ Departed steps websocket ∧ ¬ s.Dropped websocket
  traced : s.Traced steps

theorem Traced.concat {s : LiveFeed W ε} {steps : List (FeedStep W ε)} (traced : s.Traced steps)
    (step : FeedStep W ε)
    : s.Traced (steps ++ [step]) := by
  intro task member x sending
  obtain ⟨once, opened⟩ := traced task member x sending
  refine ⟨once, fun websocket recipient => ?_⟩
  rw [connections_concat]
  exact List.mem_append_left _ (opened websocket recipient)

theorem Traced.set {s : LiveFeed W ε} {steps : List (FeedStep W ε)} (traced : s.Traced steps)
    (next : LiveFeed W ε) (task : Nat) (data : ε) {x : Sending W}
    (once : x.Once) (opened : ∀ websocket ∈ x.recipients, websocket ∈ connections steps)
    : LiveFeed.Traced { next with tasks := s.tasks.set task ⟨data, some x⟩ } steps := by
  intro entry member y sending
  rcases List.mem_or_eq_of_mem_set member with earlier | rfl
  · exact traced entry earlier y sending
  · cases sending
    exact ⟨once, opened⟩

/-- A dead connection was opened, as it was among the recipients. -/
theorem Traced.dropped_opened {s : LiveFeed W ε} {steps : List (FeedStep W ε)}
    (traced : s.Traced steps) {websocket : W} (dropped : s.Dropped websocket)
    : websocket ∈ connections steps := by
  obtain ⟨task, member, x, sending, _, dead⟩ := dropped
  obtain ⟨once, opened⟩ := traced task member x sending
  exact opened websocket (once.dead_subset websocket dead)

section Steps

variable [DecidableEq W] {s : LiveFeed W ε} {steps : List (FeedStep W ε)}

theorem settled_connect {opened : W} (settled : s.Settled steps)
    (fresh : opened ∉ connections steps)
    : (s.connect opened).Settled (steps ++ [.connect opened]) := by
  obtain ⟨nodup, endpoints, departed, active_iff, traced⟩ := settled
  have opens : connections (steps ++ [.connect opened]) = connections steps ++ [opened] :=
    connections_concat ..
  have departs (websocket : W) : Departed (steps ++ [.connect opened]) websocket
      ↔ Departed steps websocket :=
    departed_concat_of_ne (by simp)
  have same (websocket : W) : (s.connect opened).Dropped websocket ↔ s.Dropped websocket := Iff.rfl
  refine ⟨?_, ?_, ?_, ?_, traced.concat _⟩
  · rw [connect, ApprovalConnectionManager.connect, ← List.concat_eq_append]
    exact nodup.concat (fun active => fresh ((active_iff opened).mp active).1)
  · intro websocket waits
    rw [opens]
    simp only [connect, List.append_assoc, List.mem_append, List.mem_singleton] at waits endpoints ⊢
    rcases waits with greeting | rfl | listening
    · exact Or.inl (endpoints websocket (Or.inl greeting))
    · exact Or.inr rfl
    · exact Or.inl (endpoints websocket (Or.inr listening))
  · intro websocket left
    exact mem_connections_concat (departed websocket ((departs websocket).mp left)) _
  · intro websocket
    rw [departs, same, opens, connect, ApprovalConnectionManager.connect, List.mem_append,
      List.mem_append, List.mem_singleton, active_iff]
    constructor
    · rintro (⟨before, stays⟩ | rfl)
      · exact ⟨Or.inl before, stays⟩
      · exact ⟨Or.inr rfl, fun left => fresh (departed _ left),
          fun dropped => fresh (traced.dropped_opened dropped)⟩
    · rintro ⟨before | rfl, stays⟩
      · exact Or.inl ⟨before, stays⟩
      · exact Or.inr rfl

/-- A step that leaves the connections as they are, and drops none. -/
theorem Settled.of_same {next : LiveFeed W ε} {step : FeedStep W ε} (settled : s.Settled steps)
    (same : next.manager = s.manager)
    (waits
      : ∀ websocket ∈ next.greeting ++ next.listening, websocket ∈ s.greeting ++ s.listening)
    (kept : ∀ websocket, next.Dropped websocket ↔ s.Dropped websocket)
    (traced : next.Traced steps) (inside : ∀ websocket, step ≠ .connect websocket)
    (stays
      : ∀ websocket, Departed (steps ++ [step]) websocket ↔ Departed steps websocket)
    : next.Settled (steps ++ [step]) := by
  have opens : connections (steps ++ [step]) = connections steps :=
    connections_concat_of_ne inside
  refine ⟨?_, ?_, ?_, ?_, traced.concat step⟩
  · rw [same]
    exact settled.active_nodup
  · intro websocket waiting
    rw [opens]
    exact settled.endpoints websocket (waits websocket waiting)
  · intro websocket left
    rw [opens]
    exact settled.departed websocket ((stays websocket).mp left)
  · intro websocket
    rw [same, settled.active_iff, kept, stays, opens]

theorem settled_acknowledge {websocket : W} (settled : s.Settled steps) (arrives : Bool)
    : (s.acknowledge websocket arrives).Settled (steps ++ [.acknowledge websocket arrives]) := by
  rw [acknowledge]
  split
  · rename_i greeting
    refine settled.of_same rfl ?_ (fun _ => Iff.rfl) settled.traced (by simp)
      (fun _ => departed_concat_of_ne (by simp))
    intro other waits
    cases arrives with
    | false =>
        rcases List.mem_append.mp waits with waits | listening
        · exact List.mem_append_left _ (List.mem_of_mem_erase waits)
        · exact List.mem_append_right _ listening
    | true =>
        rcases List.mem_append.mp waits with waits | listening
        · exact List.mem_append_left _ (List.mem_of_mem_erase waits)
        · rcases List.mem_append.mp listening with listening | here
          · exact List.mem_append_right _ listening
          · rw [List.mem_singleton.mp here]
            exact List.mem_append_left _ greeting
  · exact settled.of_same rfl (fun _ => id) (fun _ => Iff.rfl) settled.traced (by simp)
      (fun _ => departed_concat_of_ne (by simp))

theorem settled_onWorkflowEvent (settled : s.Settled steps) (data : ε) (running : Bool)
    : (s.onWorkflowEvent data running).Settled (steps ++ [.onWorkflowEvent data running]) := by
  cases running with
  | false =>
      exact settled.of_same rfl (fun _ => id) (fun _ => Iff.rfl) settled.traced (by simp)
        (fun _ => departed_concat_of_ne (by simp))
  | true =>
      refine settled.of_same rfl (fun _ => id) ?_ ?_ (by simp)
        (fun _ => departed_concat_of_ne (by simp))
      · intro websocket
        simp [onWorkflowEvent, Dropped, BroadcastTask.Drops, or_and_right, exists_or]
      · intro task member x sending
        rcases List.mem_append.mp member with earlier | new
        · exact settled.traced task earlier x sending
        · rw [List.mem_singleton.mp new] at sending
          cases sending

theorem settled_start (settled : s.Settled steps) (task : Nat)
    : (s.start task).Settled (steps ++ [.start task]) := by
  rcases start_cases s task with idle | ⟨data, queued, started⟩
  · rw [idle]
    exact settled.of_same rfl (fun _ => id) (fun _ => Iff.rfl) settled.traced (by simp)
      (fun _ => departed_concat_of_ne (by simp))
  · rw [started]
    refine settled.of_same rfl (fun _ => id) ?_ ?_ (by simp)
      (fun _ => departed_concat_of_ne (by simp))
    · intro websocket
      rw [Dropped, exists_mem_set_iff queued (by simp [BroadcastTask.Drops])]
      simp [Dropped, BroadcastTask.Drops, Sending.fresh]
    · refine settled.traced.set s task data (Sending.once_fresh settled.active_nodup) ?_
      exact fun websocket active => ((settled.active_iff websocket).mp active).1

theorem send_cases (s : LiveFeed W ε) (task : Nat) (arrives : Bool)
    : s.send task arrives = s
      ∨ ∃ data x connection rest,
          s.tasks[task]? = some ⟨data, some x⟩
          ∧ x.remaining = connection :: rest
          ∧ (s.send task arrives).tasks
            = s.tasks.set task ⟨data, some (x.note connection arrives rest)⟩
          ∧ (s.send task arrives).greeting ++ (s.send task arrives).listening
            = s.greeting ++ s.listening
          ∧ (s.send task arrives).manager.activeConnections
            = if rest = [] then
                s.manager.activeConnections.diff (x.note connection arrives rest).deadConnections
              else
                s.manager.activeConnections := by
  rw [send]
  split
  · rename_i data x under
    split
    · exact Or.inl rfl
    · rename_i connection rest next
      refine Or.inr ⟨data, x, connection, rest, under, next, rfl, rfl, ?_⟩
      dsimp only
      by_cases last : rest = []
      · rw [if_pos last, if_pos last, foldl_disconnect_active]
      · rw [if_neg last, if_neg last]
  · exact Or.inl rfl

/-- The one step at which a connection departs: its endpoint is in the loop and catches. -/
theorem settled_leave {left : W}
    (settled : ((feedMachine W ε).exec .empty steps).Settled steps) (caught : Bool)
    : (((feedMachine W ε).exec .empty steps).leave left caught).Settled
        (steps ++ [.leave left caught]) := by
  have departs (websocket : W) := @departed_concat W ε _ steps (.leave left caught) websocket
  generalize (feedMachine W ε).exec .empty steps = s at settled departs ⊢
  have fewer (websocket : W) (waits : websocket ∈ s.greeting ++ s.listening.erase left)
      : websocket ∈ s.greeting ++ s.listening := by
    rw [List.mem_append] at waits ⊢
    exact waits.imp_right List.mem_of_mem_erase
  rw [leave]
  split
  · rename_i listening
    cases caught with
    | false =>
        exact settled.of_same rfl fewer (fun _ => Iff.rfl) settled.traced (by simp)
          (fun _ => departed_concat_of_ne (by simp))
    | true =>
        obtain ⟨nodup, endpoints, departed, active_iff, traced⟩ := settled
        have opens : connections (steps ++ [.leave left true]) = connections steps :=
          connections_concat_of_ne (by simp)
        have departs (websocket : W) : Departed (steps ++ [.leave left true]) websocket
            ↔ Departed steps websocket ∨ websocket = left := by
          rw [departs, FeedStep.leave.injEq]
          refine or_congr_right ⟨fun here => here.1.1.symm, ?_⟩
          rintro rfl
          exact ⟨⟨rfl, rfl⟩, listening⟩
        refine ⟨?_, ?_, ?_, ?_, traced.concat _⟩
        · show (s.manager.disconnect left).activeConnections.Nodup
          rw [ApprovalConnectionManager.disconnect_active]
          exact nodup.erase left
        · intro websocket waits
          rw [opens]
          exact endpoints websocket (fewer websocket waits)
        · intro websocket gone
          rw [opens]
          rcases (departs websocket).mp gone with earlier | rfl
          · exact departed websocket earlier
          · exact endpoints websocket (List.mem_append_right _ listening)
        · intro websocket
          show websocket ∈ (s.manager.disconnect left).activeConnections
            ↔ _ ∧ _ ∧ ¬ s.Dropped websocket
          rw [ApprovalConnectionManager.disconnect_active, nodup.mem_erase_iff, active_iff, departs,
            opens]
          tauto
  · rename_i away
    refine settled.of_same rfl (fun _ => id) (fun _ => Iff.rfl) settled.traced (by simp) ?_
    intro websocket
    rw [departs]
    refine or_iff_left ?_
    rintro ⟨same, listening⟩
    rw [(FeedStep.leave.inj same).1] at away
    exact away listening

theorem settled_send (settled : s.Settled steps) (task : Nat) (arrives : Bool)
    : (s.send task arrives).Settled (steps ++ [.send task arrives]) := by
  rcases send_cases s task arrives with
    idle | ⟨data, x, connection, rest, under, next, tasks, waits, active⟩
  · rw [idle]
    exact settled.of_same rfl (fun _ => id) (fun _ => Iff.rfl) settled.traced (by simp)
      (fun _ => departed_concat_of_ne (by simp))
  · obtain ⟨once, opened⟩ := settled.traced _ (List.mem_of_getElem? under) x rfl
    have traced : (s.send task arrives).Traced steps := by
      have set := settled.traced.set (s.send task arrives) task data (once.note next arrives)
        (by rwa [Sending.note_recipients])
      rwa [← tasks] at set
    have dropped (websocket : W) : (s.send task arrives).Dropped websocket
        ↔ s.Dropped websocket
          ∨ rest = [] ∧ websocket ∈ (x.note connection arrives rest).deadConnections := by
      rw [Dropped, tasks, exists_mem_set_iff under (by simp [BroadcastTask.Drops, next])]
      simp [Dropped, BroadcastTask.Drops, Sending.note_remaining]
    have opens : connections (steps ++ [.send task arrives]) = connections steps :=
      connections_concat_of_ne (by simp)
    have departs (websocket : W) : Departed (steps ++ [.send task arrives]) websocket
        ↔ Departed steps websocket :=
      departed_concat_of_ne (by simp)
    refine ⟨?_, ?_, ?_, ?_, traced.concat _⟩
    · rw [active]
      split
      · exact settled.active_nodup.diff
      · exact settled.active_nodup
    · rw [waits, opens]
      exact settled.endpoints
    · intro websocket gone
      rw [opens]
      exact settled.departed websocket ((departs websocket).mp gone)
    · intro websocket
      rw [active, dropped, departs, opens]
      split
      · rename_i last
        rw [settled.active_nodup.mem_sdiff_iff, settled.active_iff]
        simp [last]
        tauto
      · rename_i last
        rw [settled.active_iff]
        simp [last]

end Steps

/-! ### Runs of the feed -/

variable [DecidableEq W]

theorem exec_settled (steps : List (FeedStep W ε)) (distinct : (connections steps).Nodup)
    : ((feedMachine W ε).exec .empty steps).Settled steps := by
  induction steps using List.reverseRecOn with
  | nil =>
      refine ⟨List.nodup_nil, List.forall_mem_nil _, ?_, ?_, List.forall_mem_nil _⟩
      · rintro websocket ⟨before, later, split, _⟩
        simp at split
      · intro websocket
        simp [connections, Machine.exec, empty, ApprovalConnectionManager.empty]
  | append_singleton past step ih =>
      rw [connections_concat] at distinct
      have settled := ih distinct.of_append_left
      rw [Machine.exec_concat]
      cases step with
      | connect websocket =>
          have fresh : websocket ∉ connections past := by
            intro earlier
            exact List.disjoint_of_nodup_append distinct earlier List.mem_cons_self
          exact settled_connect settled fresh
      | acknowledge websocket arrives => exact settled_acknowledge settled arrives
      | leave websocket caught => exact settled_leave settled caught
      | onWorkflowEvent data running => exact settled_onWorkflowEvent settled data running
      | start task => exact settled_start settled task
      | send task arrives => exact settled_send settled task arrives

/-- After every run that opens each connection once, exactly the connections are open that have been
opened, whose endpoint has not left its loop by an exception that it catches, and that no finished
broadcast has found dead.
-/
theorem active_connections_iff (steps : List (FeedStep W ε)) (distinct : (connections steps).Nodup)
    (websocket : W)
    : websocket ∈ ((feedMachine W ε).exec .empty steps).manager.activeConnections
      ↔ websocket ∈ connections steps
        ∧ ¬ Departed steps websocket
        ∧ ¬ ((feedMachine W ε).exec .empty steps).Dropped websocket :=
  (exec_settled steps distinct).active_iff websocket

/-- Of three connections the first is found dead, the second departs, and the third stays open
although its acknowledgement has not arrived.
-/
theorem active_connections_iff_sample
    : let steps : List (FeedStep Nat Unit) :=
        [
          .connect 1, .acknowledge 1 true, .connect 2, .acknowledge 2 true, .connect 3,
          .onWorkflowEvent () true, .start 0, .send 0 false, .acknowledge 3 false, .send 0 true,
          .leave 2 true, .send 0 true, .leave 3 true
        ]
      (connections steps).Nodup
      ∧ ((feedMachine Nat Unit).exec .empty steps).manager.activeConnections = [3]
      ∧ ∀ websocket,
          websocket ∈ ((feedMachine Nat Unit).exec .empty steps).manager.activeConnections
          ↔ websocket ∈ connections steps
            ∧ ¬ Departed steps websocket
            ∧ ¬ ((feedMachine Nat Unit).exec .empty steps).Dropped websocket :=
  ⟨by decide, by decide, fun websocket => active_connections_iff _ (by decide) websocket⟩

/-- A broadcast has started with these recipients. -/
def Started (task : Nat) (data : ε) (recipients : List W) (s : LiveFeed W ε) : Prop :=
  ∃ x, s.tasks[task]? = some ⟨data, some x⟩ ∧ x.recipients = recipients

theorem step_started {task : Nat} {data : ε} {recipients : List W} (s : LiveFeed W ε)
    (step : FeedStep W ε) (started : s.Started task data recipients)
    : ((feedMachine W ε).step s step).2.Started task data recipients := by
  obtain ⟨x, under, same⟩ := started
  cases step with
  | connect websocket => exact ⟨x, under, same⟩
  | acknowledge websocket arrives =>
      show (s.acknowledge websocket arrives).Started task data recipients
      rw [acknowledge]
      split
      · exact ⟨x, under, same⟩
      · exact ⟨x, under, same⟩
  | leave websocket caught =>
      show (s.leave websocket caught).Started task data recipients
      rw [leave]
      split
      · exact ⟨x, under, same⟩
      · exact ⟨x, under, same⟩
  | onWorkflowEvent event running =>
      cases running with
      | false => exact ⟨x, under, same⟩
      | true =>
          refine ⟨x, ?_, same⟩
          exact (List.getElem?_append_left (List.getElem?_eq_some_iff.mp under).1).trans under
  | start other =>
      show (s.start other).Started task data recipients
      rcases start_cases s other with idle | ⟨event, queued, started⟩
      · rw [idle]
        exact ⟨x, under, same⟩
      · have apart : other ≠ task := by
          rintro rfl
          simp [under] at queued
        rw [started]
        exact ⟨x, (List.getElem?_set_ne apart).trans under, same⟩
  | send other arrives =>
      show (s.send other arrives).Started task data recipients
      rcases send_cases s other arrives with
        idle | ⟨event, y, connection, rest, found, _, tasks, _, _⟩
      · rw [idle]
        exact ⟨x, under, same⟩
      · rw [Started, tasks]
        by_cases here : other = task
        · rw [here] at found ⊢
          rw [under] at found
          cases found
          refine ⟨x.note connection arrives rest, ?_, (x.note_recipients ..).trans same⟩
          exact List.getElem?_set_self (List.getElem?_eq_some_iff.mp under).1
        · exact ⟨x, (List.getElem?_set_ne here).trans under, same⟩

/-- Whatever happens while a broadcast is under way, it sends to each connection that was open
when it started at most once, and to no other: each has got the event, has failed, or is still to
come.
-/
theorem broadcast_each_once {before later : List (FeedStep W ε)} {task : Nat} {data : ε}
    (distinct : (connections (before ++ .start task :: later)).Nodup)
    (queued : ((feedMachine W ε).exec .empty before).tasks[task]? = some ⟨data, none⟩)
    : ∃ x,
        ((feedMachine W ε).exec .empty (before ++ .start task :: later)).tasks[task]?
          = some ⟨data, some x⟩
        ∧ (x.reached ++ x.deadConnections ++ x.remaining).Nodup
        ∧ ∀ websocket,
            websocket ∈ x.reached ++ x.deadConnections ++ x.remaining
            ↔ websocket ∈ ((feedMachine W ε).exec .empty before).manager.activeConnections := by
  have settled := exec_settled _ distinct
  rw [Machine.exec_append] at settled ⊢
  generalize (feedMachine W ε).exec .empty before = s at settled queued ⊢
  have here : (s.start task).Started task data s.manager.activeConnections := by
    rw [start, queued]
    refine ⟨.fresh s.manager.activeConnections, ?_, rfl⟩
    exact List.getElem?_set_self (List.getElem?_eq_some_iff.mp queued).1
  obtain ⟨x, under, same⟩ := (feedMachine W ε).exec_invariant_of_step step_started here later
  obtain ⟨⟨parted, nodup⟩, _⟩ := settled.traced _ (List.mem_of_getElem? under) x rfl
  refine ⟨x, under, parted.nodup_iff.mpr nodup, fun websocket => ?_⟩
  rw [parted.mem_iff, same]

/-- A connection comes, and another one goes, between the sends of a broadcast. -/
theorem broadcast_each_once_sample
    : let before : List (FeedStep Nat Unit) :=
        [.connect 1, .connect 2, .acknowledge 2 true, .onWorkflowEvent () true]
      let later : List (FeedStep Nat Unit) :=
        [.send 0 true, .connect 3, .leave 2 true, .send 0 false]
      ∃ x,
        ((feedMachine Nat Unit).exec .empty (before ++ .start 0 :: later)).tasks[0]?
          = some ⟨(), some x⟩
        ∧ (x.reached ++ x.deadConnections ++ x.remaining).Nodup
        ∧ ∀ websocket,
            websocket ∈ x.reached ++ x.deadConnections ++ x.remaining
            ↔ websocket ∈ ((feedMachine Nat Unit).exec .empty before).manager.activeConnections :=
  broadcast_each_once (by decide) (by decide)

/-! ### Broadcasts without interruption -/

/-- The sends that are left, by induction over them: the dead connections go after the last. -/
theorem exec_sends {task : Nat} {data : ε} (arrives : W → Bool) (left : List W)
    : ∀ (s : LiveFeed W ε) (x : Sending W),
        s.tasks[task]? = some ⟨data, some x⟩
        → x.remaining = left
        → left ≠ []
        → ((feedMachine W ε).exec s
              (left.map (fun connection => .send task (arrives connection)))).manager
          = (x.deadConnections ++ left.filter (fun connection => !arrives connection)).foldl
              .disconnect s.manager := by
  induction left with
  | nil => exact fun _ _ _ _ some => absurd rfl some
  | cons connection rest ih =>
      intro s x under next _
      have sent : s.send task (arrives connection)
          = {
              s with
              manager :=
                if rest = [] then
                  (x.note connection (arrives connection) rest).deadConnections.foldl .disconnect
                    s.manager
                else
                  s.manager
              tasks := s.tasks.set task ⟨data, some (x.note connection (arrives connection) rest)⟩
            } := by
        simp only [send, under, next]
      have dead : (x.note connection (arrives connection) rest).deadConnections
          = x.deadConnections ++ [connection].filter (fun other => !arrives other) := by
        cases arrived : arrives connection with
        | true => simp [Sending.note, arrived]
        | false => simp [Sending.note, arrived]
      rw [List.map_cons, Machine.exec]
      show ((feedMachine W ε).exec (s.send task (arrives connection)) _).manager = _
      rw [sent, dead]
      cases rest with
      | nil => rfl
      | cons following rest =>
          rw [if_neg (List.cons_ne_nil _ _)]
          have inside := (List.getElem?_eq_some_iff.mp under).1
          rw [ih _ _ (List.getElem?_set_self inside) (Sending.note_remaining ..)
            (List.cons_ne_nil _ _), dead, List.append_assoc, ← List.filter_append,
            List.singleton_append]

/-- A broadcast that nothing interrupts is the plain loop over the connections. -/
theorem exec_uninterrupted {s : LiveFeed W ε} {task : Nat} {data : ε}
    (queued : s.tasks[task]? = some ⟨data, none⟩) (arrives : W → Bool)
    : ((feedMachine W ε).exec s
          (.start task :: s.manager.activeConnections.map
            (fun connection => .send task (arrives connection)))).manager
      = s.manager.broadcastJson arrives := by
  rw [Machine.exec]
  show ((feedMachine W ε).exec (s.start task) _).manager = _
  have inside := (List.getElem?_eq_some_iff.mp queued).1
  rw [start, queued]
  by_cases empty : s.manager.activeConnections = []
  · simp [empty, Machine.exec, ApprovalConnectionManager.broadcastJson]
  · exact exec_sends arrives s.manager.activeConnections _
      (.fresh s.manager.activeConnections) (List.getElem?_set_self inside) rfl empty

end LiveFeed

end PettyFlow.Api
