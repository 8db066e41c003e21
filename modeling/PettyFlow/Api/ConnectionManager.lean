import PettyFlow.Foundation.Machine

/-! The connections of the live feed, their endpoints, and the broadcasts to them. A broadcast waits
at every send, so that connections come and go and other broadcasts go on while it is under way.
-/

namespace PettyFlow.Api

open Foundation

/-- The open connections, in the order in which they came. -/
structure ApprovalConnectionManager (W : Type) where
  activeConnections : List W
deriving DecidableEq

namespace ApprovalConnectionManager

variable {W : Type}

def empty : ApprovalConnectionManager W := ⟨[]⟩

def connect (s : ApprovalConnectionManager W) (websocket : W) : ApprovalConnectionManager W :=
  ⟨s.activeConnections ++ [websocket]⟩

variable [DecidableEq W]

def disconnect (s : ApprovalConnectionManager W) (websocket : W) : ApprovalConnectionManager W :=
  if websocket ∈ s.activeConnections then ⟨s.activeConnections.erase websocket⟩ else s

/-- A broadcast during which nothing else happens, where `arrives` says which sends return. -/
def broadcastJson (s : ApprovalConnectionManager W) (arrives : W → Bool)
    : ApprovalConnectionManager W :=
  (s.activeConnections.filter (fun connection => !arrives connection)).foldl disconnect s

theorem disconnect_active (s : ApprovalConnectionManager W) (websocket : W)
    : (s.disconnect websocket).activeConnections = s.activeConnections.erase websocket := by
  rw [disconnect]
  split
  · rfl
  · rename_i absent
    exact (List.erase_of_not_mem absent).symm

end ApprovalConnectionManager

/-! ### Broadcasts as tasks -/

/-- How far a broadcast is: who was connected when it started, who has got the event, whose send
has failed, and who is left.
-/
structure Sending (W : Type) where
  recipients : List W
  reached : List W
  deadConnections : List W
  remaining : List W
deriving DecidableEq

/-- A task of the event loop that broadcasts. Before it starts it knows of no connection. -/
structure BroadcastTask (W ε : Type) where
  data : ε
  sending : Option (Sending W)
deriving DecidableEq

/-- The connections, the endpoints that send their acknowledgement, those in the loop that receives,
and all tasks so far, by their numbers.
-/
structure LiveFeed (W ε : Type) where
  manager : ApprovalConnectionManager W
  greeting : List W
  listening : List W
  tasks : List (BroadcastTask W ε)
deriving DecidableEq

inductive FeedStep (W ε : Type) where
  /-- A client's connection is accepted. -/
  | connect (websocket : W)
  /-- The acknowledgement to a connection returns or raises. -/
  | acknowledge (websocket : W) (arrives : Bool)
  /-- The loop of an endpoint is left, by an exception that it catches or by a cancellation. -/
  | leave (websocket : W) (caught : Bool)
  /-- An event reaches the bridge, in a thread with a running event loop or without. -/
  | onWorkflowEvent (data : ε) (running : Bool)
  /-- A task takes its copy of the list of connections. -/
  | start (task : Nat)
  /-- A task's next send returns or raises. -/
  | send (task : Nat) (arrives : Bool)
deriving DecidableEq

namespace Sending

variable {W : Type}

def fresh (connections : List W) : Sending W := ⟨connections, [], [], connections⟩

/-- One connection has been sent to. -/
def note (x : Sending W) (connection : W) (arrives : Bool) (rest : List W) : Sending W :=
  if arrives then
    { x with reached := x.reached ++ [connection], remaining := rest }
  else
    { x with deadConnections := x.deadConnections ++ [connection], remaining := rest }

end Sending

namespace LiveFeed

variable {W ε : Type} [DecidableEq W]

def empty : LiveFeed W ε := ⟨.empty, [], [], []⟩

def connect (s : LiveFeed W ε) (websocket : W) : LiveFeed W ε :=
  { s with manager := s.manager.connect websocket, greeting := s.greeting ++ [websocket] }

/-- The acknowledgement stands before the `try`: if it raises, the connection stays in the list. -/
def acknowledge (s : LiveFeed W ε) (websocket : W) (arrives : Bool) : LiveFeed W ε :=
  if websocket ∈ s.greeting then
    {
      s with
      greeting := s.greeting.erase websocket
      listening := if arrives then s.listening ++ [websocket] else s.listening
    }
  else
    s

/-- Both handlers of the loop disconnect. A cancellation passes them by. -/
def leave (s : LiveFeed W ε) (websocket : W) (caught : Bool) : LiveFeed W ε :=
  if websocket ∈ s.listening then
    {
      s with
      manager := if caught then s.manager.disconnect websocket else s.manager
      listening := s.listening.erase websocket
    }
  else
    s

/-- Without a running event loop the event is dropped. -/
def onWorkflowEvent (s : LiveFeed W ε) (data : ε) (running : Bool) : LiveFeed W ε :=
  if running then { s with tasks := s.tasks ++ [⟨data, none⟩] } else s

def start (s : LiveFeed W ε) (task : Nat) : LiveFeed W ε :=
  match s.tasks[task]? with
  | some ⟨data, none⟩ =>
      { s with tasks := s.tasks.set task ⟨data, some (.fresh s.manager.activeConnections)⟩ }
  | _ => s

/-- A send, and after the last one the removal of the dead connections. -/
def send (s : LiveFeed W ε) (task : Nat) (arrives : Bool) : LiveFeed W ε :=
  match s.tasks[task]? with
  | some ⟨data, some x⟩ =>
      match x.remaining with
      | [] => s
      | connection :: rest =>
          let x := x.note connection arrives rest
          {
            s with
            manager :=
              if rest = [] then x.deadConnections.foldl .disconnect s.manager else s.manager
            tasks := s.tasks.set task ⟨data, some x⟩
          }
  | _ => s

end LiveFeed

section Machine

variable (W ε : Type) [DecidableEq W]

def feedMachine : Machine (LiveFeed W ε) (FeedStep W ε) Unit where
  step s step :=
    ((),
      match step with
      | .connect websocket => s.connect websocket
      | .acknowledge websocket arrives => s.acknowledge websocket arrives
      | .leave websocket caught => s.leave websocket caught
      | .onWorkflowEvent data running => s.onWorkflowEvent data running
      | .start task => s.start task
      | .send task arrives => s.send task arrives)

end Machine

end PettyFlow.Api
