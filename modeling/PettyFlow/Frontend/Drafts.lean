import PettyFlow.Workflow.Service

/-! The custodian's web app and the approval service as parties that exchange messages. The app
keeps drafts of expenses that it could not submit, and runs its functions as tasks that wait for
the database of drafts or for the answer to a request.
-/

namespace PettyFlow.Frontend

open Foundation
open Workflow

/-- What a custodian confirms in the expense form. -/
structure ExpenseForm where
  tenantId : String
  custodianId : String
  amountScaled : Int
  currency : String
  description : String
  merchantName : String
  receiptImageAttached : Bool
deriving DecidableEq

namespace ExpenseForm

def receiptMetadata (payload : ExpenseForm) : List (String × Json) :=
  [("merchant_name", .str payload.merchantName),
    ("receipt_image_attached", .bool payload.receiptImageAttached)]

/-- The schema of a submission. -/
def Valid (payload : ExpenseForm) : Prop :=
  (1 ≤ payload.tenantId.length ∧ payload.tenantId.length ≤ 128)
  ∧ (1 ≤ payload.custodianId.length ∧ payload.custodianId.length ≤ 128)
  ∧ 0 < payload.amountScaled
  ∧ (payload.currency.length = 3 ∧ payload.currency.toList.all isAsciiAlpha)
  ∧ (1 ≤ payload.description.length ∧ payload.description.length ≤ 1000)

instance (payload : ExpenseForm) : Decidable payload.Valid := by
  unfold Valid
  infer_instance

end ExpenseForm

/-- A draft in the database of the app, with the number of the form that it was saved for. -/
structure Draft where
  id : String
  form : Nat
  payload : ExpenseForm
deriving DecidableEq

/-- A request to submit an expense. The answer says whether the service has accepted it; a
request that has not reached the service has none.
-/
structure Message where
  form : Nat
  payload : ExpenseForm
  answer : Option Bool
deriving DecidableEq

/-- A function of the app that has begun, and what it waits for. A request is referred to by its
number.
-/
inductive Task where
  | submitting (message form : Nat) (payload : ExpenseForm)
  | saving (form : Nat) (payload : ExpenseForm)
  | readingAll
  | syncingAll (message : Nat) (draft : Draft) (rest : List Draft)
  | deletingInAll (draft : Draft) (rest : List Draft)
  | syncingSingle (message : Nat) (draft : Draft)
  | deletingSingle (draft : Draft)
  | discarding (draftId : String)
  | loading (drafts : List Draft)
  | done
deriving DecidableEq

/-- The app, the requests on their way, and the service. Beside them stand the drafts that have
ever been saved, what the user has discarded, and which form led to which approval request.
-/
structure System where
  isOnline : Bool
  forms : Nat
  store : List Draft
  offlineDrafts : List Draft
  tasks : List Task
  messages : List Message
  service : ApprovalWorkflowService
  saved : List Draft
  discarded : List String
  created : List (Nat × String)

/-- The request whose answer a task waits for. -/
def Task.message? : Task → Option Nat
  | .submitting message _ _ | .syncingAll message _ _ | .syncingSingle message _ => some message
  | .saving _ _ | .readingAll | .deletingInAll _ _ | .deletingSingle _ | .discarding _
  | .loading _ | .done => none

namespace System

def initial (policyEvaluator : ApprovalPolicyEvaluator) : System :=
  ⟨true, 0, [], [], [], [], .initial policyEvaluator, [], [], []⟩

def addTask (s : System) (task : Task) : System := { s with tasks := s.tasks ++ [task] }

def setTask (s : System) (index : Nat) (task : Task) : System :=
  { s with tasks := s.tasks.set index task }

/-- Send a request, which gets the next number. -/
def send (s : System) (form : Nat) (payload : ExpenseForm) : System :=
  { s with messages := s.messages ++ [⟨form, payload, none⟩] }

/-- Put a draft in the database in place of one with its identifier. -/
def put (s : System) (draft : Draft) : System :=
  {
    s with
    store := s.store.filter (fun other => other.id ≠ draft.id) ++ [draft]
    saved := s.saved ++ [draft]
  }

/-- The drafts in the order of their identifiers. -/
def getOfflineDrafts (s : System) : List Draft :=
  s.store.insertionSort (fun first later => first.id ≤ later.id)

def delete (s : System) (draftId : String) : System :=
  { s with store := s.store.filter (fun draft => draft.id ≠ draftId) }

/-- Go on with the next draft of a list that is synced. -/
def syncNext (s : System) (index : Nat) (drafts : List Draft) : System :=
  match drafts with
  | [] => s.setTask index .done
  | draft :: rest =>
      (s.send draft.form draft.payload).setTask index (.syncingAll s.messages.length draft rest)

/-- A form is confirmed: it is saved as a draft without a network, and submitted otherwise. -/
def handleExpenseSubmit (s : System) (payload : ExpenseForm) : System :=
  let form := s.forms
  let s := { s with forms := form + 1 }
  if s.isOnline then
    (s.send form payload).addTask (.submitting s.messages.length form payload)
  else
    s.addTask (.saving form payload)

def syncAllPendingDrafts (s : System) : System :=
  if s.isOnline then s.addTask .readingAll else s

/-- Sync a draft that the app has loaded. -/
def syncSingleDraft (s : System) (draftId : String) : System :=
  match s.offlineDrafts.find? (fun draft => draft.id = draftId) with
  | none => s
  | some draft =>
      (s.send draft.form draft.payload).addTask (.syncingSingle s.messages.length draft)

def discardDraft (s : System) (draftId : String) : System :=
  { s.addTask (.discarding draftId) with discarded := s.discarded ++ [draftId] }

/-- The service answers a request that has reached it. -/
def answer (service : ApprovalWorkflowService) (draw : SubmitDraw) (payload : ExpenseForm)
    : Option ApprovalRequest × ApprovalWorkflowService :=
  if payload.Valid then
    match service.submitRequest draw payload.tenantId payload.custodianId
      (.int payload.amountScaled) (upper payload.currency) payload.description
      (some payload.receiptMetadata) true none with
    | (.ok (request, _), service) => (some request, service)
    | (.error _, service) => (none, service)
  else
    (none, service)

def deliver (s : System) (index : Nat) (draw : SubmitDraw) : System :=
  match s.messages[index]? with
  | some ⟨form, payload, none⟩ =>
      match answer s.service draw payload with
      | (some request, service) =>
          {
            s with
            messages := s.messages.set index ⟨form, payload, some true⟩
            service
            created := s.created ++ [(form, request.requestId)]
          }
      | (none, service) =>
          { s with messages := s.messages.set index ⟨form, payload, some false⟩, service }
  | _ => s

/-- The request of a task has been accepted. -/
def succeed (s : System) (index : Nat) (task : Task) : System :=
  match task with
  | .submitting _ _ _ => s.setTask index .done
  | .syncingAll _ draft rest => s.setTask index (.deletingInAll draft rest)
  | .syncingSingle _ draft => s.setTask index (.deletingSingle draft)
  | _ => s

/-- The request of a task has been refused or lost, or its answer has. A form that could not be
submitted is saved as a draft.
-/
def fail (s : System) (index : Nat) (task : Task) : System :=
  match task with
  | .submitting _ form payload => s.setTask index (.saving form payload)
  | .syncingAll _ _ rest => s.syncNext index rest
  | .syncingSingle _ _ => s.setTask index .done
  | _ => s

/-- The answer to a task's request arrives, if there is one. -/
def respond (s : System) (index : Nat) : System :=
  match s.tasks[index]? with
  | none => s
  | some task =>
      match task.message?.bind (s.messages[·]?) with
      | some ⟨_, _, some true⟩ => s.succeed index task
      | some ⟨_, _, some false⟩ => s.fail index task
      | _ => s

/-- A task that waits for an answer is told that there is none, wherever the request is. -/
def lose (s : System) (index : Nat) : System :=
  match s.tasks[index]? with
  | none => s
  | some task => s.fail index task

/-- The database completes what a task waits for. A draft that is saved gets an identifier. -/
def complete (s : System) (index : Nat) (draftId : String) : System :=
  match s.tasks[index]? with
  | some (.saving form payload) => (s.put ⟨draftId, form, payload⟩).setTask index .done
  | some .readingAll => s.syncNext index s.getOfflineDrafts
  | some (.deletingInAll draft rest) => (s.delete draft.id).syncNext index rest
  | some (.deletingSingle draft) => (s.delete draft.id).setTask index .done
  | some (.discarding id) => (s.delete id).setTask index .done
  | some (.loading drafts) => { s.setTask index .done with offlineDrafts := drafts }
  | _ => s

end System

/-- What can happen: the user's actions, changes of the network, and each step of a task or of a
message. Loading reads the drafts first and shows them later.
-/
inductive SystemStep where
  | confirm (payload : ExpenseForm)
  | syncAll
  | syncSingle (draftId : String)
  | discard (draftId : String)
  | goOnline
  | goOffline
  | load
  | deliver (message : Nat) (draw : SubmitDraw)
  | respond (task : Nat)
  | lose (task : Nat)
  | complete (task : Nat) (draftId : String)
deriving DecidableEq

def systemMachine : Machine System SystemStep Unit where
  step s step :=
    ((),
      match step with
      | .confirm payload => s.handleExpenseSubmit payload
      | .syncAll => s.syncAllPendingDrafts
      | .syncSingle draftId => s.syncSingleDraft draftId
      | .discard draftId => s.discardDraft draftId
      | .goOnline => { s with isOnline := true }.syncAllPendingDrafts
      | .goOffline => { s with isOnline := false }
      | .load => s.addTask (.loading s.getOfflineDrafts)
      | .deliver message draw => s.deliver message draw
      | .respond task => s.respond task
      | .lose task => s.lose task
      | .complete task draftId => s.complete task draftId)

end PettyFlow.Frontend
