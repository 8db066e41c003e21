import PettyFlow.Frontend.Drafts

/-! What becomes of a confirmed form. Its draft is not lost before the service has accepted it or
the user has discarded it; and it leads to one approval request at most, as long as no request for
it is sent beside another one or after one that was accepted.
-/

namespace PettyFlow.Frontend

open Foundation
open Workflow

/-- A form has led to an approval request. -/
def System.Created (s : System) (form : Nat) : Prop := ∃ entry ∈ s.created, entry.1 = form

/-- The number of approval requests that a form has led to. -/
def System.requests (s : System) (form : Nat) : Nat :=
  s.created.countP (fun entry => entry.1 = form)

/-- The number of requests for a form that have not reached the service. -/
def System.underWay (s : System) (form : Nat) : Nat :=
  s.messages.countP (fun message => message.form = form ∧ message.answer = none)

/-- What may be known about a draft or a request stays true: drafts stay saved, forms stay
accepted, drafts stay discarded, and requests stay requests for their forms.
-/
structure Grows (s t : System) : Prop where
  forms : s.forms ≤ t.forms
  saved : ∀ draft ∈ s.saved, draft ∈ t.saved
  created : ∀ form, s.Created form → t.Created form
  discarded : ∀ id ∈ s.discarded, id ∈ t.discarded
  messages
    : ∀ index : Nat,
        ∀ message ∈ s.messages[index]?,
          ∃ later ∈ t.messages[index]?, later.form = message.form

namespace Task

/-- The request of a number is one for a form. -/
def Asks (s : System) (index form : Nat) : Prop :=
  ∃ message ∈ s.messages[index]?, message.form = form

/-- What a task relies on. -/
def Sound (s : System) : Task → Prop
  | .submitting message form _ => form < s.forms ∧ Asks s message form
  | .saving form _ => form < s.forms
  | .syncingAll message draft rest =>
      (draft ∈ s.saved ∧ Asks s message draft.form) ∧ ∀ other ∈ rest, other ∈ s.saved
  | .deletingInAll draft rest =>
      (draft ∈ s.saved ∧ s.Created draft.form) ∧ ∀ other ∈ rest, other ∈ s.saved
  | .syncingSingle message draft => draft ∈ s.saved ∧ Asks s message draft.form
  | .deletingSingle draft => draft ∈ s.saved ∧ s.Created draft.form
  | .discarding draftId => draftId ∈ s.discarded
  | .loading drafts => ∀ draft ∈ drafts, draft ∈ s.saved
  | .readingAll | .done => True

theorem Asks.grows {s t : System} {index form : Nat} (asks : Asks s index form)
    (grows : Grows s t)
    : Asks t index form := by
  obtain ⟨message, found, same⟩ := asks
  obtain ⟨later, still, kept⟩ := grows.messages index message found
  exact ⟨later, still, kept.trans same⟩

/-- A task may go on relying on what it relied on. -/
theorem Sound.grows {s t : System} {task : Task} (sound : task.Sound s) (grows : Grows s t)
    : task.Sound t := by
  cases task with
  | submitting message form payload => exact ⟨sound.1.trans_le grows.forms, sound.2.grows grows⟩
  | saving form payload => exact Nat.lt_of_lt_of_le sound grows.forms
  | syncingAll message draft rest =>
      exact ⟨⟨grows.saved draft sound.1.1, sound.1.2.grows grows⟩,
        fun other member => grows.saved other (sound.2 other member)⟩
  | deletingInAll draft rest =>
      exact ⟨⟨grows.saved draft sound.1.1, grows.created _ sound.1.2⟩,
        fun other member => grows.saved other (sound.2 other member)⟩
  | syncingSingle message draft => exact ⟨grows.saved draft sound.1, sound.2.grows grows⟩
  | deletingSingle draft => exact ⟨grows.saved draft sound.1, grows.created _ sound.2⟩
  | discarding draftId => exact grows.discarded draftId sound
  | loading drafts => exact fun draft member => grows.saved draft (sound draft member)
  | readingAll | done => trivial

end Task

/-- The app and the requests are as the steps so far explain: drafts in use have been saved for
forms that were confirmed, a draft that has gone was accepted or discarded, an accepted request
has led to an approval request.
-/
structure Explained (s : System) : Prop where
  store : ∀ draft ∈ s.store, draft ∈ s.saved
  loaded : ∀ draft ∈ s.offlineDrafts, draft ∈ s.saved
  tasks : ∀ task ∈ s.tasks, task.Sound s
  messages
    : ∀ message ∈ s.messages,
        message.form < s.forms ∧ (message.answer = some true → s.Created message.form)
  created : ∀ entry ∈ s.created, entry.1 < s.forms
  saved : ∀ draft ∈ s.saved, draft.form < s.forms
  identified : ∀ draft ∈ s.saved, ∀ other ∈ s.saved, draft.id = other.id → draft = other
  kept
    : ∀ draft ∈ s.saved, draft ∈ s.store ∨ s.Created draft.form ∨ draft.id ∈ s.discarded

theorem initial_explained (evaluator : ApprovalPolicyEvaluator)
    : Explained (.initial evaluator) := by
  constructor <;> simp [System.initial]

theorem Grows.refl (s : System) : Grows s s :=
  ⟨le_rfl, fun _ => id, fun _ => id, fun _ => id, fun _ message found => ⟨message, found, rfl⟩⟩

section Blocks

variable {s : System}

/-- A task may begin that relies on what is so. -/
theorem Explained.addTask (explained : Explained s) {task : Task} (sound : task.Sound s)
    : Explained (s.addTask task) := by
  refine { explained with tasks := fun other member => ?_ }
  rcases List.mem_append.mp member with old | new
  · exact explained.tasks other old
  · exact List.mem_singleton.mp new ▸ sound

theorem Explained.setTask (explained : Explained s) {task : Task} (sound : task.Sound s)
    (index : Nat)
    : Explained (s.setTask index task) := by
  refine { explained with tasks := fun other member => ?_ }
  rcases List.mem_or_eq_of_mem_set member with old | new
  · exact explained.tasks other old
  · exact new ▸ sound

theorem grows_send (form : Nat) (payload : ExpenseForm) : Grows s (s.send form payload) := by
  refine { Grows.refl s with messages := fun index message found => ⟨message, ?_, rfl⟩ }
  have inside := (List.getElem?_eq_some_iff.mp found).1
  exact (List.getElem?_append_left inside).trans found

theorem asks_send (form : Nat) (payload : ExpenseForm)
    : Task.Asks (s.send form payload) s.messages.length form :=
  ⟨⟨form, payload, none⟩, List.getElem?_concat_length, rfl⟩

/-- A request may be sent for a form that was confirmed. -/
theorem Explained.send (explained : Explained s) {form : Nat} (confirmed : form < s.forms)
    (payload : ExpenseForm)
    : Explained (s.send form payload) := by
  refine {
    explained with
    tasks := fun task member => (explained.tasks task member).grows (grows_send form payload)
    messages := fun message member => ?_
  }
  rcases List.mem_append.mp member with old | new
  · exact explained.messages message old
  · obtain rfl := List.mem_singleton.mp new
    exact ⟨confirmed, nofun⟩

/-- A draft with a new identifier may be put in the database. -/
theorem Explained.put (explained : Explained s) {draft : Draft} (confirmed : draft.form < s.forms)
    (fresh : ∀ other ∈ s.saved, other.id ≠ draft.id)
    : Explained (s.put draft) := by
  have grows : Grows s (s.put draft) :=
    { Grows.refl s with saved := fun other member => List.mem_append_left _ member }
  refine {
    explained with
    store := fun other member => ?_
    loaded := fun other member => grows.saved other (explained.loaded other member)
    tasks := fun task member => (explained.tasks task member).grows grows
    saved := fun other member => ?_
    identified := fun first old second other same => ?_
    kept := fun other member => ?_
  }
  · rcases List.mem_append.mp member with old | new
    · exact grows.saved other (explained.store other (List.mem_filter.mp old).1)
    · exact List.mem_append_right _ new
  · rcases List.mem_append.mp member with old | new
    · exact explained.saved other old
    · exact List.mem_singleton.mp new ▸ confirmed
  · -- The new draft is saved under an identifier that no other draft has
    rcases List.mem_append.mp old with before | now <;>
      rcases List.mem_append.mp other with beforeToo | nowToo
    · exact explained.identified first before second beforeToo same
    · rw [List.mem_singleton.mp nowToo] at same
      exact absurd same (fresh first before)
    · rw [List.mem_singleton.mp now] at same
      exact absurd same.symm (fresh second beforeToo)
    · rw [List.mem_singleton.mp now, List.mem_singleton.mp nowToo]
  · rcases List.mem_append.mp member with old | new
    · rcases explained.kept other old with stored | gone
      · have other_ := decide_eq_true (fresh other old)
        exact .inl (List.mem_append_left _ (List.mem_filter.mpr ⟨stored, other_⟩))
      · exact .inr gone
    · exact .inl (List.mem_append_right _ new)

/-- A draft that was accepted or discarded may be deleted. -/
theorem Explained.delete (explained : Explained s) {draftId : String}
    (settled
      : ∀ draft ∈ s.saved,
          draft.id = draftId → s.Created draft.form ∨ draft.id ∈ s.discarded)
    : Explained (s.delete draftId) := by
  refine {
    explained with
    store := fun draft member => explained.store draft (List.mem_filter.mp member).1
    kept := fun draft member => ?_
  }
  rcases explained.kept draft member with stored | gone
  · by_cases here : draft.id = draftId
    · exact .inr (settled draft member here)
    · exact .inl (List.mem_filter.mpr ⟨stored, decide_eq_true here⟩)
  · exact .inr gone

/-- Syncing goes on with drafts that have been saved. -/
theorem Explained.syncNext (explained : Explained s) (index : Nat) {drafts : List Draft}
    (saved : ∀ draft ∈ drafts, draft ∈ s.saved)
    : Explained (s.syncNext index drafts) := by
  cases drafts with
  | nil =>
      have ended : Task.done.Sound s := trivial
      exact explained.setTask ended index
  | cons draft rest =>
      have member := saved draft List.mem_cons_self
      have sent := explained.send (explained.saved draft member) draft.payload
      have syncing
          : (Task.syncingAll s.messages.length draft rest).Sound
              (s.send draft.form draft.payload) :=
        ⟨⟨member, asks_send draft.form draft.payload⟩,
          fun other behind => saved other (List.mem_cons_of_mem _ behind)⟩
      exact sent.setTask syncing index

/-- A form is confirmed with the next number. -/
theorem Explained.confirm (explained : Explained s)
    : Explained { s with forms := s.forms + 1 } := by
  have grows : Grows s { s with forms := s.forms + 1 } :=
    { Grows.refl s with forms := Nat.le_succ _ }
  exact {
    explained with
    tasks := fun task member => (explained.tasks task member).grows grows
    messages := fun message member =>
      ⟨(explained.messages message member).1.trans (Nat.lt_succ_self _),
        (explained.messages message member).2⟩
    created := fun entry member =>
      (explained.created entry member).trans (Nat.lt_succ_self _)
    saved := fun draft member => (explained.saved draft member).trans (Nat.lt_succ_self _)
  }

theorem Explained.handleExpenseSubmit (explained : Explained s) (payload : ExpenseForm)
    : Explained (s.handleExpenseSubmit payload) := by
  have confirmed := explained.confirm
  have next : s.forms < s.forms + 1 := Nat.lt_succ_self _
  unfold System.handleExpenseSubmit
  dsimp only
  split
  · have submitting
        : (Task.submitting s.messages.length s.forms payload).Sound
            ({ s with forms := s.forms + 1 }.send s.forms payload) :=
      ⟨next, asks_send s.forms payload⟩
    exact (confirmed.send next payload).addTask submitting
  · have saving : (Task.saving s.forms payload).Sound { s with forms := s.forms + 1 } := next
    exact confirmed.addTask saving

theorem Explained.syncAllPendingDrafts (explained : Explained s)
    : Explained s.syncAllPendingDrafts := by
  have reading : Task.readingAll.Sound s := trivial
  unfold System.syncAllPendingDrafts
  split
  · exact explained.addTask reading
  · exact explained

theorem Explained.syncSingleDraft (explained : Explained s) (draftId : String)
    : Explained (s.syncSingleDraft draftId) := by
  unfold System.syncSingleDraft
  split
  · exact explained
  · rename_i draft found
    have member := explained.loaded draft (List.mem_of_find?_eq_some found)
    have syncing
        : (Task.syncingSingle s.messages.length draft).Sound
            (s.send draft.form draft.payload) :=
      ⟨member, asks_send draft.form draft.payload⟩
    exact (explained.send (explained.saved draft member) draft.payload).addTask syncing

theorem Explained.discardDraft (explained : Explained s) (draftId : String)
    : Explained (s.discardDraft draftId) := by
  have grows : Grows s { s with discarded := s.discarded ++ [draftId] } :=
    { Grows.refl s with discarded := fun id member => List.mem_append_left _ member }
  have noted : Explained { s with discarded := s.discarded ++ [draftId] } :=
    {
      explained with
      tasks := fun task member => (explained.tasks task member).grows grows
      kept := fun draft member =>
        (explained.kept draft member).imp_right (Or.imp_right (grows.discarded draft.id))
    }
  have discarding
      : (Task.discarding draftId).Sound { s with discarded := s.discarded ++ [draftId] } :=
    List.mem_append_right _ List.mem_cons_self
  exact noted.addTask discarding

theorem Explained.load (explained : Explained s)
    : Explained (s.addTask (.loading s.getOfflineDrafts)) := by
  have loading : (Task.loading s.getOfflineDrafts).Sound s := fun draft member =>
    explained.store draft ((List.mem_insertionSort _).mp member)
  exact explained.addTask loading

/-- An answered request is still one for its form. -/
theorem answered_asks {index : Nat} {form : Nat} {payload : ExpenseForm} {answer : Option Bool}
    (found : s.messages[index]? = some ⟨form, payload, none⟩) (position : Nat)
    {message : Message} (member : message ∈ s.messages[position]?)
    : ∃ later ∈ (s.messages.set index ⟨form, payload, answer⟩)[position]?,
        later.form = message.form := by
  by_cases here : index = position
  · subst here
    have inside := (List.getElem?_eq_some_iff.mp found).1
    refine ⟨_, List.getElem?_set_self inside, ?_⟩
    rw [Option.mem_def, found] at member
    have same := congrArg Message.form (Option.some.inj member)
    exact same
  · exact ⟨message, (List.getElem?_set_ne here).trans member, rfl⟩

section Answered

variable {index form : Nat} {payload : ExpenseForm}
  (found : s.messages[index]? = some ⟨form, payload, none⟩) (service : ApprovalWorkflowService)

include found

/-- The service accepts: the form of the message now has an approval request. -/
theorem Explained.accepts (requestId : String) (explained : Explained s)
    : Explained
        {
          s with
          messages := s.messages.set index ⟨form, payload, some true⟩
          service
          created := s.created ++ [(form, requestId)]
        } := by
  have confirmed := (explained.messages _ (List.mem_of_getElem? found)).1
  have grows
      : Grows s
          {
            s with
            messages := s.messages.set index ⟨form, payload, some true⟩
            service
            created := s.created ++ [(form, requestId)]
          } := {
    Grows.refl s with
    created := fun _ known => by
      obtain ⟨entry, member, same⟩ := known
      exact ⟨entry, List.mem_append_left _ member, same⟩
    messages := fun position message member => answered_asks found position member
  }
  refine {
    explained with
    tasks := fun task member => (explained.tasks task member).grows grows
    messages := fun message member => ?_
    created := fun entry member => ?_
    kept := fun draft member =>
      (explained.kept draft member).imp_right (Or.imp_left (grows.created draft.form))
  }
  · rcases List.mem_or_eq_of_mem_set member with old | new
    · obtain ⟨bound, accepted⟩ := explained.messages message old
      exact ⟨bound, fun answer => grows.created _ (accepted answer)⟩
    · subst new
      exact ⟨confirmed, fun _ => ⟨_, List.mem_append_right _ List.mem_cons_self, rfl⟩⟩
  · rcases List.mem_append.mp member with old | new
    · exact explained.created entry old
    · obtain rfl := List.mem_singleton.mp new
      exact confirmed

/-- The service refuses: the message is answered, and nothing is created. -/
theorem Explained.refuses (explained : Explained s)
    : Explained
        { s with messages := s.messages.set index ⟨form, payload, some false⟩, service } := by
  have confirmed := (explained.messages _ (List.mem_of_getElem? found)).1
  have grows
      : Grows s
          { s with messages := s.messages.set index ⟨form, payload, some false⟩, service } := {
    Grows.refl s with
    messages := fun position message member => answered_asks found position member
  }
  refine {
    explained with
    tasks := fun task member => (explained.tasks task member).grows grows
    messages := fun message member => ?_
  }
  rcases List.mem_or_eq_of_mem_set member with old | new
  · exact explained.messages message old
  · subst new
    exact ⟨confirmed, fun accepted => by cases accepted⟩

end Answered

/-- A request that reaches the service is answered; an approval request is created for its form
where the answer is that it was accepted.
-/
theorem Explained.deliver (explained : Explained s) (index : Nat) (draw : SubmitDraw)
    : Explained (s.deliver index draw) := by
  unfold System.deliver
  split
  · rename_i form payload found
    split
    · rename_i request service _
      exact .accepts found service request.requestId explained
    · rename_i service _
      exact .refuses found service explained
  · exact explained

/-- After the failure of its request a task saves its form, goes on, or ends. -/
theorem Explained.fail (explained : Explained s) {index : Nat} {task : Task}
    (sound : task.Sound s)
    : Explained (s.fail index task) := by
  cases task with
  | submitting message form payload =>
      have saving : (Task.saving form payload).Sound s := sound.1
      exact explained.setTask saving index
  | syncingAll message draft rest => exact explained.syncNext index sound.2
  | syncingSingle message draft =>
      have ended : Task.done.Sound s := trivial
      exact explained.setTask ended index
  | saving | readingAll | deletingInAll | deletingSingle | discarding | loading | done =>
      exact explained

/-- A draft is deleted only after its form has been accepted. -/
theorem Explained.succeed (explained : Explained s) {index number : Nat} {task : Task}
    (sound : task.Sound s) (waits : task.message? = some number) {message : Message}
    (found : s.messages[number]? = some message) (accepted : message.answer = some true)
    : Explained (s.succeed index task) := by
  have created := (explained.messages message (List.mem_of_getElem? found)).2 accepted
  have asked {form : Nat} (asks : Task.Asks s number form) : s.Created form := by
    obtain ⟨other, same, forForm⟩ := asks
    obtain rfl := Option.some.inj (found.symm.trans same)
    exact forForm ▸ created
  cases task with
  | submitting =>
      have ended : Task.done.Sound s := trivial
      exact explained.setTask ended index
  | syncingAll other draft rest =>
      obtain rfl := Option.some.inj waits
      have deleting : (Task.deletingInAll draft rest).Sound s :=
        ⟨⟨sound.1.1, asked sound.1.2⟩, sound.2⟩
      exact explained.setTask deleting index
  | syncingSingle other draft =>
      obtain rfl := Option.some.inj waits
      have deleting : (Task.deletingSingle draft).Sound s := ⟨sound.1, asked sound.2⟩
      exact explained.setTask deleting index
  | saving | readingAll | deletingInAll | deletingSingle | discarding | loading | done =>
      exact explained

theorem Explained.respond (explained : Explained s) (index : Nat)
    : Explained (s.respond index) := by
  unfold System.respond
  split
  · exact explained
  · rename_i task found
    have sound := explained.tasks task (List.mem_of_getElem? found)
    split
    · rename_i form payload answered
      obtain ⟨number, waits, stored⟩ := Option.bind_eq_some_iff.mp answered
      exact explained.succeed sound waits stored rfl
    · exact explained.fail sound
    · exact explained

theorem Explained.lose (explained : Explained s) (index : Nat) : Explained (s.lose index) := by
  unfold System.lose
  split
  · exact explained
  · rename_i task found
    exact explained.fail (explained.tasks task (List.mem_of_getElem? found))

/-- A draft whose form was accepted may go. -/
theorem Explained.deleteAccepted (explained : Explained s) {draft : Draft}
    (member : draft ∈ s.saved) (created : s.Created draft.form)
    : Explained (s.delete draft.id) := by
  refine explained.delete (fun other saved same => .inl ?_)
  rw [explained.identified other saved draft member same]
  exact created

/-- A new draft gets an identifier that no draft has had. -/
def SystemStep.Fresh (s : System) : SystemStep → Prop
  | .complete index draftId =>
      match s.tasks[index]? with
      | some (.saving _ _) => ∀ draft ∈ s.saved, draft.id ≠ draftId
      | _ => True
  | _ => True

instance (s : System) (step : SystemStep) : Decidable (step.Fresh s) := by
  unfold SystemStep.Fresh
  split
  · split <;> infer_instance
  · infer_instance

theorem Explained.complete (explained : Explained s) {index : Nat} {draftId : String}
    (fresh : (SystemStep.complete index draftId).Fresh s)
    : Explained (s.complete index draftId) := by
  have ended (t : System) : Task.done.Sound t := trivial
  unfold System.complete
  split
  · rename_i form payload found
    -- The draft of a task belongs to a form that was confirmed when the task began
    have confirmed : form < s.forms := explained.tasks _ (List.mem_of_getElem? found)
    simp only [SystemStep.Fresh, found] at fresh
    have stored : Explained (s.put ⟨draftId, form, payload⟩) := explained.put confirmed fresh
    exact stored.setTask (ended _) index
  · exact explained.syncNext index (fun draft member =>
      explained.store draft ((List.mem_insertionSort _).mp member))
  · rename_i draft rest found
    have sound := explained.tasks _ (List.mem_of_getElem? found)
    exact (explained.deleteAccepted sound.1.1 sound.1.2).syncNext index sound.2
  · rename_i draft found
    have sound := explained.tasks _ (List.mem_of_getElem? found)
    exact (explained.deleteAccepted sound.1 sound.2).setTask (ended _) index
  · rename_i id found
    -- A draft that is discarded may go without being sent
    have discarded : id ∈ s.discarded := explained.tasks _ (List.mem_of_getElem? found)
    exact (explained.delete (fun draft _ same => .inr (same ▸ discarded))).setTask (ended _) index
  · rename_i drafts found
    have loading : ∀ draft ∈ drafts, draft ∈ s.saved :=
      explained.tasks _ (List.mem_of_getElem? found)
    have next := explained.setTask (ended s) index
    exact { next with loaded := loading }
  · exact explained

end Blocks

/-- Every step keeps the system explained. -/
theorem step_explained (s : System) (step : SystemStep) (explained : Explained s)
    (fresh : step.Fresh s)
    : Explained (systemMachine.step s step).2 := by
  cases step with
  | confirm payload => exact explained.handleExpenseSubmit payload
  | syncAll => exact explained.syncAllPendingDrafts
  | syncSingle draftId => exact explained.syncSingleDraft draftId
  | discard draftId => exact explained.discardDraft draftId
  | goOnline =>
      have online : Explained { s with isOnline := true } := { explained with }
      exact online.syncAllPendingDrafts
  | goOffline => exact { explained with }
  | load => exact explained.load
  | deliver message draw => exact explained.deliver message draw
  | respond task => exact explained.respond task
  | lose task => exact explained.lose task
  | complete task draftId => exact explained.complete fresh

/-- The requests that a step sends. -/
def SystemStep.sent (s : System) (step : SystemStep) : List Message :=
  (systemMachine.step s step).2.messages.drop s.messages.length

/-- A step sends no request for a form that has a request under way, or has been accepted. -/
def SystemStep.SendsOnce (s : System) (step : SystemStep) : Prop :=
  ∀ message ∈ step.sent s, s.requests message.form = 0 ∧ s.underWay message.form = 0

instance (s : System) (step : SystemStep) : Decidable (step.SendsOnce s) := by
  unfold SystemStep.SendsOnce
  infer_instance

/-- Each form has at most one request that is under way or has been accepted. -/
def System.AtMostOne (s : System) : Prop := ∀ form, s.requests form + s.underWay form ≤ 1

/-- Nothing has been created and one request has been sent at most. -/
def Sends (s t : System) : Prop :=
  t.created = s.created
  ∧ ∃ extra, t.messages = s.messages ++ extra ∧ extra.length ≤ 1

section Sending

variable {s : System}

theorem sends_nothing {t : System} (created : t.created = s.created)
    (messages : t.messages = s.messages)
    : Sends s t :=
  ⟨created, [], by rw [messages, List.append_nil], Nat.zero_le _⟩

theorem sends_send {t : System} {form : Nat} {payload : ExpenseForm}
    (created : t.created = s.created)
    (messages : t.messages = s.messages ++ [⟨form, payload, none⟩])
    : Sends s t :=
  ⟨created, _, messages, le_rfl⟩

theorem sends_syncNext (index : Nat) (drafts : List Draft) : Sends s (s.syncNext index drafts) := by
  cases drafts with
  | nil => exact sends_nothing rfl rfl
  | cons draft rest => exact sends_send rfl rfl

theorem sends_fail (index : Nat) (task : Task) : Sends s (s.fail index task) := by
  cases task with
  | syncingAll message draft rest => exact sends_syncNext index rest
  | submitting | syncingSingle | saving | readingAll | deletingInAll | deletingSingle
  | discarding | loading | done => exact sends_nothing rfl rfl

theorem sends_succeed (index : Nat) (task : Task) : Sends s (s.succeed index task) := by
  cases task <;> exact sends_nothing rfl rfl

/-- Every step but the delivery of a request sends one request at most, and creates nothing. -/
theorem step_sends {step : SystemStep} (other : ∀ index draw, step ≠ .deliver index draw)
    : Sends s (systemMachine.step s step).2 := by
  cases step with
  | deliver message draw => exact absurd rfl (other message draw)
  | confirm payload =>
      dsimp only [systemMachine, System.handleExpenseSubmit]
      split
      · exact sends_send rfl rfl
      · exact sends_nothing rfl rfl
  | syncAll =>
      dsimp only [systemMachine, System.syncAllPendingDrafts]
      split <;> exact sends_nothing rfl rfl
  | syncSingle draftId =>
      dsimp only [systemMachine, System.syncSingleDraft]
      split
      · exact sends_nothing rfl rfl
      · exact sends_send rfl rfl
  | discard draftId => exact sends_nothing rfl rfl
  | goOnline => exact sends_nothing rfl rfl
  | goOffline => exact sends_nothing rfl rfl
  | load => exact sends_nothing rfl rfl
  | respond index =>
      dsimp only [systemMachine, System.respond]
      split
      · exact sends_nothing rfl rfl
      · split
        · exact sends_succeed index _
        · exact sends_fail index _
        · exact sends_nothing rfl rfl
  | lose index =>
      dsimp only [systemMachine, System.lose]
      split
      · exact sends_nothing rfl rfl
      · exact sends_fail index _
  | complete index draftId =>
      dsimp only [systemMachine, System.complete]
      split
      · exact sends_nothing rfl rfl
      · exact sends_syncNext index _
      · -- Deleting the draft sends nothing; going on with the rest may send its next one
        rename_i draft rest _
        obtain ⟨created, extra, messages, few⟩ := @sends_syncNext (s.delete draft.id) index rest
        exact ⟨created, extra, messages, few⟩
      · exact sends_nothing rfl rfl
      · exact sends_nothing rfl rfl
      · exact sends_nothing rfl rfl
      · exact sends_nothing rfl rfl

/-- A request for a form without any is the only one. -/
theorem System.AtMostOne.sends {t : System} (single : s.AtMostOne) (sends : Sends s t)
    (once
      : ∀ message ∈ t.messages.drop s.messages.length,
          s.requests message.form = 0 ∧ s.underWay message.form = 0)
    : t.AtMostOne := by
  intro form
  obtain ⟨created, extra, messages, few⟩ := sends
  rw [messages, List.drop_left] at once
  have bound := single form
  rw [System.requests, System.underWay] at bound ⊢
  rw [created, messages, List.countP_append]
  rcases extra with _ | ⟨message, _ | ⟨_, _⟩⟩
  · exact bound
  · rw [List.countP_singleton]
    split
    · -- A request for the form itself: there was none
      rename_i forForm
      have same : message.form = form := (of_decide_eq_true forForm).1
      have unused := once message List.mem_cons_self
      rw [same, System.requests, System.underWay] at unused
      omega
    · exact bound
  · simp at few

/-- The delivery of a request leaves the form with at most one. -/
theorem System.AtMostOne.deliver (single : s.AtMostOne) (index : Nat) (draw : SubmitDraw)
    : (s.deliver index draw).AtMostOne := by
  unfold System.deliver
  split
  · rename_i form payload found
    obtain ⟨inside, value⟩ := List.getElem?_eq_some_iff.mp found
    -- The request is no longer under way, whatever the answer
    have arrives (answer : Bool) (other : Nat)
        : (s.messages.set index ⟨form, payload, some answer⟩).countP
              (fun message => message.form = other ∧ message.answer = none)
            + (if form = other then 1 else 0)
          = s.underWay other := by
      have counted :=
        List.boole_getElem_le_countP
          (p := fun message : Message => decide (message.form = other ∧ message.answer = none))
          inside
      rw [List.countP_set inside, System.underWay]
      rw [value] at counted ⊢
      simp only [and_true, decide_eq_true_eq, reduceCtorEq, and_false, decide_false,
        Bool.false_eq_true, if_false, Nat.add_zero] at counted ⊢
      exact Nat.sub_add_cancel counted
    split
    · intro other
      have bound := single other
      have moved := arrives true other
      rw [System.requests, System.underWay, List.countP_append, List.countP_singleton]
      rw [System.requests] at bound
      simp only [decide_eq_true_eq] at moved ⊢
      omega
    · intro other
      have bound := single other
      have moved := arrives false other
      rw [System.requests, System.underWay]
      rw [System.requests] at bound
      simp only at moved ⊢
      omega
  · exact single

end Sending

/-- Single requests stay single as long as no step sends another one for a form in use. -/
theorem step_single (s : System) (step : SystemStep) (single : s.AtMostOne)
    (once : step.SendsOnce s)
    : (systemMachine.step s step).2.AtMostOne := by
  by_cases delivers : ∃ index draw, step = .deliver index draw
  · obtain ⟨index, draw, rfl⟩ := delivers
    exact single.deliver index draw
  · have other (index : Nat) (draw : SubmitDraw) : step ≠ .deliver index draw :=
      fun same => delivers ⟨index, draw, same⟩
    exact single.sends (step_sends other) once

/-- In every run in which new drafts get new identifiers, a draft that is no longer in the
database was accepted by the service or discarded by the user. Where besides no request is sent
for a form that has one under way or has been accepted, every form leads to one approval request
at most.
-/
theorem drafts_delivered (evaluator : ApprovalPolicyEvaluator) {steps : List SystemStep}
    (fresh : systemMachine.Admits SystemStep.Fresh (.initial evaluator) steps)
    : (∀ draft ∈ (systemMachine.exec (.initial evaluator) steps).saved,
        draft ∈ (systemMachine.exec (.initial evaluator) steps).store
        ∨ (systemMachine.exec (.initial evaluator) steps).Created draft.form
        ∨ draft.id ∈ (systemMachine.exec (.initial evaluator) steps).discarded)
      ∧ (systemMachine.Admits SystemStep.SendsOnce (.initial evaluator) steps
        → ∀ form, (systemMachine.exec (.initial evaluator) steps).requests form ≤ 1) := by
  constructor
  · exact (systemMachine.exec_invariant step_explained (initial_explained evaluator) fresh).kept
  · intro once form
    have start : (System.initial evaluator).AtMostOne := fun _ => Nat.zero_le _
    have single := systemMachine.exec_invariant step_single start once
    exact (Nat.le_add_right _ _).trans (single form)

section Sample

def taxi : ExpenseForm := ⟨"acme", "dana", 250000, "USD", "Taxi", "Cab Co", false⟩

def moment (number : Nat) : SubmitDraw :=
  ⟨⟨number⟩, 1, 2, ⟨⟨number + 100⟩, 3, 4⟩, ⟨⟨number + 200⟩, 5, 6⟩⟩

/-- An expense is confirmed without a network, and its draft is synced and deleted. -/
def syncedDraft : List SystemStep :=
  [.goOffline, .confirm taxi, .complete 0 "draft_1", .goOnline, .complete 1 "",
    .deliver 0 (moment 1), .respond 1, .complete 1 ""]

/-- An expense is submitted and accepted, the answer is lost, and the draft that is saved then is
synced.
-/
def lostAnswer : List SystemStep :=
  [.confirm taxi, .deliver 0 (moment 1), .lose 0, .complete 0 "draft_1", .syncAll, .complete 1 "",
    .deliver 1 (moment 2)]

theorem drafts_delivered_sample
    : (systemMachine.exec (.initial ⟨defaultPettyflowPolicy⟩) syncedDraft).requests 0 ≤ 1 :=
  (drafts_delivered ⟨defaultPettyflowPolicy⟩ (by decide +kernel : systemMachine.Admits
    SystemStep.Fresh (.initial ⟨defaultPettyflowPolicy⟩) syncedDraft)).2 (by decide +kernel) 0

/-- Two approval requests for one form. -/
theorem lost_answer_creates_twice
    : (systemMachine.exec (.initial ⟨defaultPettyflowPolicy⟩) lostAnswer).requests 0 = 2
      ∧ ((systemMachine.exec (.initial ⟨defaultPettyflowPolicy⟩)
          lostAnswer).service.requests.entries.map (fun entry => entry.2.amountScaled))
        = [250000, 250000] := by
  decide +kernel

end Sample

end PettyFlow.Frontend
