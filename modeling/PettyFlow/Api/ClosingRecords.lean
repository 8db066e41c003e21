import PettyFlow.Api.ReconciliationRouter
import PettyFlow.Foundation.Filings
import PettyFlow.Foundation.RecordMakers
import PettyFlow.Foundation.TwoRuns

/-! Runs of the reconciliation router: what is filed and signed after them, and what tenants notice
of each other.
-/

namespace PettyFlow.Api

open Foundation Ledger PettyFlow.Reconciliation

section Records

variable (m : ReconciliationMatcher) (a : VarianceAnalyzer)

/-- The closing that a call makes, if it makes one. -/
def ClosingCall.closed? : ClosingCall → Option ClosingResponse
  | .submitDailyClosing draws request => (closing m a draws request).toOption
  | _ => none

/-- The closings that calls make, in order. -/
def closedIn (calls : List ClosingCall) : List ClosingResponse := calls.filterMap (·.closed? m a)

/-- What calls file. -/
def filings (calls : List ClosingCall) : List (String × ClosingResponse) :=
  (closedIn m a calls).map (fun r => (r.id, r))

/-- The last closing that calls have made under an identifier. -/
def lastClosed (id : String) (calls : List ClosingCall) : Option ClosingResponse :=
  Dict.lastOf id (filings m a calls)

/-- The signature that a call gives to a closing of a tenant. -/
def ClosingCall.signature? (id tenantId : String) : ClosingCall → Option SignatureRecord
  | .signOff now request =>
      if request.reconciliationId = id ∧ request.tenantId = tenantId then
        some (request.record now)
      else
        none
  | _ => none

/-- The signatures that calls of a tenant have given to an identifier since it was filed last. -/
def signedSince (id tenantId : String) (calls : List ClosingCall) : List SignatureRecord :=
  (calls.rtakeWhile (fun call => (call.closed? m a).all (·.id ≠ id))).filterMap
    (·.signature? id tenantId)

/-- The history and the signatures are those that calls have filed and given. -/
structure Records (s : ReconciliationRouter) (calls : List ClosingCall) : Prop where
  history : s.history = Dict.empty.fileAll (filings m a calls)
  signoffs
    : ∀ id,
        s.signoffs.get? id
        = (lastClosed m a id calls).map (fun r => signedSince m a id r.tenantId calls)

/-- The answer to a sign-off after some calls. -/
def signOffAnswer (past : List ClosingCall) (now : Instant) (request : SignOffRequest)
    : Except (EndpointError LedgerError) ClosingAnswer :=
  match lastClosed m a request.reconciliationId past with
  | none => .error (notFound request.reconciliationId)
  | some closed =>
      if request.tenantId = closed.tenantId then
        let earlier := signedSince m a request.reconciliationId closed.tenantId past
        .ok (.signed ⟨request.reconciliationId, "SIGNED", earlier.length + 1,
          earlier ++ [request.record now]⟩)
      else
        .error (boundaryViolation closed.tenantId request.tenantId)

/-- The records that are listed for a tenant after some calls: of each identifier the last closing,
at the place of the first one.
-/
def listedFor (tenantId : String) (past : List ClosingCall) : List ClosingResponse :=
  (((filings m a past).map Prod.fst).eraseDups.filterMap (lastClosed m a · past)).filter
    (fun r => r.tenantId = tenantId)

variable {m a}

/-! ### Step by step -/

section Steps

variable {s : ReconciliationRouter} {past : List ClosingCall}

theorem filings_concat (calls : List ClosingCall) (call : ClosingCall)
    : filings m a (calls ++ [call])
      = filings m a calls ++ ((call.closed? m a).map (fun r => (r.id, r))).toList := by
  rw [filings, closedIn, List.filterMap_append, List.map_append]
  cases made : call.closed? m a <;> simp [filings, closedIn, made]

theorem closed?_of_ok {draws : ClosingDraws} {request : DailyClosingRequest}
    {response : ClosingResponse} (closed : closing m a draws request = .ok response)
    : (ClosingCall.submitDailyClosing draws request).closed? m a = some response := by
  rw [ClosingCall.closed?, closed]
  rfl

theorem closed?_of_error {draws : ClosingDraws} {request : DailyClosingRequest}
    {error : EndpointError LedgerError} (rejected : closing m a draws request = .error error)
    : (ClosingCall.submitDailyClosing draws request).closed? m a = none := by
  rw [ClosingCall.closed?, rejected]
  rfl

/-- A call that makes no closing keeps the signatures and adds its own. -/
theorem signedSince_unfiled (id tenantId : String) {call : ClosingCall}
    (unfiled : call.closed? m a = none)
    : signedSince m a id tenantId (past ++ [call])
      = signedSince m a id tenantId past ++ (call.signature? id tenantId).toList := by
  rw [signedSince, List.rtakeWhile_concat_pos _ _ _ (by rw [unfiled]; rfl), List.filterMap_append,
    ← signedSince]
  cases given : call.signature? id tenantId <;> simp [given]

/-- A closing under an identifier takes its signatures away. -/
theorem signedSince_filed {id tenantId : String} {call : ClosingCall} {response : ClosingResponse}
    (filed : call.closed? m a = some response) (same : response.id = id)
    : signedSince m a id tenantId (past ++ [call]) = [] := by
  rw [signedSince, List.rtakeWhile_concat_neg _ _ _ (by simp [filed, same]), List.filterMap_nil]

/-- A closing under another identifier leaves them. -/
theorem signedSince_other {id tenantId : String} {draws : ClosingDraws}
    {request : DailyClosingRequest} {response : ClosingResponse}
    (filed : closing m a draws request = .ok response) (other : response.id ≠ id)
    : signedSince m a id tenantId (past ++ [.submitDailyClosing draws request])
      = signedSince m a id tenantId past := by
  rw [signedSince, List.rtakeWhile_concat_pos _ _ _ (by simp [closed?_of_ok filed, other]),
    List.filterMap_append, ← signedSince]
  simp [ClosingCall.signature?]

theorem lastClosed_concat (id : String) (calls : List ClosingCall) (call : ClosingCall)
    : lastClosed m a id (calls ++ [call])
      = match call.closed? m a with
        | none => lastClosed m a id calls
        | some r => if r.id = id then some r else lastClosed m a id calls := by
  rw [lastClosed, filings_concat]
  cases made : call.closed? m a with
  | none => simp [lastClosed]
  | some r => exact Dict.lastOf_concat id _ (r.id, r)

theorem Records.get?_history (records : Records m a s past) (id : String)
    : s.history.get? id = lastClosed m a id past := by
  rw [records.history, Dict.get?_fileAll, lastClosed]

/-- A closing is filed without signatures. -/
theorem Records.file (records : Records m a s past) {draws : ClosingDraws}
    {request : DailyClosingRequest} {response : ClosingResponse}
    (closed : closing m a draws request = .ok response)
    : Records m a (s.file response) (past ++ [.submitDailyClosing draws request]) where
  history := by
    rw [filings_concat, closed?_of_ok closed]
    exact (congrArg (·.set response.id response) records.history).trans
      (Dict.fileAll_concat _ _ (response.id, response)).symm
  signoffs id := by
    rw [ReconciliationRouter.file, Dict.get?_set, lastClosed_concat, closed?_of_ok closed]
    by_cases same : response.id = id
    · rw [if_pos same]
      dsimp only
      rw [if_pos same, Option.map_some, signedSince_filed (closed?_of_ok closed) same]
    · rw [if_neg same, records.signoffs]
      dsimp only
      rw [if_neg same]
      simp only [signedSince_other closed same]

/-- A call that makes no closing and signs none leaves the records. -/
theorem Records.unchanged (records : Records m a s past) {call : ClosingCall}
    (unfiled : call.closed? m a = none)
    (unsigned
      : ∀ id r, lastClosed m a id past = some r → call.signature? id r.tenantId = none)
    : Records m a s (past ++ [call]) where
  history := by
    rw [filings_concat, unfiled]
    simpa using records.history
  signoffs id := by
    rw [lastClosed_concat, unfiled, records.signoffs]
    cases found : lastClosed m a id past with
    | none => rfl
    | some r => simp [signedSince_unfiled id _ unfiled, unsigned id r found]

/-- A sign-off is answered as the calls before it say, and its signature is kept. -/
theorem Records.signOff (records : Records m a s past) (now : Instant) (request : SignOffRequest)
    : ((closingMachine m a).step s (.signOff now request)).1 = signOffAnswer m a past now request
      ∧ Records m a ((closingMachine m a).step s (.signOff now request)).2
          (past ++ [.signOff now request]) := by
  have unfiled : (ClosingCall.signOff now request).closed? m a = none := rfl
  cases s.signOff_outcome now request with
  | unknown missing answer =>
      rw [records.get?_history] at missing
      rw [step_signOff, answer]
      constructor
      · rw [signOffAnswer, missing]
        rfl
      · refine records.unchanged unfiled (fun id r found => if_neg (fun same => ?_))
        rw [← same.1, missing] at found
        cases found
  | foreign response filed other answer =>
      rw [records.get?_history] at filed
      rw [step_signOff, answer]
      constructor
      · rw [signOffAnswer, filed]
        exact (if_neg other).symm
      · refine records.unchanged unfiled (fun id r found => if_neg (fun same => ?_))
        rw [← same.1, filed] at found
        exact other (same.2.trans (congrArg ClosingResponse.tenantId (Option.some.inj found)).symm)
  | signed response earlier filed own signatures answer history signoffs =>
      rw [records.get?_history] at filed
      have given : earlier = signedSince m a request.reconciliationId response.tenantId past := by
        have kept := records.signoffs request.reconciliationId
        rw [signatures, filed] at kept
        exact Option.some.inj kept
      subst given
      constructor
      · rw [signOffAnswer, filed]
        dsimp only
        rw [if_pos own]
        exact congrArg (Except.map ClosingAnswer.signed) answer
      · refine ⟨?_, fun id => ?_⟩
        · rw [filings_concat, unfiled]
          exact history.trans (records.history.trans (by simp))
        · refine (congrArg (Dict.get? · id) signoffs).trans ?_
          rw [Dict.get?_set, lastClosed_concat, unfiled]
          dsimp only
          by_cases same : request.reconciliationId = id
          · subst same
            rw [if_pos rfl, filed, Option.map_some, signedSince_unfiled _ _ unfiled]
            simp [ClosingCall.signature?, own]
          · rw [if_neg same, records.signoffs]
            simp [signedSince_unfiled id _ unfiled, ClosingCall.signature?, same]

theorem Records.getHistory (records : Records m a s past) (tenantId : String)
    : s.getHistory tenantId
      = ⟨tenantId, (listedFor m a tenantId past).length, listedFor m a tenantId past⟩ := by
  rw [ReconciliationRouter.getHistory, records.history, Dict.values_fileAll]
  rfl

/-- Where closings draw different identifiers, all closings of the tenant are listed as they were
made.
-/
theorem listedFor_of_nodup (different : ((closedIn m a past).map ClosingResponse.id).Nodup)
    (tenantId : String)
    : listedFor m a tenantId past
      = (closedIn m a past).filter (fun r => decide (r.tenantId = tenantId)) := by
  have keys : ((filings m a past).map Prod.fst).Nodup := by
    rw [filings, List.map_map]
    exact different
  have values : (filings m a past).map Prod.snd = closedIn m a past := by
    rw [filings, List.map_map]
    exact List.map_id _
  unfold listedFor lastClosed
  rw [← Dict.values_fileAll, Dict.entries_fileAll keys, values]

end Steps

/-! ### Runs -/

/-- Every run leaves what its calls have filed and signed, by induction from its end. -/
theorem records_exec (calls : List ClosingCall)
    : Records m a ((closingMachine m a).exec .new calls) calls := by
  induction calls using List.reverseRecOn with
  | nil => exact ⟨rfl, fun _ => rfl⟩
  | append_singleton calls call ih =>
      rw [Machine.exec_concat]
      cases call with
      | submitDailyClosing draws request =>
          cases closed : closing m a draws request with
          | error error =>
              rw [step_closing_error closed]
              exact ih.unchanged (closed?_of_error closed) (fun _ _ _ => rfl)
          | ok response =>
              rw [step_closing_ok closed]
              exact ih.file closed
      | signOff now request => exact (ih.signOff now request).2
      | getHistory tenantId => exact ih.unchanged rfl (fun _ _ _ => rfl)

/-- After every run a sign-off is answered by the last closing that was made under its identifier:
it is unknown without one, it is rejected for a closing of another tenant, and otherwise returns the
signatures that the tenant has given since that closing, and its own. A listing has the last closing
of each identifier, at the place of the first one: all closings of the tenant in order, where they
have drawn different identifiers.
-/
theorem closings_signed_and_listed (past : List ClosingCall)
    : (∀ now request,
        ((closingMachine m a).step ((closingMachine m a).exec .new past) (.signOff now request)).1
        = signOffAnswer m a past now request)
      ∧ (∀ tenantId,
          ((closingMachine m a).step ((closingMachine m a).exec .new past)
            (.getHistory tenantId)).1
          = .ok (.listed ⟨tenantId, (listedFor m a tenantId past).length,
              listedFor m a tenantId past⟩))
      ∧ (((closedIn m a past).map ClosingResponse.id).Nodup
        → ∀ tenantId,
            listedFor m a tenantId past
            = (closedIn m a past).filter (fun r => decide (r.tenantId = tenantId))) := by
  refine ⟨fun now request => ((records_exec past).signOff now request).1, fun tenantId => ?_,
    listedFor_of_nodup⟩
  exact congrArg (fun response => Except.ok (ClosingAnswer.listed response))
    ((records_exec past).getHistory tenantId)

end Records

/-! ### Tenants -/

/-- The tenant that a call names. -/
def ClosingCall.tenantId : ClosingCall → String
  | .submitDailyClosing _ request => request.tenantId
  | .signOff _ request => request.tenantId
  | .getHistory tenantId => tenantId

def ClosingCall.For (tenant : String) (call : ClosingCall) : Prop := call.tenantId = tenant

instance (tenant : String) (call : ClosingCall) : Decidable (call.For tenant) :=
  inferInstanceAs (Decidable (call.tenantId = tenant))

/-- The runs with and without the calls of other tenants. -/
abbrev closingRuns (m : ReconciliationMatcher) (a : VarianceAnalyzer) (tenant : String) :=
  (closingMachine m a).twoRuns (ClosingCall.For tenant) (fun (_ : Unit) _ _ => ())

/-- A router that has the closings of one tenant in another router, with their signatures. -/
structure OwnPart (tenant : String) (s t : ReconciliationRouter) : Prop where
  history : t.history = s.history.filter (fun _ r => decide (r.tenantId = tenant))
  signoffs : ∀ id, (t.history.get? id).isSome = true → t.signoffs.get? id = s.signoffs.get? id

/-- What a call draws is not filed yet. -/
def Unfiled (m : ReconciliationMatcher) (a : VarianceAnalyzer) (s : ReconciliationRouter)
    (call : ClosingCall)
    : Prop :=
  ∀ r ∈ call.closed? m a, s.history.get? r.id = none

/-- A sign-off of the tenant names no closing of another one. -/
def NamesOwn (tenant : String) (s : ReconciliationRouter) (call : ClosingCall) : Prop :=
  ∀ now request,
    call = .signOff now request
    → call.For tenant
    → ∀ r, s.history.get? request.reconciliationId = some r → r.tenantId = tenant

namespace OwnPart

variable {m : ReconciliationMatcher} {a : VarianceAnalyzer} {tenant : String}
  {s t : ReconciliationRouter}

theorem get?_history (own : OwnPart tenant s t) (id : String)
    : t.history.get? id = (s.history.get? id).filter (fun r => decide (r.tenantId = tenant)) := by
  rw [own.history, Dict.get?_filter]

theorem get?_own (own : OwnPart tenant s t) {id : String} {r : ClosingResponse}
    (found : s.history.get? id = some r) (owned : r.tenantId = tenant)
    : t.history.get? id = some r := by
  rw [own.get?_history, found, Option.filter_some, if_pos (decide_eq_true owned)]

theorem get?_foreign (own : OwnPart tenant s t) {id : String} {r : ClosingResponse}
    (found : s.history.get? id = some r) (other : r.tenantId ≠ tenant)
    : t.history.get? id = none := by
  rw [own.get?_history, found, Option.filter_some, if_neg (by simpa using other)]

theorem get?_none (own : OwnPart tenant s t) {id : String} (missing : s.history.get? id = none)
    : t.history.get? id = none := by
  rw [own.get?_history, missing]
  rfl

/-- A closing of the tenant under a new identifier is filed in both. -/
theorem file_both (own : OwnPart tenant s t) {response : ClosingResponse}
    (owned : response.tenantId = tenant) (new : s.history.get? response.id = none)
    : OwnPart tenant (s.file response) (t.file response) where
  history := by
    apply Dict.ext
    change (t.history.set response.id response).entries
      = (s.history.set response.id response).entries.filter _
    rw [Dict.entries_set_new _ _ new, Dict.entries_set_new _ _ (own.get?_none new),
      List.filter_append, own.history]
    simp [Dict.filter, owned]
  signoffs id present := by
    change (t.signoffs.set response.id []).get? id = (s.signoffs.set response.id []).get? id
    change ((t.history.set response.id response).get? id).isSome = true at present
    rw [Dict.get?_set] at present
    rw [Dict.get?_set, Dict.get?_set]
    split
    · rfl
    · rename_i other
      rw [if_neg other] at present
      exact own.signoffs id present

/-- A closing of another tenant under a new identifier does not matter. -/
theorem file_foreign (own : OwnPart tenant s t) {response : ClosingResponse}
    (other : response.tenantId ≠ tenant) (new : s.history.get? response.id = none)
    : OwnPart tenant (s.file response) t where
  history := by
    apply Dict.ext
    change t.history.entries = (s.history.set response.id response).entries.filter _
    rw [Dict.entries_set_new _ _ new, List.filter_append, own.history]
    simp [Dict.filter, other]
  signoffs id present := by
    change t.signoffs.get? id = (s.signoffs.set response.id []).get? id
    have different : response.id ≠ id := by
      intro same
      rw [← same, own.get?_none new] at present
      cases present
    rw [Dict.get?_set_ne _ _ different]
    exact own.signoffs id present

/-- Both routers put the same signatures in place of those of a closing. -/
theorem sign_both (own : OwnPart tenant s t) {s' t' : ReconciliationRouter} {id : String}
    {signatures : List SignatureRecord} (history : s'.history = s.history)
    (history' : t'.history = t.history) (signoffs : s'.signoffs = s.signoffs.set id signatures)
    (signoffs' : t'.signoffs = t.signoffs.set id signatures)
    : OwnPart tenant s' t' where
  history := by rw [history, history', own.history]
  signoffs other present := by
    rw [history'] at present
    rw [signoffs, signoffs', Dict.get?_set, Dict.get?_set]
    split
    · rfl
    · exact own.signoffs other present

/-- Signatures of a closing of another tenant do not matter. -/
theorem sign_foreign (own : OwnPart tenant s t) {s' : ReconciliationRouter} {id : String}
    {signatures : List SignatureRecord} (absent : t.history.get? id = none)
    (history : s'.history = s.history) (signoffs : s'.signoffs = s.signoffs.set id signatures)
    : OwnPart tenant s' t where
  history := by rw [history, own.history]
  signoffs other present := by
    have different : id ≠ other := by
      intro same
      rw [← same, absent] at present
      cases present
    rw [signoffs, Dict.get?_set_ne _ _ different]
    exact own.signoffs other present

/-- A sign-off of the tenant is answered alike exactly if it names no closing of another tenant. -/
theorem signOff_own (own : OwnPart tenant s t) (now : Instant) {request : SignOffRequest}
    (mine : request.tenantId = tenant)
    : ((s.signOffReconciliation now request).1 = (t.signOffReconciliation now request).1
        ↔ ∀ r, s.history.get? request.reconciliationId = some r → r.tenantId = tenant)
      ∧ ((∀ r, s.history.get? request.reconciliationId = some r → r.tenantId = tenant)
        → OwnPart tenant (s.signOffReconciliation now request).2
            (t.signOffReconciliation now request).2) := by
  cases s.signOff_outcome now request with
  | unknown missing answer =>
      cases t.signOff_outcome now request with
      | unknown missing' answer' =>
          rw [answer, answer', missing]
          exact ⟨by simp, fun _ => own⟩
      | foreign response filed other answer' => cases (own.get?_none missing).symm.trans filed
      | signed response earlier filed => cases (own.get?_none missing).symm.trans filed
  | foreign response filed other answer =>
      -- With the other tenant's closing the answer tells of it, and without it is unknown
      have absent := own.get?_foreign filed (fun owned => other (mine.trans owned.symm))
      have broken
          : ¬ ∀ r, s.history.get? request.reconciliationId = some r → r.tenantId = tenant :=
        fun all => other (mine.trans (all response filed).symm)
      cases t.signOff_outcome now request with
      | unknown missing' answer' =>
          rw [answer, answer']
          exact ⟨iff_of_false (by simp [notFound, boundaryViolation]) broken,
            fun all => absurd all broken⟩
      | foreign response' filed' => cases absent.symm.trans filed'
      | signed response' earlier' filed' => cases absent.symm.trans filed'
  | signed response earlier filed owned signatures answer history signoffs =>
      have present := own.get?_own filed (owned.symm.trans mine)
      have alone : t.signoffs.get? request.reconciliationId = some earlier := by
        rw [own.signoffs _ (by rw [present]; rfl), signatures]
      have all : ∀ r, s.history.get? request.reconciliationId = some r → r.tenantId = tenant := by
        intro r found
        obtain rfl := Option.some.inj (filed.symm.trans found)
        exact owned.symm.trans mine
      cases t.signOff_outcome now request with
      | unknown missing' => cases present.symm.trans missing'
      | foreign response' filed' other' =>
          obtain rfl := Option.some.inj (present.symm.trans filed')
          exact absurd owned other'
      | signed response' earlier' filed' owned' signatures' answer' history' signoffs' =>
          obtain rfl := Option.some.inj (alone.symm.trans signatures')
          rw [answer, answer']
          exact ⟨iff_of_true rfl all, fun _ => own.sign_both history history' signoffs signoffs'⟩

/-- A sign-off of another tenant does not matter. -/
theorem signOff_foreign (own : OwnPart tenant s t) (now : Instant) {request : SignOffRequest}
    (other : request.tenantId ≠ tenant)
    : OwnPart tenant (s.signOffReconciliation now request).2 t := by
  cases s.signOff_outcome now request with
  | unknown missing answer =>
      rw [answer]
      exact own
  | foreign response filed different answer =>
      rw [answer]
      exact own
  | signed response earlier filed owned signatures answer history signoffs =>
      exact own.sign_foreign (own.get?_foreign filed (fun mine => other (owned.trans mine))) history
        signoffs

theorem getHistory (own : OwnPart tenant s t) : s.getHistory tenant = t.getHistory tenant := by
  have records
      : (s.history.entries.map Prod.snd).filter (fun r => decide (r.tenantId = tenant))
        = (t.history.entries.map Prod.snd).filter (fun r => decide (r.tenantId = tenant)) := by
    rw [own.history, List.filter_map, List.filter_map]
    refine congrArg (List.map Prod.snd) ?_
    refine ((List.filter_filter).trans (List.filter_congr (fun entry _ => ?_))).symm
    simp
  rw [ReconciliationRouter.getHistory, ReconciliationRouter.getHistory, records]

/-- A call of another tenant does not matter. -/
theorem step_foreign (own : OwnPart tenant s t) {call : ClosingCall} (other : ¬ call.For tenant)
    (unfiled : Unfiled m a s call)
    : OwnPart tenant ((closingMachine m a).step s call).2 t := by
  cases call with
  | submitDailyClosing draws request =>
      cases closed : closing m a draws request with
      | error error =>
          rw [step_closing_error closed]
          exact own
      | ok response =>
          have different : response.tenantId ≠ tenant := by
            rw [(closing_ok closed).2]
            exact other
          rw [step_closing_ok closed]
          exact own.file_foreign different (unfiled response (closed?_of_ok closed))
  | signOff now request => exact own.signOff_foreign now other
  | getHistory tenantId => exact own

theorem map_signed_inj {first second : Except (EndpointError LedgerError) SignOffResponse}
    : first.map ClosingAnswer.signed = second.map ClosingAnswer.signed ↔ first = second := by
  cases first <;> cases second <;> simp [Except.map]

/-- A call of the tenant is answered alike exactly if it names no closing of another tenant. -/
theorem step_own (own : OwnPart tenant s t) {call : ClosingCall} (mine : call.For tenant)
    (unfiled : Unfiled m a s call)
    : (((closingMachine m a).step s call).1 = ((closingMachine m a).step t call).1
        ↔ NamesOwn tenant s call)
      ∧ (NamesOwn tenant s call
        → OwnPart tenant ((closingMachine m a).step s call).2
            ((closingMachine m a).step t call).2) := by
  cases call with
  | submitDailyClosing draws request =>
      have names : NamesOwn tenant s (.submitDailyClosing draws request) := by
        intro now other same
        cases same
      cases closed : closing m a draws request with
      | error error =>
          rw [step_closing_error closed, step_closing_error closed]
          exact ⟨iff_of_true rfl names, fun _ => own⟩
      | ok response =>
          have owned : response.tenantId = tenant := (closing_ok closed).2.trans mine
          rw [step_closing_ok closed, step_closing_ok closed]
          exact ⟨iff_of_true rfl names,
            fun _ => own.file_both owned (unfiled response (closed?_of_ok closed))⟩
  | signOff now request =>
      obtain ⟨same, next⟩ := own.signOff_own now mine
      have names
          : NamesOwn tenant s (.signOff now request)
            ↔ ∀ r, s.history.get? request.reconciliationId = some r → r.tenantId = tenant := by
        constructor
        · exact fun names => names now request rfl mine
        · rintro all _ _ ⟨⟩ _
          exact all
      rw [names, ← same, step_signOff, step_signOff]
      exact ⟨map_signed_inj, fun equal => next (same.mp equal)⟩
  | getHistory tenantId =>
      obtain rfl : tenantId = tenant := mine
      have names : NamesOwn tenantId s (.getHistory tenantId) := by
        intro now other same
        cases same
      refine ⟨iff_of_true ?_ names, fun _ => own⟩
      exact congrArg (fun response => Except.ok (ClosingAnswer.listed response)) own.getHistory

end OwnPart

section Isolation

variable {m : ReconciliationMatcher} {a : VarianceAnalyzer}

/-- Where closings draw different identifiers, none of them is filed when it is drawn. -/
theorem unfiled_of_nodup {calls : List ClosingCall}
    (different : ((closedIn m a calls).map ClosingResponse.id).Nodup)
    {before after : List ClosingCall} {call : ClosingCall} (split : calls = before ++ call :: after)
    : Unfiled m a ((closingMachine m a).exec .new before) call := by
  intro r made
  rw [(records_exec before).get?_history, lastClosed, ← Dict.get?_fileAll,
    ← Option.not_isSome_iff_eq_none, ← Dict.mem_keys_iff, Dict.keys_fileAll, List.mem_eraseDups,
    filings, List.map_map]
  intro listed
  have here : closedIn m a (call :: after) = r :: closedIn m a after :=
    List.filterMap_cons_some made
  rw [split, closedIn, List.filterMap_append, ← closedIn, ← closedIn, here, List.map_append,
    List.map_cons] at different
  exact (List.nodup_append.mp different).2.2 _ listed _ List.mem_cons_self rfl

/-- The last closing under an identifier is one that was made under it. -/
theorem mem_of_lastClosed {id : String} {calls : List ClosingCall} {r : ClosingResponse}
    (found : lastClosed m a id calls = some r)
    : r ∈ closedIn m a calls ∧ r.id = id := by
  obtain ⟨pair, first, rfl⟩ := Option.map_eq_some_iff.mp found
  have member := List.mem_reverse.mp (List.mem_of_find?_eq_some first)
  have named : pair.1 = id := by simpa using List.find?_some first
  obtain ⟨made, listed, rfl⟩ := List.mem_map.mp member
  exact ⟨listed, named⟩

/-- Where closings draw different identifiers, each of them is the last under its own. -/
theorem lastClosed_of_nodup {calls : List ClosingCall}
    (different : ((closedIn m a calls).map ClosingResponse.id).Nodup) {r : ClosingResponse}
    (member : r ∈ closedIn m a calls) {id : String} (named : r.id = id)
    : lastClosed m a id calls = some r := by
  have keys : ((filings m a calls).map Prod.fst).Nodup := by
    rw [filings, List.map_map]
    exact different
  rw [lastClosed, ← Dict.get?_fileAll, ← Dict.mem_entries_iff, Dict.entries_fileAll keys, ← named]
  exact List.mem_map_of_mem member

theorem nodup_before {calls : List ClosingCall}
    (different : ((closedIn m a calls).map ClosingResponse.id).Nodup)
    {before after : List ClosingCall} (split : calls = before ++ after)
    : ((closedIn m a before).map ClosingResponse.id).Nodup := by
  rw [split, closedIn, List.filterMap_append, List.map_append] at different
  exact (List.nodup_append.mp different).1

/-- Where closings draw different identifiers, the calls of a tenant get the answers that they get
without the calls of all other tenants, exactly if none of its sign-offs names a closing that
another tenant has made before.
-/
theorem closing_tenants_isolated_iff (tenant : String) (calls : List ClosingCall)
    (different : ((closedIn m a calls).map ClosingResponse.id).Nodup)
    : (closingMachine m a).ownOutputs (ClosingCall.For tenant) .new calls
        = (closingMachine m a).ownOutputs (ClosingCall.For tenant) .new
            (calls.filter (ClosingCall.For tenant))
      ↔ ∀ before now request after,
          calls = before ++ .signOff now request :: after
          → request.tenantId = tenant
          → ∀ r ∈ closedIn m a before, r.id = request.reconciliationId → r.tenantId = tenant := by
  have all
      : (closingRuns m a tenant).Admits (fun runs call => Unfiled m a runs.mixed call)
          ⟨.new, .new, ()⟩ calls := by
    rw [Machine.admits_mixed_iff, Machine.admits_iff_splits]
    exact fun before call after split => unfiled_of_nodup different split
  have start : OwnPart tenant .new .new := ⟨rfl, fun _ _ => rfl⟩
  have isolated := @Machine.ownOutputs_eq_iff_of_admits _ _ _ _ (closingMachine m a)
    (ClosingCall.For tenant) _ (fun (_ : Unit) _ _ => ())
    (fun runs => OwnPart tenant runs.mixed runs.alone)
    (fun runs call => Unfiled m a runs.mixed call)
    (fun runs call => NamesOwn tenant runs.mixed call)
    (fun runs call own other unfiled => by
      rw [Machine.twoRuns_foreign other]
      exact ⟨fun _ _ _ mine => absurd mine other, own.step_foreign other unfiled⟩)
    (fun runs call own mine unfiled => (own.step_own mine unfiled).1)
    (fun runs call own mine unfiled names => by
      rw [Machine.twoRuns_own mine]
      exact (own.step_own mine unfiled).2 names)
    ⟨.new, .new, ()⟩ start calls all
  rw [isolated, Machine.admits_mixed_iff, Machine.admits_iff_splits]
  constructor
  · intro names before now request after split mine r member same
    refine names before (.signOff now request) after split now request rfl mine r ?_
    rw [(records_exec before).get?_history]
    exact lastClosed_of_nodup (nodup_before different split) member same
  · rintro names before _ after split now request rfl mine r found
    rw [(records_exec before).get?_history] at found
    obtain ⟨member, same⟩ := mem_of_lastClosed found
    exact names before now request after split mine r member same

end Isolation

section Sample

/-- Five hundred dollars are counted and expected. -/
def balancedClosing : DailyClosingRequest where
  tenantId := "acme"
  fundId := "FUND-01"
  fundAccountId := "ACC_FUND_001"
  denominations := ⟨⟨5, 0, 0, 0, 0, 0, 0, 0, 0, 0, 0⟩, by decide⟩
  openingFloatScaled := 5000000
  totalDisbursedScaled := 0
  totalReplenishedScaled := 0
  bankClearedReplenishmentsScaled := none
  notNegative := by decide

/-- A closing that another tenant tries to sign off. -/
def strangeSignOff : List ClosingCall :=
  [
    .submitDailyClosing ⟨⟨⟨7⟩, ⟨0⟩⟩, ⟨⟨8⟩, ⟨0⟩⟩, ⟨⟨9⟩, ⟨0⟩⟩⟩ balancedClosing,
    .signOff ⟨1⟩ ⟨"globex", "REC-000000000000", "eve", "CUSTODIAN", none⟩, .getHistory "globex"
  ]

theorem closing_tenants_isolated_iff_sample
    : (closingMachine ⟨0⟩ .default).ownOutputs (ClosingCall.For "globex") .new strangeSignOff
        = (closingMachine ⟨0⟩ .default).ownOutputs (ClosingCall.For "globex") .new
            (strangeSignOff.filter (ClosingCall.For "globex"))
      ↔ ∀ before now request after,
          strangeSignOff = before ++ .signOff now request :: after
          → request.tenantId = "globex"
          → ∀ r ∈ closedIn ⟨0⟩ .default before,
              r.id = request.reconciliationId → r.tenantId = "globex" :=
  closing_tenants_isolated_iff "globex" strangeSignOff (by decide +kernel)

end Sample

end PettyFlow.Api
