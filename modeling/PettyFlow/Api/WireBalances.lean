import PettyFlow.Api.FloatHandler
import PettyFlow.Funds.Movements

/-! The remote procedures serve the calls of the fund service: every reply says exactly what the
service answers, every failure is an abortion with the code of its error, and balances are what the
acknowledged requests add up to.
-/

namespace PettyFlow.Api.Grpc

open Foundation PettyFlow.Funds

section Wire

variable (tables : CharTables)

/-! ### Requests as calls -/

/-- The call that a request makes, if its identifiers are read. -/
def Rpc.call : Rpc → Except UuidError FundCall
  | .createFund drawn request => do
      let (tenantId, custodianId) ← twoIds tables request.tenantId request.custodianId
      return .createFund drawn tenantId request.name request.currency custodianId
        (.int request.initialAmountScaled.toInt)
  | .allocateFloat request => do
      let (tenantId, fundId, custodianId) ←
        threeIds tables request.tenantId request.fundId request.custodianId
      return .allocateFloat tenantId fundId custodianId (.int request.amountScaled.toInt)
  | .issueDisbursement request => do
      let (tenantId, fundId, custodianId) ←
        threeIds tables request.tenantId request.fundId request.custodianId
      return .issueDisbursement tenantId fundId custodianId (.int request.amountScaled.toInt)
  | .getCustodianBalance request => do
      let (tenantId, fundId, custodianId) ←
        threeIds tables request.tenantId request.fundId request.custodianId
      return .getCustodianBalance tenantId fundId custodianId

/-- The calls of the requests whose identifiers are read. -/
def callsOf (rpcs : List Rpc) : List FundCall :=
  rpcs.filterMap (fun rpc => (rpc.call tables).toOption)

/-- The code of an error. -/
def statusOf : FundError → StatusCode
  | .typeError _ | .valueError _ => .invalidArgument
  | .fundNotFoundError _ => .notFound
  | .insufficientFloatError _ => .failedPrecondition

def textOf : FundError → String
  | .typeError text | .valueError text | .fundNotFoundError text | .insufficientFloatError text =>
      text

/-- A message that says what the service has answered. -/
def Says : Reply → FundAnswer → Prop
  | .fund message, .fund fund =>
      message.fundId = fund.fundId.text
      ∧ message.tenantId = fund.tenantId.text
      ∧ message.name = fund.name
      ∧ message.currency = fund.currency
      ∧ message.custodianId = fund.custodianId.text
      ∧ message.availableAmountScaled.toInt = fund.availableAmountScaled
  | .balance message, .balance balance =>
      message.fundId = balance.fundId.text
      ∧ message.tenantId = balance.tenantId.text
      ∧ message.custodianId = balance.custodianId.text
      ∧ message.currency = balance.currency
      ∧ message.amountScaled.toInt = balance.amountScaled
  | _, _ => False

/-- What the service's outcome of a call becomes on the wire. -/
def Conveys (output : Except RpcError Reply) : Except FundError FundAnswer → Prop
  | .ok answered => ∃ reply, output = .ok reply ∧ Says reply answered
  | .error error => output = .error (.abort (statusOf error) (.message (textOf error)))

abbrev RpcEvent := Event FundService Rpc (Except RpcError Reply)

/-- A request is aborted without a change if its identifiers are not read, and conveys the outcome
of its call otherwise; an abortion leaves the tables as they were.
-/
structure Faithful (event : RpcEvent) : Prop where
  unread
    : ∀ error,
        event.input.call tables = .error error
        → event.output = .error (uuidErrors error)
  served
    : ∀ call,
        event.input.call tables = .ok call
        → event.after = (serve event.before call).2
          ∧ Conveys event.output (serve event.before call).1
  aborted : ∀ error, event.output = .error error → event.after = event.before

/-! ### Fields -/

/-- An amount of an answer fits the field of its message. -/
def Fits : FundAnswer → Prop
  | .fund fund => 0 ≤ fund.availableAmountScaled ∧ fund.availableAmountScaled ≤ maxInt64
  | .balance balance => 0 ≤ balance.amountScaled ∧ balance.amountScaled ≤ maxInt64

theorem int64Field_of_fits {amount : Int} (fits : 0 ≤ amount ∧ amount ≤ maxInt64)
    : int64Field amount = .ok (BitVec.ofInt 64 amount) := by
  have bounds : -2 ^ 63 ≤ amount ∧ amount ≤ maxInt64 := ⟨by omega, fits.2⟩
  rw [int64Field, if_pos bounds]

theorem toInt_ofInt_of_fits {amount : Int} (fits : 0 ≤ amount ∧ amount ≤ maxInt64)
    : (BitVec.ofInt 64 amount).toInt = amount := by
  unfold maxInt64 at fits
  rw [BitVec.toInt_ofInt]
  exact Int.bmod_eq_of_le (by omega) (by omega)

/-! ### Errors of the service -/

theorem validateAmount_int_error {amount : Int} {name : String} {allowZero : Bool}
    {error : FundError} (failed : validateAmount (.int amount) name allowZero = .error error)
    : ∃ text, error = .valueError text := by
  unfold validateAmount NumberArg.int? at failed
  dsimp only at failed
  split at failed
  · exact ⟨_, (Except.error.inj failed).symm⟩
  split at failed
  · exact ⟨_, (Except.error.inj failed).symm⟩
  · cases failed

theorem normalizeCurrency_error {currency : String} {error : FundError}
    (failed : normalizeCurrency currency = .error error)
    : ∃ text, error = .valueError text := by
  unfold normalizeCurrency at failed
  dsimp only at failed
  split at failed
  · exact ⟨_, (Except.error.inj failed).symm⟩
  split at failed
  · cases failed
  · exact ⟨_, (Except.error.inj failed).symm⟩

theorem getFund_error {s : FundService} {tenantId fundId : Uuid} {error : FundError}
    (failed : s.getFund tenantId fundId = .error error)
    : ∃ text, error = .fundNotFoundError text := by
  unfold FundService.getFund at failed
  split at failed
  · cases failed
  · exact ⟨_, (Except.error.inj failed).symm⟩

theorem createFund_error {s : FundService} {drawn tenantId : Uuid} {name currency : String}
    {custodianId : Uuid} {amount : Int} {error : FundError}
    (failed
      : (s.createFund drawn tenantId name currency custodianId (.int amount)).1 = .error error)
    : createErrors error = .abort (statusOf error) (.message (textOf error)) := by
  have value : ∃ text, error = .valueError text := by
    rcases bind_error (attempt_error failed).1 with amounts | ⟨_, _, failed⟩
    · exact validateAmount_int_error amounts
    rcases bind_error failed with currencies | ⟨_, _, failed⟩
    · exact normalizeCurrency_error currencies
    rcases bind_error failed with names | ⟨_, _, failed⟩
    · exact ⟨_, raiseIf_error names⟩
    · cases failed
  obtain ⟨text, rfl⟩ := value
  rfl

/-- What the checks of an operation on the float raise. -/
theorem mutation_error {s : FundService} {tenantId fundId : Uuid} {amount : Int}
    {short : Int → Fund → Prop} [∀ amount fund, Decidable (short amount fund)] {message : String}
    {commit : Int × Fund → CustodianBalance × FundService} {error : FundError}
    (failed
      : (attempt s
          (do
            let amount ← validateAmount (.int amount) "amount_scaled" false
            let fund ← s.getFund tenantId fundId
            raiseIf (short amount fund) (.insufficientFloatError message)
            return (amount, fund))
          commit).1
        = .error error)
    : mutateErrors error = .abort (statusOf error) (.message (textOf error)) := by
  rcases bind_error (attempt_error failed).1 with amounts | ⟨_, _, failed⟩
  · obtain ⟨text, rfl⟩ := validateAmount_int_error amounts
    rfl
  rcases bind_error failed with missing | ⟨_, _, failed⟩
  · obtain ⟨text, rfl⟩ := getFund_error missing
    rfl
  rcases bind_error failed with uncovered | ⟨_, _, failed⟩
  · rw [raiseIf_error uncovered]
    rfl
  · cases failed

theorem getCustodianBalance_error {s : FundService} {tenantId fundId custodianId : Uuid}
    {error : FundError}
    (failed : (s.getCustodianBalance tenantId fundId custodianId).1 = .error error)
    : readErrors error = .abort (statusOf error) (.message (textOf error)) := by
  obtain ⟨text, rfl⟩ := getFund_error (attempt_error failed).1
  rfl

/-! ### One request -/

/-- A message is built from every fund whose amount fits. -/
theorem fundMessage_exact {fund : Fund} (fits : Fits (.fund fund))
    : ∃ message, fundMessage fund = .ok message ∧ Says (.fund message) (.fund fund) := by
  refine ⟨_, by rw [fundMessage, int64Field_of_fits fits]; rfl, ?_⟩
  exact ⟨rfl, rfl, rfl, rfl, rfl, toInt_ofInt_of_fits fits⟩

theorem balanceMessage_exact {balance : CustodianBalance} (fits : Fits (.balance balance))
    : ∃ message,
        balanceMessage balance = .ok message ∧ Says (.balance message) (.balance balance) := by
  refine ⟨_, by rw [balanceMessage, int64Field_of_fits fits]; rfl, ?_⟩
  exact ⟨rfl, rfl, rfl, rfl, toInt_ofInt_of_fits fits⟩

/-- The result of a procedure that returns a balance. -/
theorem conveys_balance {result : Except FundError CustodianBalance × FundService}
    {errors : FundError → RpcError}
    (coded
      : ∀ error,
          result.1 = .error error
          → errors error = .abort (statusOf error) (.message (textOf error)))
    (fits : ∀ balance, result.1 = .ok balance → Fits (.balance balance))
    : Conveys (reply .balance (result.1.mapError errors >>= balanceMessage, result.2)).1
        (answer .balance result).1 := by
  obtain ⟨outcome, next⟩ := result
  cases outcome with
  | error error => exact congrArg Except.error (coded error rfl)
  | ok balance =>
      obtain ⟨message, built, said⟩ := balanceMessage_exact (fits balance rfl)
      refine ⟨.balance message, ?_, said⟩
      show (balanceMessage balance).map Reply.balance = _
      rw [built]
      rfl

theorem conveys_fund {result : Except FundError Fund × FundService}
    (coded
      : ∀ error,
          result.1 = .error error
          → createErrors error = .abort (statusOf error) (.message (textOf error)))
    (fits : ∀ fund, result.1 = .ok fund → Fits (.fund fund))
    : Conveys (reply .fund (result.1.mapError createErrors >>= fundMessage, result.2)).1
        (answer .fund result).1 := by
  obtain ⟨outcome, next⟩ := result
  cases outcome with
  | error error => exact congrArg Except.error (coded error rfl)
  | ok fund =>
      obtain ⟨message, built, said⟩ := fundMessage_exact (fits fund rfl)
      refine ⟨.fund message, ?_, said⟩
      show (fundMessage fund).map Reply.fund = _
      rw [built]
      rfl

/-- A request whose identifiers are not read. -/
theorem faithful_unread {s : FundService} {rpc : Rpc} {error : UuidError}
    (unread : rpc.call tables = .error error)
    (step : (floatMachine tables).step s rpc = (.error (uuidErrors error), s))
    : Faithful tables ((floatMachine tables).event s rpc) := by
  rw [Machine.event_of_step _ step]
  refine ⟨?_, ?_, fun _ _ => rfl⟩
  · intro other same
    rw [unread] at same
    cases same
    rfl
  · intro call same
    rw [unread] at same
    cases same

/-- A request that the service gets. -/
theorem faithful_served {s : FundService} {rpc : Rpc} {call : FundCall}
    (read : rpc.call tables = .ok call)
    (moved : ((floatMachine tables).step s rpc).2 = (serve s call).2)
    (conveys : Conveys ((floatMachine tables).step s rpc).1 (serve s call).1)
    : Faithful tables ((floatMachine tables).event s rpc) := by
  refine ⟨?_, ?_, ?_⟩
  · intro error same
    rw [Machine.event, read] at same
    cases same
  · intro other same
    rw [Machine.event, read] at same
    cases same
    exact ⟨moved, conveys⟩
  · intro error failed
    refine moved.trans ?_
    cases outcome : (serve s call).1 with
    | error raised => exact serve_raised outcome
    | ok answered =>
        rw [outcome] at conveys
        obtain ⟨message, replied, _⟩ := conveys
        have := replied.symm.trans failed
        cases this

/-- A procedure that reads some identifiers, and then runs an operation of the service. -/
theorem faithful_of_ids {ι α : Type} {s : FundService} {rpc : Rpc} {ids : Except UuidError ι}
    {made : ι → FundCall} {wrap : α → FundAnswer} {operation : ι → Except FundError α × FundService}
    {replied : ι → Except RpcError Reply × FundService}
    (read : rpc.call tables = ids.map made)
    (refused
      : ∀ error,
          ids = .error error → (floatMachine tables).step s rpc = (.error (uuidErrors error), s))
    (served : ∀ id, ids = .ok id → (floatMachine tables).step s rpc = replied id)
    (serves : ∀ id, serve s (made id) = answer wrap (operation id))
    (moves : ∀ id, (replied id).2 = (operation id).2)
    (conveys
      : ∀ id,
          (∀ value, (operation id).1 = .ok value → Fits (wrap value))
          → Conveys (replied id).1 (answer wrap (operation id)).1)
    (fits
      : ∀ call answered,
          rpc.call tables = .ok call → (serve s call).1 = .ok answered → Fits answered)
    : Faithful tables ((floatMachine tables).event s rpc) := by
  cases outcome : ids with
  | error error =>
      exact faithful_unread tables (read.trans (by rw [outcome]; rfl)) (refused error outcome)
  | ok id =>
      have made : rpc.call tables = .ok (made id) := read.trans (by rw [outcome]; rfl)
      apply faithful_served tables made
      · rw [served id outcome, serves]
        exact moves id
      · rw [served id outcome, serves]
        apply conveys
        intro value returned
        exact fits _ _ made (by rw [serves, answer, returned]; rfl)

theorem step_faithful {s : FundService} {rpc : Rpc}
    (fits
      : ∀ call answered,
          rpc.call tables = .ok call → (serve s call).1 = .ok answered → Fits answered)
    : Faithful tables ((floatMachine tables).event s rpc) := by
  cases rpc with
  | createFund drawn request =>
      refine faithful_of_ids tables rfl ?_ ?_ (fun _ => rfl) (fun _ => rfl)
        (fun id => conveys_fund (fun error => createFund_error)) fits
      · intro error refused
        simp only [floatMachine, FloatServiceHandler.createFund, refused, reply]
        rfl
      · intro id read
        simp only [floatMachine, FloatServiceHandler.createFund, read]
  | allocateFloat request =>
      refine faithful_of_ids tables rfl ?_ ?_ (fun _ => rfl) (fun _ => rfl)
        (fun id => conveys_balance (fun error => mutation_error)) fits
      · intro error refused
        simp only [floatMachine, FloatServiceHandler.allocateFloat, FloatServiceHandler.mutate,
          refused, reply]
        rfl
      · intro ids read
        simp only [floatMachine, FloatServiceHandler.allocateFloat, FloatServiceHandler.mutate,
          read]
  | issueDisbursement request =>
      refine faithful_of_ids tables rfl ?_ ?_ (fun _ => rfl) (fun _ => rfl)
        (fun id => conveys_balance (fun error => mutation_error)) fits
      · intro error refused
        simp only [floatMachine, FloatServiceHandler.issueDisbursement, FloatServiceHandler.mutate,
          refused, reply]
        rfl
      · intro ids read
        simp only [floatMachine, FloatServiceHandler.issueDisbursement, FloatServiceHandler.mutate,
          read]
  | getCustodianBalance request =>
      refine faithful_of_ids tables rfl ?_ ?_ (fun _ => rfl) (fun _ => rfl)
        (fun id => conveys_balance (fun error => getCustodianBalance_error)) fits
      · intro error refused
        simp only [floatMachine, FloatServiceHandler.getCustodianBalance, refused, reply]
        rfl
      · intro ids read
        simp only [floatMachine, FloatServiceHandler.getCustodianBalance, read]

/-! ### Runs -/

/-- In every run with fresh identifiers an answer fits the fields of its message. -/
theorem answer_fits {calls : List FundCall} {call : FundCall} {answered : FundAnswer}
    (fresh : fundMachine.Admits FreshFund .empty (calls ++ [call]))
    (answers : (serve (fundMachine.exec .empty calls) call).1 = .ok answered)
    : Fits answered := by
  have agrees := serve_agrees answers
  have books := books_balance fresh
  rw [fundMachine.exec_concat] at books
  cases answered with
  | fund fund => exact ((books _).fits agrees).1
  | balance balance =>
      obtain ⟨same, fund, found, _⟩ := agrees
      rw [Fits, same]
      exact ((books _).fits found).2 balance.custodianId

theorem callsOf_unread {past : List Rpc} {rpc : Rpc} {error : UuidError}
    (unread : rpc.call tables = .error error)
    : callsOf tables (past ++ [rpc]) = callsOf tables past := by
  simp [callsOf, unread, Except.toOption]

theorem callsOf_read {past : List Rpc} {rpc : Rpc} {call : FundCall}
    (read : rpc.call tables = .ok call)
    : callsOf tables (past ++ [rpc]) = callsOf tables past ++ [call] := by
  simp [callsOf, read, Except.toOption]

/-- A run of the procedures is the run of the calls that are read, and every request of it is
served faithfully: a reply says what the service answers, an abortion has the code and the text of
the error and changes nothing, and no error is left to the server.
-/
theorem rpcs_faithful (rpcs : List Rpc)
    (fresh : fundMachine.Admits FreshFund .empty (callsOf tables rpcs))
    : (floatMachine tables).exec .empty rpcs = fundMachine.exec .empty (callsOf tables rpcs)
      ∧ ∀ event ∈ (floatMachine tables).history .empty rpcs, Faithful tables event := by
  induction rpcs using List.reverseRecOn with
  | nil => exact ⟨rfl, List.forall_mem_nil _⟩
  | append_singleton past rpc ih =>
      rw [Machine.exec_concat, Machine.history_concat, List.forall_mem_append,
        List.forall_mem_singleton]
      cases outcome : rpc.call tables with
      | error error =>
          rw [callsOf_unread tables outcome] at fresh ⊢
          obtain ⟨same, faithful⟩ := ih fresh
          have last : Faithful tables
              ((floatMachine tables).event ((floatMachine tables).exec .empty past) rpc) := by
            apply step_faithful
            intro call answered read
            rw [outcome] at read
            cases read
          exact ⟨(last.aborted _ (last.unread error outcome)).trans same, faithful, last⟩
      | ok call =>
          rw [callsOf_read tables outcome] at fresh ⊢
          obtain ⟨same, faithful⟩ := ih ((fundMachine.admits_append ..).mp fresh).1
          have last : Faithful tables
              ((floatMachine tables).event ((floatMachine tables).exec .empty past) rpc) := by
            apply step_faithful
            intro made answered read answers
            rw [outcome] at read
            cases read
            rw [same] at answers
            exact answer_fits fresh answers
          refine ⟨?_, faithful, last⟩
          rw [fundMachine.exec_concat, ← same]
          exact (last.served call outcome).1

/-! ### Balances over the wire -/

/-- What an acknowledged request has added to the balance that some texts name. -/
def wireMoved (tenantId fundId custodianId : String) (event : RpcEvent) : Int :=
  match event.input, event.output with
  | .allocateFloat request, .ok _ =>
      if threeIds tables request.tenantId request.fundId request.custodianId
        = threeIds tables tenantId fundId custodianId then request.amountScaled.toInt else 0
  | .issueDisbursement request, .ok _ =>
      if threeIds tables request.tenantId request.fundId request.custodianId
        = threeIds tables tenantId fundId custodianId then -request.amountScaled.toInt else 0
  | _, _ => 0

def wireTotal (past : List RpcEvent) (tenantId fundId custodianId : String) : Int :=
  (past.map (wireMoved tables tenantId fundId custodianId)).sum

theorem wireMoved_aborted {tenantId fundId custodianId : String} {event : RpcEvent}
    {error : RpcError} (aborted : event.output = .error error)
    : wireMoved tables tenantId fundId custodianId event = 0 := by
  unfold wireMoved
  rw [aborted]
  split
  · contradiction
  · contradiction
  · rfl

/-- A faithful request moves what its call moves. -/
theorem wireMoved_eq {tenantId fundId custodianId : String} {key : Uuid × Uuid × Uuid}
    (named : threeIds tables tenantId fundId custodianId = .ok key) {event : RpcEvent}
    (faithful : Faithful tables event) {call : FundCall} (read : event.input.call tables = .ok call)
    : wireMoved tables tenantId fundId custodianId event
      = movedAmount key (fundMachine.event event.before call) := by
  obtain ⟨_, conveys⟩ := faithful.served call read
  rw [Machine.event]
  show _ = movedAmount key ⟨event.before, call, (serve event.before call).1, _⟩
  cases outcome : (serve event.before call).1 with
  | error error =>
      rw [outcome] at conveys
      rw [wireMoved_aborted tables conveys, movedAmount_raised]
  | ok answered =>
      rw [outcome] at conveys
      obtain ⟨message, replied, _⟩ := conveys
      obtain ⟨before, rpc, output, after⟩ := event
      dsimp only at read replied
      subst replied
      cases rpc with
      | createFund drawn request =>
          obtain ⟨ids, _, made⟩ := bind_ok read
          cases made
          rfl
      | allocateFloat request =>
          obtain ⟨ids, looked, made⟩ := bind_ok read
          cases made
          simp only [wireMoved, movedAmount, looked, named, Except.ok.injEq]
      | issueDisbursement request =>
          obtain ⟨ids, looked, made⟩ := bind_ok read
          cases made
          simp only [wireMoved, movedAmount, looked, named, Except.ok.injEq]
      | getCustodianBalance request =>
          obtain ⟨ids, _, made⟩ := bind_ok read
          cases made
          rfl

theorem wireTotal_eq {tenantId fundId custodianId : String} {key : Uuid × Uuid × Uuid}
    (named : threeIds tables tenantId fundId custodianId = .ok key) (rpcs : List Rpc)
    (fresh : fundMachine.Admits FreshFund .empty (callsOf tables rpcs))
    : wireTotal tables ((floatMachine tables).history .empty rpcs) tenantId fundId custodianId
      = movedTotal (fundMachine.history .empty (callsOf tables rpcs)) key := by
  induction rpcs using List.reverseRecOn with
  | nil => rfl
  | append_singleton past rpc ih =>
      have faithful := (rpcs_faithful tables _ fresh).2
      rw [Machine.history_concat, List.forall_mem_append, List.forall_mem_singleton] at faithful
      rw [Machine.history_concat, wireTotal, List.map_append, List.sum_append, List.map_singleton,
        List.sum_singleton, ← wireTotal]
      cases outcome : rpc.call tables with
      | error error =>
          rw [callsOf_unread tables outcome] at fresh ⊢
          rw [ih fresh, wireMoved_aborted tables (faithful.2.unread error outcome), add_zero]
      | ok call =>
          rw [callsOf_read tables outcome] at fresh ⊢
          have earlier := ((fundMachine.admits_append ..).mp fresh).1
          rw [ih earlier, wireMoved_eq tables named faithful.2 outcome, fundMachine.history_concat,
            movedTotal, movedTotal, List.map_append, List.sum_append, List.map_singleton,
            List.sum_singleton, ← (rpcs_faithful tables past earlier).1]
          rfl

/-- A request that is read gets the answer of the service, at the end of a run. -/
theorem reply_of_answer {rpcs : List Rpc} {rpc : Rpc} {call : FundCall} {answered : FundAnswer}
    (fresh : fundMachine.Admits FreshFund .empty (callsOf tables (rpcs ++ [rpc])))
    (read : rpc.call tables = .ok call)
    (answers : (serve (fundMachine.exec .empty (callsOf tables rpcs)) call).1 = .ok answered)
    : ∃ message,
        ((floatMachine tables).step ((floatMachine tables).exec .empty rpcs) rpc).1 = .ok message
        ∧ Says message answered := by
  have faithful := (rpcs_faithful tables _ fresh).2
  rw [Machine.history_concat, List.forall_mem_append, List.forall_mem_singleton] at faithful
  obtain ⟨_, conveys⟩ := faithful.2.served call read
  rw [callsOf_read tables read] at fresh
  have same := (rpcs_faithful tables rpcs ((fundMachine.admits_append ..).mp fresh).1).1
  rw [← same] at answers
  change Conveys _ (serve ((floatMachine tables).exec .empty rpcs) call).1 at conveys
  rwa [answers] at conveys

theorem callsOf_append (rpcs later : List Rpc)
    : callsOf tables (rpcs ++ later) = callsOf tables rpcs ++ callsOf tables later :=
  List.filterMap_append

/-- The fund of a created message, as the tables then have it. -/
theorem created_fund {past : List Rpc} {drawn : Uuid} {request : CreateFundRequest}
    {message : FundMessage}
    (fresh
      : fundMachine.Admits FreshFund .empty
          (callsOf tables (past ++ [.createFund drawn request])))
    (created
      : ((floatMachine tables).step ((floatMachine tables).exec .empty past)
          (.createFund drawn request)).1
        = .ok (.fund message))
    : ∃ fund,
        (fundMachine.exec .empty (callsOf tables (past ++ [.createFund drawn request]))).funds.get?
            (fund.tenantId, fund.fundId)
          = some fund
        ∧ Says (.fund message) (.fund fund) := by
  have faithful := rpcs_faithful tables _ fresh
  rw [Machine.history_concat, List.forall_mem_append, List.forall_mem_singleton] at faithful
  obtain ⟨state, _, last⟩ := faithful
  rw [Machine.exec_concat] at state
  rw [← state]
  cases outcome : (Rpc.createFund drawn request).call tables with
  | error error =>
      have refused := created.symm.trans (last.unread error outcome)
      cases refused
  | ok call =>
      obtain ⟨moved, conveys⟩ := last.served call outcome
      change ((floatMachine tables).step _ _).2
        = (serve ((floatMachine tables).exec .empty past) call).2 at moved
      change Conveys ((floatMachine tables).step _ _).1
        (serve ((floatMachine tables).exec .empty past) call).1 at conveys
      rw [created] at conveys
      cases answers : (serve ((floatMachine tables).exec .empty past) call).1 with
      | error error =>
          rw [answers] at conveys
          cases conveys
      | ok answered =>
          rw [answers] at conveys
          obtain ⟨said, same, exactly⟩ := conveys
          cases same
          cases answered with
          | balance balance => exact exactly.elim
          | fund fund =>
              rw [moved]
              exact ⟨fund, serve_agrees answers, exactly⟩

/-- A created fund is found by the texts of its message ever after, and any custodian's balance is
what the acknowledged requests for these texts have allocated less what they have paid out.
-/
theorem created_fund_balance {before later : List Rpc} {drawn : Uuid} {request : CreateFundRequest}
    {message : FundMessage} {custodianId : String} {custodian : Uuid}
    (fresh
      : fundMachine.Admits FreshFund .empty
          (callsOf tables (before ++ .createFund drawn request :: later)))
    (created
      : ((floatMachine tables).step ((floatMachine tables).exec .empty before)
          (.createFund drawn request)).1
        = .ok (.fund message))
    (read : Uuid.ofText tables custodianId = .ok custodian)
    : ∃ balance,
        ((floatMachine tables).step
            ((floatMachine tables).exec .empty (before ++ .createFund drawn request :: later))
            (.getCustodianBalance ⟨message.tenantId, message.fundId, custodianId⟩)).1
          = .ok (.balance balance)
        ∧ balance.tenantId = message.tenantId
        ∧ balance.fundId = message.fundId
        ∧ balance.currency = message.currency
        ∧ balance.amountScaled.toInt
          = wireTotal tables
              ((floatMachine tables).history .empty
                (before ++ .createFund drawn request :: later))
              message.tenantId message.fundId custodianId := by
  rw [List.append_cons] at fresh ⊢
  have split := fresh
  rw [callsOf_append, fundMachine.admits_append] at split
  obtain ⟨fund, present, fundText, tenantText, _, currency, _⟩ :=
    created_fund tables split.1 created
  generalize rpcs_eq : before ++ [Rpc.createFund drawn request] ++ later = rpcs at fresh ⊢
  -- The fund is still there at the end of the run
  obtain ⟨stored, found, kept⟩ := currency_kept split.2 ⟨fund, present, rfl⟩
  rw [← fundMachine.exec_append, ← callsOf_append, rpcs_eq] at found
  have named : threeIds tables message.tenantId message.fundId custodianId
      = .ok (fund.tenantId, fund.fundId, custodian) := by
    rw [threeIds, tenantText, fundText, Uuid.ofText_text, Uuid.ofText_text, read]
    rfl
  have call : (Rpc.getCustodianBalance ⟨message.tenantId, message.fundId, custodianId⟩).call tables
      = .ok (.getCustodianBalance fund.tenantId fund.fundId custodian) := by
    rw [Rpc.call, named]
    rfl
  have answers : (serve (fundMachine.exec .empty (callsOf tables rpcs))
        (.getCustodianBalance fund.tenantId fund.fundId custodian)).1
      = .ok (.balance ⟨fund.fundId, fund.tenantId, custodian, stored.currency,
          (fundMachine.exec .empty (callsOf tables rpcs)).balance fund.tenantId fund.fundId
            custodian⟩) := by
    rw [serve, answer, FundService.getCustodianBalance, FundService.getFund, found]
    rfl
  have extended : fundMachine.Admits FreshFund .empty
      (callsOf tables
        (rpcs ++ [.getCustodianBalance ⟨message.tenantId, message.fundId, custodianId⟩])) := by
    rw [callsOf_read tables call, fundMachine.admits_append]
    refine ⟨fresh, ?_, trivial⟩
    rw [FreshFund, answers]
    trivial
  obtain ⟨reply, replied, said⟩ := reply_of_answer tables extended call answers
  cases reply with
  | fund other => exact said.elim
  | balance balance =>
      obtain ⟨sameFund, sameTenant, _, sameCurrency, amount⟩ := said
      refine ⟨balance, replied, sameTenant.trans tenantText.symm, sameFund.trans fundText.symm,
        sameCurrency.trans (kept.trans currency.symm), ?_⟩
      rw [amount, wireTotal_eq tables named rpcs fresh]
      exact balance_eq_moved ..

end Wire

/-! ### A run -/

def sampleRequest : CreateFundRequest :=
  ⟨(⟨1⟩ : Uuid).text, "Branch float", "usd", (⟨3⟩ : Uuid).text, 100⟩

def sampleMessage : FundMessage :=
  ⟨(⟨2⟩ : Uuid).text, (⟨1⟩ : Uuid).text, "Branch float", "USD", (⟨3⟩ : Uuid).text, 100⟩

/-- Of the fund's 100, 40 are allocated and 15 paid out; the last request names no fund. -/
def sampleLater : List Rpc :=
  let tenant : Uuid := ⟨1⟩
  let fund : Uuid := ⟨2⟩
  let custodian : Uuid := ⟨3⟩
  [
    .allocateFloat ⟨tenant.text, fund.text, custodian.text, 40⟩,
    .issueDisbursement ⟨tenant.hex, fund.hex, custodian.hex, 15⟩,
    .getCustodianBalance ⟨tenant.text, "branch", custodian.text⟩
  ]

theorem rpcs_faithful_sample
    : let rpcs := .createFund ⟨2⟩ sampleRequest :: sampleLater
      (floatMachine .ascii).exec .empty rpcs = fundMachine.exec .empty (callsOf .ascii rpcs)
      ∧ ∀ event ∈ (floatMachine .ascii).history .empty rpcs, Faithful .ascii event :=
  rpcs_faithful .ascii _ (by decide +kernel)

theorem created_fund_balance_sample
    : ∃ balance,
        ((floatMachine .ascii).step
            ((floatMachine .ascii).exec .empty
              ([] ++ .createFund ⟨2⟩ sampleRequest :: sampleLater))
            (.getCustodianBalance
              ⟨sampleMessage.tenantId, sampleMessage.fundId, (⟨3⟩ : Uuid).text⟩)).1
          = .ok (.balance balance)
        ∧ balance.tenantId = sampleMessage.tenantId
        ∧ balance.fundId = sampleMessage.fundId
        ∧ balance.currency = sampleMessage.currency
        ∧ balance.amountScaled.toInt
          = wireTotal .ascii
              ((floatMachine .ascii).history .empty
                ([] ++ .createFund ⟨2⟩ sampleRequest :: sampleLater))
              sampleMessage.tenantId sampleMessage.fundId (⟨3⟩ : Uuid).text := by
  have created
      : ((floatMachine .ascii).step ((floatMachine .ascii).exec .empty [])
          (.createFund ⟨2⟩ sampleRequest)).1
        = .ok (.fund sampleMessage) := by
    decide +kernel
  exact created_fund_balance .ascii (by decide +kernel) created (Uuid.ofText_text .ascii ⟨3⟩)

end PettyFlow.Api.Grpc
