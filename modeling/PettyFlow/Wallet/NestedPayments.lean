import PettyFlow.Wallet.CallExits
import PettyFlow.Wallet.ReusedKeys

/-! Whether a result reports the payment of its own request. The store forgets a key after the
retention time and compares requests; the adapters never forget a key and compare nothing else.
-/

namespace PettyFlow.Wallet

open Foundation Idempotency

/-- Every result of a run fits the request of its call. -/
def ResultsFit (digests : Digests) (hmac : Bytes → Bytes → Bytes) (s : DisbursementManager)
    (calls : List ManagerCall)
    : Prop :=
  ∀ event ∈ (managerMachine digests hmac).history s calls,
    ∀ draw request result,
      event.input = .disburseFloat draw request
      → event.output = .disbursed (.ok result)
      → Fits request result

/-- A call that pays finds no other payment on file under its key. -/
def PaysAlike (s : DisbursementManager) : ManagerCall → Prop
  | .disburseFloat draw request =>
      s.Owns draw request
      → request.Printable
      → Payable request draw.payment.fault
      → ∀ facts ∈ s.backends.onFile? request, facts = request.facts
  | .ingestProviderEvent .. => True

/-- The digest tells the requests of a run apart. -/
def DistinguishesAll (digests : Digests) (calls : List ManagerCall) : Prop :=
  ∀ draw request otherDraw other,
    .disburseFloat draw request ∈ calls
    → .disburseFloat otherDraw other ∈ calls
    → Distinguishes digests request other

/-- Every terminal record is that of a request of the run, and describes a result that fits the
request.
-/
def RecordsFit (digests : Digests) (calls : List ManagerCall) (s : DisbursementManager) : Prop :=
  ∀ key record,
    s.backends.store.record? key = some record
    → record.status ≠ .inProgress
    → ∃ draw request result,
        .disburseFloat draw request ∈ calls
        ∧ request.recordKey = key
        ∧ record.requestFingerprint = request.fingerprint digests
        ∧ resultOfText record.resultJson = some result
        ∧ Fits request result

theorem SameRequest.facts {request other : FloatDisbursementRequest}
    (same : SameRequest request other) (tenant : other.tenantId = request.tenantId)
    : other.facts = request.facts := by
  unfold FloatDisbursementRequest.facts
  rw [tenant, same.custodian, same.fund, same.amount, same.currency, same.channel, same.recipient]

/-- A result that fits a request fits every request that asks for the same. -/
theorem Fits.of_same {request other : FloatDisbursementRequest} {result : FloatDisbursementResult}
    (fits : Fits request result) (same : SameRequest request other)
    (tenant : other.tenantId = request.tenantId)
    : Fits other result where
  tenant := fits.tenant.trans tenant.symm
  custodian := fits.custodian.trans same.custodian.symm
  fund := fits.fund.trans same.fund.symm
  amount := fits.amount.trans same.amount.symm
  currency := fits.currency.trans same.currency.symm
  nested := by rw [fits.nested, same.facts tenant]

/-- A payment fits its request when the payment on file, if there is one, is the same. -/
theorem fits_of_pay {digests : Digests} {s : Backends} {draw : PaymentDraw}
    {request : FloatDisbursementRequest} {result : FloatDisbursementResult}
    (paid : (s.pay digests draw request).1 = .ok result)
    (alike : ∀ facts ∈ s.onFile? request, facts = request.facts)
    : Fits request result := by
  obtain ⟨outer, nested⟩ := Backends.pay_ok paid
  refine ⟨outer.tenant, outer.custodian, outer.fund, outer.amount, outer.currency, ?_⟩
  rw [nested]
  cases onFile : s.onFile? request with
  | none => rfl
  | some facts => exact congrArg some (alike facts onFile)

section Steps

variable {digests : Digests} {hmac : Bytes → Bytes → Bytes} {calls : List ManagerCall}
  {s : DisbursementManager} {draw : DisburseDraw} {request : FloatDisbursementRequest}

/-- A call that returns a result returns one that fits, and leaves only records that fit: it
makes the payment, or reads the record of a request that asked for the same.
-/
theorem disburseFloat_fits (filed : RecordsFit digests calls s)
    (distinguishes : DistinguishesAll digests calls)
    (member : .disburseFloat draw request ∈ calls)
    (alike : PaysAlike s (.disburseFloat draw request))
    : let call := s.disburseFloat digests hmac draw request
      (∀ result, call.1 = .ok result → Fits request result) ∧ RecordsFit digests calls call.2 := by
  have payable {result : FloatDisbursementResult}
      (payment : (s.backends.pay digests draw.payment request).1 = .ok result)
      : Payable request draw.payment.fault :=
    (Backends.pay_isOk_iff digests s.backends draw.payment request).mp ⟨result, payment⟩
  -- A payment completes the record of its own key and leaves the others
  have completes {after : DisbursementManager} {result : FloatDisbursementResult} {text : String}
      (fits : Fits request result) (written : resultText result = some text)
      (records
        : ∀ other,
            after.backends.store.record? other
            = if request.recordKey = other then
                some ⟨request.fingerprint digests, text, .completed, draw.storeTime⟩
              else
                (s.backends.store.purge draw.storeTime).record? other)
      : RecordsFit digests calls after := by
    intro key record found terminal
    rw [records] at found
    split at found
    · rename_i own
      obtain rfl := Option.some.inj found
      exact ⟨draw, request, result, member, own, rfl, resultOfText_resultText written, fits⟩
    · exact filed key record (SQLiteIdempotencyStore.record?_of_purge found) terminal
  have outcome := DisbursementManager.disburseFloat_outcome digests hmac s draw request
  dsimp only
  generalize (s.disburseFloat digests hmac draw request).1 = answer at outcome ⊢
  generalize (s.disburseFloat digests hmac draw request).2 = after at outcome ⊢
  cases outcome with
  | unprinted => exact ⟨fun _ returned => (nomatch returned), filed⟩
  | refused _ _ _ backends =>
      refine ⟨fun _ returned => (nomatch returned), ?_⟩
      unfold RecordsFit
      rw [backends]
      exact filed
  | reused _ record _ found same backends =>
      constructor
      · -- The stored result fits the request that was filed, which asked for the same
        intro result returned
        obtain ⟨terminal, described⟩ := storedAnswer_ok returned
        obtain ⟨otherDraw, other, result', otherMember, sameKey, fingerprint, described', fits⟩ :=
          filed _ record (SQLiteIdempotencyStore.record?_of_purge found) terminal
        obtain rfl := Option.some.inj (described.symm.trans described')
        have tenant : request.tenantId = other.tenantId := (congrArg Prod.fst sameKey).symm
        have apart := distinguishes otherDraw other draw request otherMember member
        have asked := (fingerprint_eq_iff tenant apart).mp (fingerprint.symm.trans same)
        exact fits.of_same asked tenant
      · intro key record' found' terminal
        rw [backends] at found'
        exact filed key record' (SQLiteIdempotencyStore.record?_of_purge found') terminal
  | unpaid _ _ _ _ _ _ _ records =>
      refine ⟨fun _ returned => (nomatch returned), fun key record found terminal => ?_⟩
      rw [records] at found
      split at found
      · cases found
      · exact filed key record (SQLiteIdempotencyStore.record?_of_purge found) terminal
  | unwritten _ _ _ _ _ _ records =>
      refine ⟨fun _ returned => (nomatch returned), fun key record found terminal => ?_⟩
      rw [records] at found
      split at found
      · -- The reservation that was left behind is no result
        obtain rfl := Option.some.inj found
        exact absurd rfl terminal
      · exact filed key record (SQLiteIdempotencyStore.record?_of_purge found) terminal
  | unfiled _ result text _ printable free payment written _ _ _ records =>
      have fits := fits_of_pay payment (alike free printable (payable payment))
      exact ⟨fun _ returned => (nomatch returned), completes fits written records⟩
  | completed _ result text _ printable free payment written _ records =>
      have fits := fits_of_pay payment (alike free printable (payable payment))
      refine ⟨?_, completes fits written records⟩
      rintro _ ⟨rfl⟩
      exact fits

/-- A call of the run keeps the records fitting. -/
theorem recordsFit_step (filed : RecordsFit digests calls s)
    (distinguishes : DistinguishesAll digests calls) {call : ManagerCall} (member : call ∈ calls)
    (alike : PaysAlike s call)
    : RecordsFit digests calls ((managerMachine digests hmac).step s call).2 := by
  cases call with
  | disburseFloat draw request => exact (disburseFloat_fits filed distinguishes member alike).2
  | ingestProviderEvent now audit tenantId provider eventId payload currentState =>
      have records :=
        (DisbursementManager.ingestProviderEvent_frame digests hmac s now audit tenantId provider
          eventId payload currentState).1
      intro key record found terminal
      exact filed key record ((congrArg (Dict.get? · key) records).symm.trans found) terminal

end Steps

/-- In every run from an empty store in which no call that pays finds another payment on file
under its key, every result fits the request of its call.
-/
theorem results_fit (digests : Digests) (hmac : Bytes → Bytes → Bytes) (s : DisbursementManager)
    (calls : List ManagerCall) (unused : ∀ key, s.backends.store.record? key = none)
    (distinguishes : DistinguishesAll digests calls)
    (alike : (managerMachine digests hmac).Admits PaysAlike s calls)
    : ResultsFit digests hmac s calls := by
  intro event member draw request result input output
  have inRun
      : (managerMachine digests hmac).Admits (fun s call => PaysAlike s call ∧ call ∈ calls) s
          calls := by
    rw [Machine.admits_iff_history] at alike ⊢
    exact fun event member => ⟨alike event member, Machine.input_mem _ member⟩
  have start : RecordsFit digests calls s := by
    intro key record found
    cases (unused key).symm.trans found
  obtain ⟨filed, ⟨pays, ofRun⟩, isEvent⟩ :=
    (managerMachine digests hmac).mem_history (motive := RecordsFit digests calls)
      (fun _ _ filed ok => recordsFit_step filed distinguishes ok.2 ok.1) start inRun member
  rw [input] at pays ofRun isEvent
  have returned := congrArg Event.output isEvent
  rw [output] at returned
  have answer := ManagerAnswer.disbursed.inj returned
  exact (disburseFloat_fits filed distinguishes ofRun pays).1 result answer.symm

section Sample

theorem firstAmount_pos : (0 : Int) < 1000000 := by decide

theorem secondAmount_pos : (0 : Int) < 50000000 := by decide

theorem firstKey_given : "key-1" ≠ "" := by decide

/-- A payment by mobile money. -/
def firstTransfer : FloatDisbursementRequest :=
  {
    tenantId := "TENANT-ORG"
    custodianId := "CUST-001"
    fundId := "F001"
    amountScaled := 1000000
    channel := .mobileMoney
    currency := "USD"
    recipientAddress := "+254700000001"
    cardholderName := ""
    description := ""
    idempotencyKey := "key-1"
    metadata := .empty
    tenantNamed := sampleRequest.tenantNamed
    custodianNamed := sampleRequest.custodianNamed
    fundNamed := sampleRequest.fundNamed
    amountPositive := firstAmount_pos
    keyGiven := firstKey_given
  }

/-- A larger payment to somebody else, under the same key. -/
def secondTransfer : FloatDisbursementRequest :=
  {
    firstTransfer with
    amountScaled := 50000000
    recipientAddress := "+254700000002"
    amountPositive := secondAmount_pos
  }

/-- The SHA-256 of the two payloads, and the MD5 of the first disbursement's identifier. -/
def transferDigests : Digests :=
  ⟨fun text =>
      if text = firstTransfer.payload.text .compact then
        0x3dd0d1cf5e93f85965d8e2a781bdea836103cb0f43ba95be580de88231a239be
      else
        0xaacf2f35bd3444be897ac18fcdcd7e6ad77658cebace2835a607dfb0feaa39b6,
    fun _ => 0xd09bc4c15fcff6d7103a44f55dac1871⟩

def transferDraw (storeTime : Int) : DisburseDraw :=
  ⟨storeTime, samplePayment none, ⟨1700000000000000⟩, ⟨⟨1⟩, ⟨1700000000000000⟩⟩⟩

def repeatedTransfer : List ManagerCall :=
  [
    .disburseFloat (transferDraw 100) firstTransfer,
    .disburseFloat (transferDraw 101) firstTransfer
  ]

/-- The key is used again when the store has forgotten it. -/
def replacedTransfer : List ManagerCall :=
  [
    .disburseFloat (transferDraw 100) firstTransfer,
    .disburseFloat (transferDraw 604901) secondTransfer
  ]

theorem results_fit_sample
    : ResultsFit transferDigests (fun _ _ => []) DisbursementManager.sampleManager
        repeatedTransfer := by
  apply results_fit
  · exact fun _ => rfl
  · rintro _ request _ other member otherMember _
    have same (call : ManagerCall) (member : call ∈ repeatedTransfer)
        : ∃ draw, call = .disburseFloat draw firstTransfer := by
      rcases List.mem_pair.mp member with rfl | rfl <;> exact ⟨_, rfl⟩
    obtain ⟨_, first⟩ := same _ member
    obtain ⟨_, second⟩ := same _ otherMember
    cases first
    cases second
    rfl
  · refine ⟨fun _ _ => nofun, fun owns => ?_, trivial⟩
    exact absurd owns (by decide +kernel)

/-- The result of the second call names the second amount, and reports the first payment. -/
theorem forgotten_key_reports_first_payment
    : let s := DisbursementManager.sampleManager
      let first :=
        s.disburseFloat transferDigests (fun _ _ => []) (transferDraw 100) firstTransfer
      let second :=
        first.2.disburseFloat transferDigests (fun _ _ => []) (transferDraw 604901)
          secondTransfer
      second.1.toOption.map FloatDisbursementResult.amountScaled = some 50000000
      ∧ second.1.toOption.bind FloatDisbursementResult.nested? = some firstTransfer.facts
      ∧ ¬ ResultsFit transferDigests (fun _ _ => []) s replacedTransfer := by
  intro s first second
  have reported
      : second.1.toOption.map (fun result => (result.amountScaled, result.nested?))
        = some (50000000, some firstTransfer.facts) := by
    decide +kernel
  cases outcome : second.1 with
  | error error =>
      rw [outcome] at reported
      cases reported
  | ok result =>
      rw [outcome] at reported
      obtain ⟨amount, payment⟩ := Prod.mk.inj (Option.some.inj reported)
      refine ⟨congrArg some amount, payment, fun fit => ?_⟩
      have fits :=
        fit _ (List.mem_cons_of_mem _ List.mem_cons_self) (transferDraw 604901) secondTransfer
          result rfl (congrArg ManagerAnswer.disbursed outcome)
      have same := Option.some.inj (payment.symm.trans fits.nested)
      exact absurd same (by decide)

end Sample

end PettyFlow.Wallet
