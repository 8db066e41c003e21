import PettyFlow.Wallet.DisburseCalls
import PettyFlow.Wallet.SingleOwner

/-! How a call leaves: a call that raises should leave no reservation and no payment behind, and
a call that returns as the owner of its key should leave its result on record.
-/

namespace PettyFlow.Wallet

open Foundation Idempotency

namespace DisbursementManager

/-- The call finds its key free, so that it is the one to reserve it. -/
def Owns (s : DisbursementManager) (draw : DisburseDraw) (request : FloatDisbursementRequest)
    : Prop :=
  (s.backends.store.purge draw.storeTime).record? request.recordKey = none

instance (s : DisbursementManager) (draw : DisburseDraw) (request : FloatDisbursementRequest)
    : Decidable (s.Owns draw request) :=
  inferInstanceAs (Decidable (_ = none))

/-- A call that raises leaves no reservation of its own in progress, that is, none that was not
there before it, and creates no payment.
-/
def RaisesClean (digests : Digests) (hmac : Bytes → Bytes → Bytes) (s : DisbursementManager)
    (draw : DisburseDraw) (request : FloatDisbursementRequest)
    : Prop :=
  let call := s.disburseFloat digests hmac draw request
  ∀ error,
    call.1 = .error error
    → (∀ record ∈ call.2.backends.store.record? request.recordKey,
        record.status = .inProgress → s.backends.store.record? request.recordKey = some record)
      ∧ call.2.backends.cardIssuer = s.backends.cardIssuer
      ∧ call.2.backends.mobileAdapter = s.backends.mobileAdapter

/-- A call that returns as the owner of its key leaves a completed record that describes its
result, and, when no earlier result has the identifier that was drawn for it, the tenant's
records contain the result once.
-/
def ReturnsFiled (digests : Digests) (hmac : Bytes → Bytes → Bytes) (s : DisbursementManager)
    (draw : DisburseDraw) (request : FloatDisbursementRequest)
    : Prop :=
  let call := s.disburseFloat digests hmac draw request
  ∀ result,
    call.1 = .ok result
    → s.Owns draw request
    → (∃ record,
        call.2.backends.store.record? request.recordKey = some record
        ∧ record.status = .completed
        ∧ resultOfText record.resultJson = some result)
      ∧ ((∀ earlier ∈ s.auditTrail,
          earlier.disbursementId ≠ floatDisbursementId draw.payment.disbursement)
        → (call.2.getAuditTrail request.tenantId).count result = 1)

/-- The call makes a payment that it cannot account for: the request's amount, or the amount of
the payment that the adapter has on file under the key, is too large for a double, or the payment
is a new one and its result would expire beyond the calendar.
-/
def PaysUnaccounted (s : DisbursementManager) (draw : DisburseDraw)
    (request : FloatDisbursementRequest)
    : Prop :=
  s.Owns draw request
  ∧ request.Printable
  ∧ Payable request draw.payment.fault
  ∧ (amountText request.amountScaled = none
    ∨ (∃ facts ∈ s.backends.onFile? request, amountText facts.amountScaled = none)
    ∨ s.backends.onFile? request = none
      ∧ ∃ message, draw.filedAt.addSeconds s.idempotencyTtlSeconds = .error message)

variable {digests : Digests} {hmac : Bytes → Bytes → Bytes} {s : DisbursementManager}
  {draw : DisburseDraw} {request : FloatDisbursementRequest}

/-- The result of a payment has no text exactly when one of the two amounts has none. -/
theorem unwritable_iff {result : FloatDisbursementResult}
    (payment : (s.backends.pay digests draw.payment request).1 = .ok result)
    : resultText result = none
      ↔ amountText request.amountScaled = none
        ∨ ∃ facts ∈ s.backends.onFile? request, amountText facts.amountScaled = none := by
  obtain ⟨outer, nested⟩ := Backends.pay_ok payment
  rw [resultText_none_iff nested, outer.amount]
  cases s.backends.onFile? request with
  | none => simp [FloatDisbursementRequest.facts]
  | some facts => simp

theorem payable_of_paid {result : FloatDisbursementResult}
    (payment : (s.backends.pay digests draw.payment request).1 = .ok result)
    : Payable request draw.payment.fault :=
  (Backends.pay_isOk_iff digests s.backends draw.payment request).mp ⟨result, payment⟩

/-- The reservation of a call that finds its key free was not there before. -/
theorem own_reservation_new {requestFingerprint resultJson : String} {status : RecordStatus}
    (free : s.Owns draw request)
    : s.backends.store.record? request.recordKey
      ≠ some ⟨requestFingerprint, resultJson, status, draw.storeTime⟩ := by
  intro found
  have positive := s.backends.store.retentionPositive
  rw [Owns, SQLiteIdempotencyStore.record?_purge_eq, found] at free
  simp at free
  omega

/-- Every exit of the call is clean or filed, exactly when the call does not make a payment that
it cannot account for.
-/
theorem exits_iff (digests : Digests) (hmac : Bytes → Bytes → Bytes) (s : DisbursementManager)
    (draw : DisburseDraw) (request : FloatDisbursementRequest)
    : RaisesClean digests hmac s draw request ∧ ReturnsFiled digests hmac s draw request
      ↔ ¬ s.PaysUnaccounted draw request := by
  unfold RaisesClean ReturnsFiled PaysUnaccounted
  have outcome := disburseFloat_outcome digests hmac s draw request
  dsimp only
  generalize (s.disburseFloat digests hmac draw request).1 = answer at outcome ⊢
  generalize (s.disburseFloat digests hmac draw request).2 = after at outcome ⊢
  -- Only what is raised after the payment leaves a reservation or a payment
  cases outcome with
  | unprinted unprintable =>
      refine iff_of_true ⟨?_, fun _ returned => nomatch returned⟩
        (fun pays => unprintable pays.2.1)
      exact fun _ _ => ⟨fun _ found _ => found, rfl, rfl⟩
  | refused _ _ refuses backends =>
      have taken : ¬ s.Owns draw request := by
        intro owns
        obtain ⟨record, found, _⟩ := refuses
        cases owns.symm.trans found
      refine iff_of_true ⟨?_, fun _ returned => nomatch returned⟩ (fun pays => taken pays.1)
      intro _ _
      rw [backends]
      exact ⟨fun _ found _ => found, rfl, rfl⟩
  | reused _ record _ found _ backends =>
      have taken : ¬ s.Owns draw request := by
        intro owns
        cases owns.symm.trans found
      refine iff_of_true ⟨?_, fun _ _ owns => absurd owns taken⟩ (fun pays => taken pays.1)
      intro _ _
      rw [backends]
      exact ⟨fun _ young _ => SQLiteIdempotencyStore.record?_of_purge young, rfl, rfl⟩
  | unpaid _ error _ _ payment cardIssuer mobileAdapter records =>
      have refused : ¬ Payable request draw.payment.fault := by
        rw [← Backends.pay_isOk_iff digests s.backends]
        rintro ⟨result, paid⟩
        cases payment.symm.trans paid
      refine iff_of_true ⟨?_, fun _ returned => nomatch returned⟩
        (fun pays => refused pays.2.2.1)
      intro _ _
      refine ⟨fun record found => ?_, cardIssuer, mobileAdapter⟩
      rw [records, if_pos rfl] at found
      cases found
  | unwritten _ result printable free payment text records =>
      have payable := payable_of_paid payment
      refine iff_of_false ?_ (not_not.mpr ⟨free, printable, payable, ?_⟩)
      · rintro ⟨clean, _⟩
        -- The reservation of the call is still there, in progress, and it is a new one
        obtain ⟨settled, _⟩ := clean _ rfl
        exact own_reservation_new free (settled _ ((records _).trans (if_pos rfl)) rfl)
      · rcases (unwritable_iff payment).mp text with own | filed
        · exact Or.inl own
        · exact Or.inr (Or.inl filed)
  | unfiled _ result text message printable free payment written filing cardIssuer mobileAdapter
      records =>
      have kept := Backends.pay_kept_iff payment
      have writable := mt (unwritable_iff payment).mpr (by rw [written]; exact nofun)
      cases known : s.backends.onFile? request with
      | none =>
          -- The payment is a new one, and nobody is told of it
          refine iff_of_false ?_
            (not_not.mpr ⟨free, printable, payable_of_paid payment, Or.inr (Or.inr ⟨rfl, _, filing⟩)⟩)
          rintro ⟨clean, _⟩
          obtain ⟨_, sameCards, sameMobile⟩ := clean _ rfl
          exact kept.mp ⟨cardIssuer.symm.trans sameCards, mobileAdapter.symm.trans sameMobile⟩ known
      | some facts =>
          obtain ⟨sameCards, sameMobile⟩ := kept.mpr (by rw [known]; exact nofun)
          rw [known] at writable
          refine iff_of_true ⟨fun _ _ => ⟨?_, cardIssuer.trans sameCards,
            mobileAdapter.trans sameMobile⟩, fun _ returned => nomatch returned⟩ ?_
          · intro record found underway
            rw [records, if_pos rfl] at found
            rw [← Option.some.inj found] at underway
            cases underway
          · rintro ⟨_, _, _, own | filed | ⟨new, _⟩⟩
            · exact writable (Or.inl own)
            · exact writable (Or.inr filed)
            · cases new
  | completed _ result text expiresAt _ free payment written filing records trail =>
      have writable := mt (unwritable_iff payment).mpr (by rw [written]; exact nofun)
      refine iff_of_true ⟨(fun _ raised => nomatch raised), ?_⟩ ?_
      · rintro _ ⟨rfl⟩ _
        refine ⟨⟨_, (records _).trans (if_pos rfl), rfl, resultOfText_resultText written⟩, ?_⟩
        intro fresh
        -- No result of the trail has the new identifier, so the last one is the only one
        obtain ⟨outer, _⟩ := Backends.pay_ok payment
        have new : result ∉ s.auditTrail :=
          fun member => fresh result member outer.drawn
        rw [getAuditTrail, trail, List.filter_append, List.count_append,
          List.count_eq_zero_of_not_mem (fun member => new (List.mem_of_mem_filter member))]
        simp [outer.tenant]
      · rintro ⟨_, _, _, own | filed | ⟨_, _, raised⟩⟩
        · exact writable (Or.inl own)
        · exact writable (Or.inr filed)
        · cases filing.symm.trans raised

end DisbursementManager

section Sample

theorem hugeAmount_pos : (0 : Int) < 10 ^ 200 * 10 ^ 109 := by positivity

/-- A request for a card with a limit that no double reaches. -/
def hugeRequest : FloatDisbursementRequest :=
  { sampleRequest with amountScaled := 10 ^ 200 * 10 ^ 109, amountPositive := hugeAmount_pos }

/-- The SHA-256 of the request's payload, and the MD5 of its card's identifier. -/
def hugeDigests : Digests :=
  ⟨fun _ => 0xd49edffd3903dedb29d39e7a664dd1118ad032acafe6150c24c552be2af28f0a,
    fun _ => 0x53cd0ed85040d969f5d641dac2e8dce0⟩

/-- The card is issued, the call raises, and the key stays in progress. -/
theorem huge_payment_blocks_key
    : let s := DisbursementManager.sampleManager
      let draw : DisburseDraw :=
        ⟨100, samplePayment none, ⟨1700000000000000⟩, ⟨⟨1⟩, ⟨1700000000000000⟩⟩⟩
      let call := s.disburseFloat hugeDigests (fun _ _ => []) draw hugeRequest
      call.1.toBool = false
      ∧ (call.2.backends.store.record? hugeRequest.recordKey).map IdempotencyRecord.status
        = some .inProgress
      ∧ call.2.backends.card? hugeRequest.recordKey ≠ none
      ∧ ¬ DisbursementManager.RaisesClean hugeDigests (fun _ _ => []) s draw hugeRequest := by
  intro s draw call
  have raised : call.1.toBool = false := by decide +kernel
  have blocked
      : (call.2.backends.store.record? hugeRequest.recordKey).map IdempotencyRecord.status
        = some .inProgress := by
    decide +kernel
  refine ⟨raised, blocked, by decide +kernel, fun clean => ?_⟩
  obtain ⟨record, found, status⟩ := Option.map_eq_some_iff.mp blocked
  cases outcome : call.1 with
  | ok result =>
      rw [outcome] at raised
      cases raised
  | error error =>
      obtain ⟨settled, _⟩ := clean error outcome
      cases settled record found status

end Sample

end PettyFlow.Wallet
