import PettyFlow.Wallet.ReusedKeys

/-! A result outlives its manager: whatever was stored for it is read back as it was, and another
manager on the same records answers with it.
-/

namespace PettyFlow.Wallet

open Foundation Idempotency

/-- An amount of 64 bits. -/
def Is64Bit (amount : Int) : Prop := -2 ^ 63 ≤ amount ∧ amount < 2 ^ 63

instance : DecidablePred Is64Bit := fun _ => inferInstanceAs (Decidable (_ ∧ _))

/-- All amounts of a result have 64 bits, also those of its provider. -/
structure FloatDisbursementResult.Fits (result : FloatDisbursementResult) : Prop where
  amount : Is64Bit result.amountScaled
  card : ∀ card ∈ result.virtualCard, Is64Bit card.spendingLimitScaled
  mobile : ∀ mobile ∈ result.mobileDisbursement, Is64Bit mobile.amountScaled

section Writing

/-- Amounts of 64 bits are never too large for a double. -/
theorem amountFormatted_isSome {amount : Int} (fits : Is64Bit amount)
    : ∃ text, amountFormatted amount = some text := by
  have small : amount.natAbs < 2 ^ 256 := by
    obtain ⟨lower, upper⟩ := fits
    omega
  obtain ⟨text, shown⟩ := Option.isSome_iff_exists.mp (texts_isSome small).1
  exact ⟨"$" ++ text, by rw [amountFormatted, shown, Option.map_some]⟩

theorem nested_isSome {α : Type} {toDict : α → Option Json} {value : Option α}
    (written : ∀ inner ∈ value, ∃ payload, toDict inner = some payload)
    : ∃ payload, nested toDict value = some payload := by
  cases value with
  | none => exact ⟨.null, rfl⟩
  | some inner => exact written inner rfl

/-- A result whose amounts have 64 bits is written. -/
theorem resultText_isSome {result : FloatDisbursementResult} (fits : result.Fits)
    : ∃ text, resultText result = some text := by
  obtain ⟨formatted, shown⟩ := amountFormatted_isSome fits.amount
  have card : ∃ payload, nested cardToDict result.virtualCard = some payload := by
    refine nested_isSome (fun card given => ?_)
    obtain ⟨limit, limitShown⟩ := amountFormatted_isSome (fits.card card given)
    exact ⟨_, by rw [cardToDict, limitShown, Option.map_some]⟩
  have mobile : ∃ payload, nested mobileToDict result.mobileDisbursement = some payload := by
    refine nested_isSome (fun mobile given => ?_)
    obtain ⟨amount, amountShown⟩ := amountFormatted_isSome (fits.mobile mobile given)
    exact ⟨_, by rw [mobileToDict, amountShown, Option.map_some]⟩
  obtain ⟨virtualCard, cardWritten⟩ := card
  obtain ⟨mobileDisbursement, mobileWritten⟩ := mobile
  rw [resultText_eq]
  unfold FloatDisbursementResult.toDict
  rw [shown, cardWritten, mobileWritten]
  exact ⟨_, rfl⟩

end Writing

namespace DisbursementManager

variable {digests : Digests} {s restarted : DisbursementManager}
  {request : FloatDisbursementRequest} {result : FloatDisbursementResult} {since : Int}

/-- A manager on the same records holds the same results. -/
theorem Holds.restart (held : s.Holds digests request result since)
    (shared : restarted.backends.store.records = s.backends.store.records)
    : restarted.Holds digests request result since := by
  obtain ⟨text, written, found⟩ := held
  refine ⟨text, written, ?_⟩
  rw [← found, SQLiteIdempotencyStore.record?, SQLiteIdempotencyStore.record?, shared]

/-- A call comes within the retention time of a record. -/
def InTime (s : DisbursementManager) (since storeTime : Int) : Prop :=
  storeTime - s.backends.store.retentionSeconds ≤ since

/-- What was stored for a result is read back as that result. After the owner of a key has
returned it, any manager on the same records, after any calls in the retention time, answers
the request with the same result and pays nothing.
-/
theorem result_restored (digests : Digests) (hmac : Bytes → Bytes → Bytes)
    (result : FloatDisbursementResult)
    : (result.Fits → ∃ text, resultText result = some text ∧ resultOfText text = some result)
      ∧ ∀ (s : DisbursementManager) (first : DisburseDraw) (request : FloatDisbursementRequest),
          (s.backends.store.purge first.storeTime).record? request.recordKey = none
          → (s.disburseFloat digests hmac first request).1 = .ok result
          → ∀ (restarted : DisbursementManager) (between : List ManagerCall)
              (again : DisburseDraw),
              restarted.backends.store.records
                = (s.disburseFloat digests hmac first request).2.backends.store.records
              → (∀ call ∈ between, restarted.InTime first.storeTime call.storeTime)
              → restarted.InTime first.storeTime again.storeTime
              → let reached := (managerMachine digests hmac).exec restarted between
                let call := reached.disburseFloat digests hmac again request
                call.1 = .ok result
                ∧ call.2.backends.cardIssuer = reached.backends.cardIssuer
                ∧ call.2.backends.mobileAdapter = reached.backends.mobileAdapter := by
  constructor
  · intro fits
    obtain ⟨text, written⟩ := resultText_isSome fits
    exact ⟨text, written, resultOfText_resultText written⟩
  · intro s first request owner completed restarted between again shared inTime againInTime
    have filed : restarted.Holds digests request result first.storeTime :=
      (holds_of_completed owner completed).restart shared
    obtain ⟨held, retention⟩ := filed.exec hmac inTime
    unfold InTime at againInTime
    rw [← retention] at againInTime
    exact (held.answers (printable_of_ok completed) rfl (fun _ => rfl) againInTime).1
      ⟨rfl, rfl, rfl, rfl, rfl, rfl, rfl, rfl, rfl⟩

section Sample

/-- A result with both nested results, missing times and empty texts. -/
def nestedResult : FloatDisbursementResult where
  disbursementId := "fdisb_0000000000000001"
  tenantId := "TENANT-1"
  custodianId := "CUST-1"
  fundId := "FUND-01"
  channel := .ach
  amountScaled := 1002550
  currency := "USD"
  status := "reversed"
  idempotencyKey := "key \"1\""
  virtualCard := some {
    cardId := "vcard_1"
    tenantId := "TENANT-1"
    custodianId := "CUST-1"
    fundId := "FUND-01"
    lastFour := "0042"
    cardStatus := .cancelled
    spendingLimitScaled := -9
    currency := "USD"
    idempotencyKey := ""
    backend := .marqeta
    createdAt := "2024-03-01T09:30:00+00:00"
    expiresAt := "2025-03-01T09:30:00+00:00"
    metadata := ⟨[("metadata", "é"), ("purpose", "")], by decide⟩
  }
  mobileDisbursement := some {
    disbursementId := "mdisb_1"
    tenantId := "TENANT-1"
    custodianId := "CUST-1"
    fundId := "FUND-01"
    recipientPhoneOrAccount := "+254700000000"
    amountScaled := 1002550
    currency := "USD"
    status := .reversed
    backend := .venmo
    idempotencyKey := "key \"1\""
    referenceNumber := "REF"
    initiatedAt := "2024-03-01T09:30:00+00:00"
    completedAt := none
    failureReason := some ""
    metadata := ⟨[], by decide⟩
  }
  initiatedAt := "2024-03-01T09:30:00+00:00"
  completedAt := none
  failureReason := some "reversed by the bank"

/-- The nested result is read back. A payment is repeated by a manager that knows nothing but
the records, when the provider would refuse it.
-/
theorem result_restored_sample
    : let hmac : Bytes → Bytes → Bytes := fun _ _ => []
      let first :=
        sampleManager.disburseFloat samplePaymentDigests hmac (sampleDraw 100 none) sampleRequest
      let restarted := sampleManager.withStore first.2.backends.store
      let second :=
        restarted.disburseFloat samplePaymentDigests hmac
          (sampleDraw 172900 (some "provider unavailable")) sampleRequest
      (∃ text, resultText nestedResult = some text ∧ resultOfText text = some nestedResult)
      ∧ ∃ result, first.1 = .ok result ∧ second.1 = .ok result := by
  intro hmac first restarted second
  have fits : nestedResult.Fits :=
    {
      amount := by decide
      card := by
        rintro card ⟨⟩
        decide
      mobile := by
        rintro mobile ⟨⟩
        decide
    }
  refine ⟨(result_restored samplePaymentDigests hmac nestedResult).1 fits, ?_⟩
  cases completed : first.1 with
  | error error =>
      have isOk : first.1.toBool = true := by decide +kernel
      rw [completed] at isOk
      cases isOk
  | ok result =>
      -- The period of the restarted store is that of the first one
      have retention : restarted.backends.store.retentionSeconds = 604800 :=
        disburseFloat_retentionSeconds samplePaymentDigests hmac sampleManager
          (sampleDraw 100 none) sampleRequest
      have inTime : restarted.InTime 100 172900 := by
        unfold InTime
        rw [retention]
        decide
      have replayed :=
        (result_restored samplePaymentDigests hmac result).2 sampleManager (sampleDraw 100 none)
          sampleRequest rfl completed restarted []
          (sampleDraw 172900 (some "provider unavailable")) rfl (List.forall_mem_nil _) inTime
      exact ⟨result, rfl, replayed.1⟩

end Sample

end DisbursementManager

end PettyFlow.Wallet
