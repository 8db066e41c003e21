import PettyFlow.Ledger.CanonicalBytes
import PettyFlow.Ledger.ChainIntegrity

/-! The entry types of a batch as the balance check counts them and as a block records them. The
check takes everything for a credit that is not the debit member; the serialiser also knows
debits by their text and bytes.
-/

namespace PettyFlow.Ledger

open Foundation

/-- The entry type under which a leg is recorded, by the bytes that are signed for it. -/
def RawType.recorded (raw : RawType) : Option EntryType :=
  if typeBytes raw = debitBytes then
    some .debit
  else if typeBytes raw = creditBytes then
    some .credit
  else
    none

/-- What the balance check counts a leg as. -/
def EntryTypeArg.counted (arg : EntryTypeArg) : EntryType :=
  if arg = .member .debit then .debit else .credit

/-- A member of the enumeration, or a credit in any other spelling. -/
def EntryTypeArg.MemberOrCredit : EntryTypeArg → Prop
  | .member _ => True
  | .text value => value = "CREDIT"
  | .bytes value => value = creditBytes

instance : DecidablePred EntryTypeArg.MemberOrCredit
  | .member _ => isTrue trivial
  | .text value => inferInstanceAs (Decidable (value = "CREDIT"))
  | .bytes value => inferInstanceAs (Decidable (value = creditBytes))

/-- The amounts of the legs that are recorded under an entry type. -/
def recordedTotal (legs : List LegPayload) (entryType : EntryType) : Int :=
  ((legs.filter (fun leg => leg.type.recorded = some entryType)).map LegPayload.amt).sum

/-- Every leg is recorded as a debit or as a credit, and the debits equal the credits. -/
structure RecordsBalance (legs : List LegPayload) : Prop where
  typed : ∀ leg ∈ legs, leg.type.recorded.isSome
  balanced : recordedTotal legs .debit = recordedTotal legs .credit

/-- The check and the serialiser take every leg for the same. -/
def ClassifiedAlike (legs : List PostingLeg) : Prop :=
  ∀ leg ∈ legs, leg.entryType.raw.recorded = some leg.entryType.counted

section Recording

theorem debit_ne_credit : debitBytes ≠ creditBytes := by decide

theorem recorded_member (entryType : EntryType)
    : (EntryTypeArg.member entryType).raw.recorded = some entryType := by
  cases entryType <;> decide

theorem recorded_eq_credit {raw : RawType}
    : raw.recorded = some .credit ↔ typeBytes raw = creditBytes := by
  unfold RawType.recorded
  by_cases debit : typeBytes raw = debitBytes
  · simp [debit, debit_ne_credit]
  · by_cases credit : typeBytes raw = creditBytes <;> simp [debit, credit, debit_ne_credit.symm]

/-- Exactly these types are recorded as what they are counted as. -/
theorem alike_iff (arg : EntryTypeArg)
    : arg.raw.recorded = some arg.counted ↔ arg.MemberOrCredit := by
  cases arg with
  | member entryType =>
      rw [recorded_member]
      cases entryType <;> simp [EntryTypeArg.counted, EntryTypeArg.MemberOrCredit]
  | text value =>
      have credit : (EntryTypeArg.text value).counted = .credit := rfl
      rw [credit, recorded_eq_credit, EntryTypeArg.raw, typeBytes_text]
      exact ⟨fun same => utf8_injective same, fun same => congrArg utf8 same⟩
  | bytes value =>
      have credit : (EntryTypeArg.bytes value).counted = .credit := rfl
      rw [credit, recorded_eq_credit]
      exact Iff.rfl

/-- The amounts that are counted as credits and recorded as debits. -/
def misfiled (legs : List PostingLeg) : Int :=
  ((legs.filter (fun leg =>
      leg.entryType.raw.recorded = some .debit ∧ leg.entryType ≠ .member .debit)).map
    PostingLeg.amountScaled).sum

/-- Amounts are positive: they sum up to nothing only where there are none. -/
theorem sum_amounts_eq_zero (legs : List PostingLeg)
    : 0 ≤ (legs.map PostingLeg.amountScaled).sum
      ∧ ((legs.map PostingLeg.amountScaled).sum = 0 ↔ legs = []) := by
  induction legs with
  | nil => simp
  | cons leg rest ih =>
      have positive := leg.amountPositive
      rw [List.map_cons, List.sum_cons]
      refine ⟨by omega, iff_of_false (by omega) (List.cons_ne_nil _ _)⟩

/-- Where every leg is recorded, the record moves the misfiled amounts from one side to the
other, by induction over the legs.
-/
theorem recordedTotal_eq {legs : List PostingLeg}
    (typed : ∀ leg ∈ legs, leg.entryType.raw.recorded.isSome)
    : recordedTotal (legs.map PostingLeg.payload) .debit
        = ((legs.filter (fun leg => leg.entryType = .member .debit)).map
            PostingLeg.amountScaled).sum
          + misfiled legs
      ∧ recordedTotal (legs.map PostingLeg.payload) .credit + misfiled legs
        = ((legs.filter (fun leg => leg.entryType ≠ .member .debit)).map
            PostingLeg.amountScaled).sum := by
  induction legs with
  | nil => exact ⟨rfl, rfl⟩
  | cons leg rest ih =>
      obtain ⟨debits, credits⟩ := ih (fun leg later => typed leg (List.mem_cons_of_mem _ later))
      obtain ⟨entryType, recorded⟩ := Option.isSome_iff_exists.mp (typed leg List.mem_cons_self)
      unfold recordedTotal misfiled at debits credits ⊢
      cases entryType with
      | debit =>
          by_cases member : leg.entryType = .member .debit
          · simp [PostingLeg.payload, recorded_member, member] at debits credits ⊢
            omega
          · simp [PostingLeg.payload, recorded, member] at debits credits ⊢
            omega
      | credit =>
          have member : leg.entryType ≠ .member .debit := by
            intro same
            rw [same, recorded_member] at recorded
            cases recorded
          simp [PostingLeg.payload, recorded, member] at debits credits ⊢
          omega

theorem misfiled_eq_zero {legs : List PostingLeg}
    : misfiled legs = 0
      ↔ ∀ leg ∈ legs,
          leg.entryType.raw.recorded = some .debit → leg.entryType = .member .debit := by
  rw [misfiled, (sum_amounts_eq_zero _).2, List.filter_eq_nil_iff]
  simp only [decide_eq_true_eq, not_and, not_not]

/-- A balanced batch is recorded in balance exactly when it is recorded as it was checked. -/
theorem recordsBalance_iff_alike {tx : TransactionBatch}
    (balanced : tx.totalDebits = tx.totalCredits)
    : RecordsBalance (tx.legs.map PostingLeg.payload) ↔ ClassifiedAlike tx.legs := by
  unfold TransactionBatch.totalDebits TransactionBatch.totalCredits at balanced
  constructor
  · rintro ⟨typed, equal⟩ leg member
    have recorded : ∀ leg ∈ tx.legs, leg.entryType.raw.recorded.isSome :=
      fun leg member => typed leg.payload (List.mem_map_of_mem member)
    obtain ⟨debits, credits⟩ := recordedTotal_eq recorded
    -- What is recorded as a debit but counted as a credit shifts both totals
    have none_ : misfiled tx.legs = 0 := by omega
    obtain ⟨entryType, isRecorded⟩ := Option.isSome_iff_exists.mp (recorded leg member)
    rw [isRecorded, EntryTypeArg.counted]
    cases entryType with
    | debit => rw [if_pos (misfiled_eq_zero.mp none_ leg member isRecorded)]
    | credit =>
        rw [if_neg]
        intro same
        rw [same, recorded_member] at isRecorded
        cases isRecorded
  · intro alike
    have recorded : ∀ leg ∈ tx.legs, leg.entryType.raw.recorded.isSome :=
      fun leg member => Option.isSome_of_eq_some (alike leg member)
    have none_ : misfiled tx.legs = 0 := by
      apply misfiled_eq_zero.mpr
      intro leg member isDebit
      have counted := (alike leg member).symm.trans isDebit
      -- A leg that is recorded as a debit is counted as one, hence typed with the member
      by_contra other
      rw [EntryTypeArg.counted, if_neg other] at counted
      cases counted
    obtain ⟨debits, credits⟩ := recordedTotal_eq recorded
    refine ⟨fun payload listed => ?_, by omega⟩
    obtain ⟨leg, member, rfl⟩ := List.mem_map.mp listed
    exact recorded leg member

/-- A block signs the bytes of the legs that it stores. An accepted batch is recorded in balance,
and as it was checked, exactly when every entry type is a member or a credit.
-/
theorem recorded_as_checked_iff (hmac : Bytes → Bytes → Bytes) (s next : CachedChain)
    (tx : TransactionBatch) (block : LedgerBlock)
    (accepted : s.appendTransaction hmac tx = (.ok block, next))
    : block.currentHash = hmac s.chain.secretKey block.toCanonicalBytes
      ∧ block.legsPayload = tx.legs.map PostingLeg.payload
      ∧ (RecordsBalance block.legsPayload ↔ ∀ leg ∈ tx.legs, leg.entryType.MemberOrCredit)
      ∧ (ClassifiedAlike tx.legs ↔ ∀ leg ∈ tx.legs, leg.entryType.MemberOrCredit) := by
  have alike
      : ClassifiedAlike tx.legs ↔ ∀ leg ∈ tx.legs, leg.entryType.MemberOrCredit :=
    forall₂_congr (fun leg _ => alike_iff leg.entryType)
  rcases appendTransaction_cases hmac s tx with ⟨error, raised⟩ | ⟨_, balanced, cache, appended⟩
  · rw [raised] at accepted
    cases accepted
  · rw [appended] at accepted
    cases accepted
    exact ⟨rfl, rfl, (recordsBalance_iff_alike balanced).trans alike, alike⟩

end Recording

section Sample

/-- A purchase whose debit comes as a member and whose credits come as text and bytes. -/
def mixedPurchase : TransactionBatch := {
  transactionId := "tx-2"
  tenantId := "TENANT-A"
  description := "Supplies"
  legs := [
    ⟨"supplies", .member .debit, 35000, by decide⟩,
    ⟨"cash", .text "CREDIT", 20500, by decide⟩,
    ⟨"card", .bytes creditBytes, 14500, by decide⟩
  ]
  timestamp := .text "2024-03-01T09:30:00"
}

/-- The chain of a tenant before its first block. -/
def emptyChain : CachedChain := .new .empty "TENANT-A" (utf8 "ledger key")

theorem recorded_as_checked_iff_sample
    : ∃ block next,
        emptyChain.appendTransaction sampleHmac mixedPurchase = (.ok block, next)
        ∧ block.currentHash = sampleHmac (utf8 "ledger key") block.toCanonicalBytes
        ∧ block.legsPayload = mixedPurchase.legs.map PostingLeg.payload
        ∧ (RecordsBalance block.legsPayload
          ↔ ∀ leg ∈ mixedPurchase.legs, leg.entryType.MemberOrCredit)
        ∧ (ClassifiedAlike mixedPurchase.legs
          ↔ ∀ leg ∈ mixedPurchase.legs, leg.entryType.MemberOrCredit) := by
  refine ⟨_, _, rfl, ?_⟩
  exact recorded_as_checked_iff sampleHmac emptyChain _ mixedPurchase _ rfl

/-- A transfer whose second debit is a text, as it is read from JSON. -/
def textDebit : TransactionBatch := {
  mixedPurchase with
  legs := [
    ⟨"supplies", .member .debit, 35000, by decide⟩,
    ⟨"cash", .text "DEBIT", 35000, by decide⟩
  ]
}

/-- The text is counted as a credit: the batch passes the check, and two debits are recorded. -/
theorem text_debit_unbalanced
    : ∃ block next,
        emptyChain.appendTransaction sampleHmac textDebit = (.ok block, next)
        ∧ recordedTotal block.legsPayload .debit = 70000
        ∧ recordedTotal block.legsPayload .credit = 0
        ∧ ¬ RecordsBalance block.legsPayload := by
  refine ⟨_, _, rfl, by decide, by decide, fun records => ?_⟩
  have equal := records.balanced
  revert equal
  decide

end Sample

end PettyFlow.Ledger
