import PettyFlow.Adapters.ReplayIsolation
import PettyFlow.Foundation.FloatValue
import PettyFlow.Foundation.XmlReading

/-! The amount that a credit transfer document tells the bank, beside the amount that the adapter
records. The document has two decimals, the record has four.
-/

namespace PettyFlow.Adapters

open Foundation

/-- A number of hundredths, written with two decimals. -/
def hundredthsText (units : Nat) : String :=
  s!"{units / 10 ^ 2}." ++ zeroPadded 2 (units % 10 ^ 2 : Nat)

/-- The transfer is sent with the amount of its request, or it is refused where two decimals
cannot hold that amount.
-/
def SentExactly (request : ACHTransferRequest)
    (outcome : Except PostingError ACHTransferResult)
    : Prop :=
  match outcome with
  | .ok result =>
      (Xml.writtenTexts "CtrlSum" result.pain001Xml).map FloatValue.ofDecimal
          = [(request.amountScaled : ℚ) / 10000, (request.amountScaled : ℚ) / 10000]
        ∧ (Xml.writtenTexts "InstdAmt" result.pain001Xml).map FloatValue.ofDecimal
          = [(request.amountScaled : ℚ) / 10000]
        ∧ result.amountScaled = request.amountScaled
  | .error _ => ¬ (100 : Int) ∣ request.amountScaled

section Hundredths

theorem zeroPadded_two (n : Nat) (small : n < 100)
    : (zeroPadded 2 n).toList = [Nat.digitChar (n / 10), Nat.digitChar (n % 10)] := by
  have all : ∀ n < 100, (zeroPadded 2 (n : Nat)).toList
      = [Nat.digitChar (n / 10), Nat.digitChar (n % 10)] := by
    decide +kernel
  exact all n small

theorem toList_hundredthsText (units : Nat)
    : (hundredthsText units).toList
      = Nat.toDigits 10 (units / 100)
        ++ ['.', Nat.digitChar (units % 100 / 10), Nat.digitChar (units % 100 % 10)] := by
  have whole : (toString (units / 10 ^ 2)).toList = Nat.toDigits 10 (units / 100) :=
    String.toList_ofList
  have decimals := zeroPadded_two (units % 100) (Nat.mod_lt _ (by decide))
  calc
    (hundredthsText units).toList
        = ((toString (units / 10 ^ 2)).toList ++ ['.'])
          ++ (zeroPadded 2 (units % 100 : Nat)).toList := by
      rw [hundredthsText, String.toList_append, String.toList_append]
      rfl
    _ = _ := by
      rw [whole, decimals, List.append_assoc]
      rfl

theorem isDigit_digitChar {n : Nat} (small : n < 10) : (Nat.digitChar n).isDigit = true := by
  have all : ∀ n < 10, (Nat.digitChar n).isDigit = true := by decide
  exact all n small

theorem ofDecimal_hundredthsText (units : Nat)
    : FloatValue.ofDecimal (hundredthsText units).toList = (units : ℚ) / 100 := by
  have digits (c : Char) (member : c ∈ Nat.toDigits 10 (units / 100)) : c.isDigit = true :=
    Nat.isDigit_of_mem_toDigits (by decide) (by decide) member
  have tens := isDigit_digitChar (by omega : units % 100 / 10 < 10)
  have ones := isDigit_digitChar (by omega : units % 100 % 10 < 10)
  have dot : ('.').isDigit = false := by decide
  have value
      : Nat.ofDigitChars 10
          (Nat.toDigits 10 (units / 100)
            ++ [Nat.digitChar (units % 100 / 10), Nat.digitChar (units % 100 % 10)]) 0
        = units := by
    rw [Nat.ofDigitChars_append, Nat.ofDigitChars_ten_toDigits,
      Nat.ofDigitChars_cons_digitChar_of_lt_ten (by omega),
      Nat.ofDigitChars_cons_digitChar_of_lt_ten (by omega), Nat.ofDigitChars_nil]
    omega
  rw [toList_hundredthsText, FloatValue.ofDecimal, List.takeWhile_append_of_pos digits,
    List.dropWhile_append_of_pos digits]
  simp only [List.takeWhile_cons, List.dropWhile_cons, dot, tens, ones, Bool.false_eq_true,
    if_false, if_true, List.takeWhile_nil, List.dropWhile_nil, List.append_nil, value,
    List.length_cons, List.length_nil]
  norm_num
  ring

theorem escapeText_hundredthsText (units : Nat)
    : Xml.escapeText (hundredthsText units) = hundredthsText units := by
  apply Xml.escapeText_eq_self
  have plain (c : Char) (digit : c.isDigit = true) : c ≠ '&' ∧ c ≠ '<' ∧ c ≠ '>' := by
    refine ⟨?_, ?_, ?_⟩
    all_goals rintro rfl
    all_goals cases digit
  intro c member
  rw [toList_hundredthsText] at member
  rcases List.mem_append.mp member with whole | rest
  · exact plain c (Nat.isDigit_of_mem_toDigits (by decide) (by decide) whole)
  · simp only [List.mem_cons, List.not_mem_nil, or_false] at rest
    rcases rest with rfl | rfl | rfl
    · decide
    · exact plain _ (isDigit_digitChar (by omega))
    · exact plain _ (isDigit_digitChar (by omega))

/-- The text of a positive amount is one of hundredths. -/
theorem amountText_hundredths {amount : Int} (positive : 0 < amount) {text : String}
    (written : amountText amount = some text)
    : ∃ units, text = hundredthsText units := by
  rw [amountText, if_neg positive.ne'] at written
  obtain ⟨x, _, rfl⟩ := Option.map_eq_some_iff.mp written
  rw [if_neg (not_lt.mpr positive.le), String.empty_append]
  exact ⟨_, rfl⟩

end Hundredths

section Documents

private def parent (tag : String) (children : List Xml) : Xml := .element tag [] "" children

private def field (tag text : String) : Xml := .element tag [] text []

/-- The tree of a credit transfer document. -/
def transferDocument (messageId paymentInfoId creationDatetime : String) (today : CivilDate)
    (request : ACHTransferRequest) (amountStr : String)
    : Xml :=
  .element "Document" [⟨"xmlns", iso20022Namespace⟩] "" [
    parent "CstmrCdtTrfInitn" [
      parent "GrpHdr" [
        field "MsgId" messageId,
        field "CreDtTm" creationDatetime,
        field "NbOfTxs" "1",
        field "CtrlSum" amountStr,
        parent "InitgPty" [field "Nm" request.initiatingAccount.accountHolder]
      ],
      parent "PmtInf" [
        field "PmtInfId" paymentInfoId,
        field "PmtMtd" "TRF",
        field "NbOfTxs" "1",
        field "CtrlSum" amountStr,
        parent "PmtTpInf" [parent "SvcLvl" [field "Cd" request.serviceLevel.value]],
        field "ReqdExctnDt" (Instant.dateText today),
        parent "Dbtr" [field "Nm" request.initiatingAccount.accountHolder],
        parent "DbtrAcct" [
          parent "Id" [field "Othr" request.initiatingAccount.accountNumber],
          field "Ccy" request.currency
        ],
        parent "DbtrAgt" [
          parent "FinInstnId" [field "ClrSysMmbId" request.initiatingAccount.routingNumber]
        ],
        parent "CdtTrfTxInf" [
          parent "PmtId" [field "EndToEndId" request.referenceDocument],
          parent "Amt" [.element "InstdAmt" [⟨"Ccy", request.currency⟩] amountStr []],
          parent "CdtrAgt" [
            parent "FinInstnId" [field "ClrSysMmbId" request.beneficiaryAccount.routingNumber]
          ],
          parent "Cdtr" [field "Nm" request.beneficiaryAccount.accountHolder],
          parent "CdtrAcct" [parent "Id" [field "Othr" request.beneficiaryAccount.accountNumber]],
          parent "RmtInf" [field "Ustrd" request.purpose]
        ]
      ]
    ]
  ]

variable {messageId paymentInfoId creationDatetime amountStr : String} {today : CivilDate}
  {request : ACHTransferRequest}

theorem buildPain001Xml_ok {xml : String}
    (built
      : buildPain001Xml messageId paymentInfoId creationDatetime today request = .ok xml)
    : ∃ amountStr,
        amountText request.amountScaled = some amountStr
        ∧ xml
          = (transferDocument messageId paymentInfoId creationDatetime today request
              amountStr).toText := by
  obtain ⟨amountStr, written, built⟩ := bind_ok built
  exact ⟨amountStr, orRaise_ok written, (Except.ok.inj built).symm⟩

theorem transferDocument_clean
    : Xml.isClean
        (transferDocument messageId paymentInfoId creationDatetime today request amountStr)
      = true := by
  simp only [transferDocument, parent, field, Xml.isClean, Xml.childrenClean, List.all_cons,
    List.all_nil, Bool.and_true]
  decide

theorem transferDocument_sums
    : Xml.textsOf "CtrlSum"
        (transferDocument messageId paymentInfoId creationDatetime today request amountStr)
      = [amountStr, amountStr] := by
  simp [transferDocument, parent, field, Xml.textsOf, Xml.childrenTexts]

theorem transferDocument_instructed
    : Xml.textsOf "InstdAmt"
        (transferDocument messageId paymentInfoId creationDatetime today request amountStr)
      = [amountStr] := by
  simp [transferDocument, parent, field, Xml.textsOf, Xml.childrenTexts]

end Documents

section Transfers

/-- The document of a transfer tells the bank a number of hundredths, which stands for the
recorded amount.
-/
def Told (result : ACHTransferResult) : Prop :=
  0 < result.amountScaled
  ∧ ∃ units,
      amountText result.amountScaled = some (hundredthsText units)
      ∧ (Xml.writtenTexts "CtrlSum" result.pain001Xml).map FloatValue.ofDecimal
        = [(units : ℚ) / 100, (units : ℚ) / 100]
      ∧ (Xml.writtenTexts "InstdAmt" result.pain001Xml).map FloatValue.ofDecimal
        = [(units : ℚ) / 100]

theorem initiate_told {draw : TransferDraw} {request : ACHTransferRequest}
    {result : ACHTransferResult} (ok : PlaidAdapter.initiate draw request = .ok result)
    : Told result ∧ result.amountScaled = request.amountScaled := by
  obtain ⟨xml, built, made⟩ := bind_ok ok
  obtain rfl := Except.ok.inj made
  obtain ⟨amountStr, written, rfl⟩ := buildPain001Xml_ok built
  obtain ⟨units, rfl⟩ := amountText_hundredths request.amountPositive written
  refine ⟨⟨request.amountPositive, units, written, ?_, ?_⟩, rfl⟩
  · rw [Xml.writtenTexts_toText (by decide) transferDocument_clean, transferDocument_sums]
    simp [escapeText_hundredthsText, ofDecimal_hundredthsText]
  · rw [Xml.writtenTexts_toText (by decide) transferDocument_clean, transferDocument_instructed]
    simp [escapeText_hundredthsText, ofDecimal_hundredthsText]

/-- Every filed transfer was told to the bank. -/
def AllTold (s : PlaidAdapter) : Prop :=
  ∀ key result, s.transfers.get? key = some result → Told result

/-- What an initiation answers with is filed already, or it is initiated and filed now. -/
theorem initiateTransfer_cases (s : PlaidAdapter) (draw : TransferDraw)
    (request : ACHTransferRequest)
    : (∃ filed,
        s.transfers.get? request.idempotencyKey = some filed
        ∧ s.initiateTransfer draw request = (.ok filed, s))
      ∨ s.transfers.get? request.idempotencyKey = none
        ∧ ((∃ error,
              amountText request.amountScaled = none
              ∧ s.initiateTransfer draw request = (.error error, s))
          ∨ ∃ result,
              PlaidAdapter.initiate draw request = .ok result
              ∧ s.initiateTransfer draw request
                = (.ok result,
                  { s with transfers := s.transfers.set request.idempotencyKey result })) := by
  unfold PlaidAdapter.initiateTransfer replayOrPost PlaidAdapter.post
  cases found : s.transfers.get? request.idempotencyKey with
  | some filed => exact Or.inl ⟨filed, rfl, rfl⟩
  | none =>
      refine Or.inr ⟨rfl, ?_⟩
      have outcome := initiate_isOk draw request
      cases made : PlaidAdapter.initiate draw request with
      | error error =>
          rw [made] at outcome
          have unwritten := Option.isSome_eq_false_iff.mp outcome.symm
          exact Or.inl ⟨error, Option.isNone_iff_eq_none.mp unwritten, rfl⟩
      | ok result => exact Or.inr ⟨result, rfl, rfl⟩

theorem initiateTransfer_allTold (s : PlaidAdapter) (call : TransferCall) (told : AllTold s)
    : AllTold (plaidPosting.machine.step s call).2 := by
  rw [plaidPosting_step]
  rcases initiateTransfer_cases s call.draw call.request with
    ⟨_, _, same⟩ | ⟨_, ⟨_, _, same⟩ | ⟨result, made, same⟩⟩
  · rw [same]
    exact told
  · rw [same]
    exact told
  · rw [same]
    intro key filed found
    rw [Dict.get?_set] at found
    split at found
    · exact Option.some.inj found ▸ (initiate_told made).1
    · exact told key filed found

theorem hundredthsText_injective : Function.Injective hundredthsText := by
  intro first second same
  have values := ofDecimal_hundredthsText first
  rw [same, ofDecimal_hundredthsText] at values
  have equal : (second : ℚ) = first := by linarith
  exact (Nat.cast_injective equal).symm

theorem roundHalfEven_hundredths (units : Nat) : roundHalfEven (units * 100) 100 = units := by
  unfold roundHalfEven
  simp

/-- What was told is exact when it holds as many hundredths as the amount. -/
theorem sentExactly_ok_iff {request : ACHTransferRequest} {result : ACHTransferResult}
    (told : Told result)
    (exact
      : (100 : Int) ∣ request.amountScaled
        → amountText request.amountScaled
          = some (hundredthsText (roundHalfEven request.amountScaled.toNat 100)))
    : SentExactly request (.ok result)
      ↔ (100 : Int) ∣ request.amountScaled ∧ result.amountScaled = request.amountScaled := by
  obtain ⟨positive, units, written, sums, instructed⟩ := told
  unfold SentExactly
  dsimp only
  rw [sums, instructed]
  constructor
  · rintro ⟨_, same, recorded⟩
    have value : (units : ℚ) / 100 = (request.amountScaled : ℚ) / 10000 :=
      (List.cons.inj same).1
    have whole : (request.amountScaled : ℚ) = ((100 * units : Int) : ℚ) := by
      push_cast
      linarith
    exact ⟨⟨units, by exact_mod_cast whole⟩, recorded⟩
  · rintro ⟨hundredths, recorded⟩
    have expected := exact hundredths
    rw [← recorded, written] at expected
    have many := hundredthsText_injective (Option.some.inj expected)
    obtain ⟨count, multiple⟩ := Int.eq_ofNat_of_zero_le (by omega : 0 ≤ result.amountScaled / 100)
    have amount : result.amountScaled = count * 100 := by omega
    have exactly : units = count := by
      rw [many, amount]
      exact roundHalfEven_hundredths count
    have value : (units : ℚ) / 100 = (request.amountScaled : ℚ) / 10000 := by
      rw [← recorded, amount, exactly]
      push_cast
      ring
    rw [value]
    exact ⟨rfl, rfl, recorded⟩

end Transfers

/-- After every run of the adapter, a transfer is sent exactly or refused exactly when its amount
has whole hundredths and no transfer of another amount is filed under its key. The texts of
amounts are taken as exact.
-/
theorem transfer_sentExactly_iff (mockMode : Bool) (calls : List TransferCall)
    (draw : TransferDraw) (request : ACHTransferRequest)
    (bounded : request.amountScaled < 2 ^ 63)
    (exact
      : (100 : Int) ∣ request.amountScaled
        → amountText request.amountScaled
          = some (hundredthsText (roundHalfEven request.amountScaled.toNat 100)))
    : SentExactly request
        ((plaidPosting.machine.exec (.new mockMode) calls).initiateTransfer draw request).1
      ↔ (100 : Int) ∣ request.amountScaled
        ∧ ∀ filed ∈ (plaidPosting.machine.exec (.new mockMode) calls).transfers.get?
            request.idempotencyKey,
            filed.amountScaled = request.amountScaled := by
  have noneFiled : AllTold (.new mockMode) := nofun
  have told : AllTold (plaidPosting.machine.exec (.new mockMode) calls) :=
    plaidPosting.machine.exec_invariant_of_step
      (fun s call told => initiateTransfer_allTold s call told) noneFiled calls
  have positive := request.amountPositive
  have writable := (texts_isSome (by omega : request.amountScaled.natAbs < 2 ^ 256)).1
  rcases initiateTransfer_cases (plaidPosting.machine.exec (.new mockMode) calls) draw request with
    ⟨filed, found, same⟩ | ⟨missing, ⟨_, unwritten, _⟩ | ⟨result, made, same⟩⟩
  · rw [same, sentExactly_ok_iff (told _ filed found) exact, found]
    simp
  · rw [unwritten] at writable
    cases writable
  · obtain ⟨own, recorded⟩ := initiate_told made
    rw [same, sentExactly_ok_iff own exact, missing]
    simp [recorded]

section Sample

def branchAccount : BankAccount where
  accountHolder := "Branch"
  accountNumber := "1000"
  routingNumber := "021000021"
  bankName := "First Bank"

theorem wholeAmount_pos : (0 : Int) < 1002500 := by decide

theorem smallAmount_pos : (0 : Int) < 49 := by decide

/-- A transfer of 100.25 dollars. -/
def wholeTransfer : ACHTransferRequest where
  tenantId := "acme"
  referenceDocument := "TX-1"
  initiatingAccount := branchAccount
  beneficiaryAccount := branchAccount
  amountScaled := 1002500
  currency := "USD"
  serviceLevel := .nurg
  purpose := "Petty Cash Replenishment"
  idempotencyKey := "key-1"
  amountPositive := wholeAmount_pos

/-- A transfer of less than half a cent. -/
def smallTransfer : ACHTransferRequest :=
  { wholeTransfer with amountScaled := 49, amountPositive := smallAmount_pos }

def branchDraw : TransferDraw :=
  ⟨⟨1⟩, ⟨2⟩, ⟨3⟩, ⟨1785542400000000⟩, ⟨2026, 8, 1⟩⟩

theorem transfer_sentExactly_iff_sample
    : SentExactly wholeTransfer
        ((PlaidAdapter.new true).initiateTransfer branchDraw wholeTransfer).1 :=
  (transfer_sentExactly_iff true [] branchDraw wholeTransfer (by decide)
      (fun _ => by decide +kernel)).mpr
    ⟨by decide, nofun⟩

/-- The bank is told to transfer nothing, and the transfer is not refused. -/
theorem small_transfer_sent
    : amountText smallTransfer.amountScaled = some "0.00"
      ∧ ¬ SentExactly smallTransfer
          ((PlaidAdapter.new true).initiateTransfer branchDraw smallTransfer).1 := by
  have written : amountText smallTransfer.amountScaled = some "0.00" := by decide
  have uneven : ¬ (100 : Int) ∣ smallTransfer.amountScaled := by decide
  refine ⟨written, ?_⟩
  rcases initiateTransfer_cases (.new true) branchDraw smallTransfer with
    ⟨_, found, _⟩ | ⟨_, ⟨_, unwritten, _⟩ | ⟨result, made, same⟩⟩
  · cases found
  · cases unwritten.symm.trans written
  · rw [same, sentExactly_ok_iff (initiate_told made).1 (fun even => absurd even uneven)]
    exact fun sent => uneven sent.1

end Sample

end PettyFlow.Adapters
