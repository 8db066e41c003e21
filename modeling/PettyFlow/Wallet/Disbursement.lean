import PettyFlow.Adapters.MobileMoney
import PettyFlow.Foundation.DoubleText
import PettyFlow.Foundation.JsonRoundTrip

/-! Float disbursements: requests, results, and results as JSON texts, from which they are
read back.
-/

namespace PettyFlow.Wallet

open Foundation Adapters

inductive DisbursementChannel where
  | virtualCard
  | mobileMoney
  | ach
deriving DecidableEq

namespace DisbursementChannel

def value : DisbursementChannel → String
  | virtualCard => "virtual_card"
  | mobileMoney => "mobile_money"
  | ach => "ach"

/-- The channel that a text names. -/
def ofValue? : String → Option DisbursementChannel :=
  memberOf [virtualCard, mobileMoney, ach] value

@[simp] theorem ofValue?_value (channel : DisbursementChannel)
    : ofValue? channel.value = some channel := by
  cases channel <;> rfl

end DisbursementChannel

/-- A valid request: its names are not blank, its amount is positive and it has a key. -/
structure FloatDisbursementRequest where
  tenantId : String
  custodianId : String
  fundId : String
  amountScaled : Int
  channel : DisbursementChannel
  currency : String
  recipientAddress : String
  cardholderName : String
  description : String
  idempotencyKey : String
  metadata : Metadata
  tenantNamed : isBlank tenantId = false
  custodianNamed : isBlank custodianId = false
  fundNamed : isBlank fundId = false
  amountPositive : 0 < amountScaled
  keyGiven : idempotencyKey ≠ ""

def autoKey (uuid : Uuid) : String := "auto-" ++ uuid.hex

theorem autoKey_ne_empty (uuid : Uuid) : autoKey uuid ≠ "" := by
  intro blank
  have parts := String.append_eq_empty_iff.mp blank
  exact absurd parts.1 (by decide)

/-- Build a request; a missing or empty key is drawn. -/
def FloatDisbursementRequest.new (draw : Uuid) (tenantId custodianId fundId : String)
    (amountScaled : Int) (channel : DisbursementChannel)
    (currency recipientAddress cardholderName description : String)
    (idempotencyKey : Option String) (metadata : Metadata)
    : Except RequestError FloatDisbursementRequest :=
  if tenantNamed : isBlank tenantId = false then
    if custodianNamed : isBlank custodianId = false then
      if fundNamed : isBlank fundId = false then
        if amountPositive : 0 < amountScaled then
          let given := idempotencyKey.getD ""
          .ok {
            tenantId
            custodianId
            fundId
            amountScaled
            channel
            currency
            recipientAddress
            cardholderName
            description
            idempotencyKey := if given = "" then autoKey draw else given
            metadata
            tenantNamed
            custodianNamed
            fundNamed
            amountPositive
            keyGiven := by
              split
              · exact autoKey_ne_empty draw
              · assumption
          }
        else
          .error (.valueError s!"amount_scaled must be positive, got {amountScaled}")
      else
        .error (.valueError "fund_id cannot be empty")
    else
      .error (.valueError "custodian_id cannot be empty")
  else
    .error (.valueError "tenant_id cannot be empty")

structure FloatDisbursementResult where
  disbursementId : String
  tenantId : String
  custodianId : String
  fundId : String
  channel : DisbursementChannel
  amountScaled : Int
  currency : String
  status : String
  idempotencyKey : String
  virtualCard : Option VirtualCardResult
  mobileDisbursement : Option DisbursementResult
  initiatedAt : String
  completedAt : Option String
  failureReason : Option String
deriving DecidableEq

/-- The nested result of a provider. -/
def FloatDisbursementResult.provider (result : FloatDisbursementResult)
    : Option VirtualCardResult × Option DisbursementResult :=
  (result.virtualCard, result.mobileDisbursement)

/-- An amount with its sign of currency, unless it is too large for a double. -/
def amountFormatted (amountScaled : Int) : Option String :=
  (amountText amountScaled).map ("$" ++ ·)

def cardToDict (card : VirtualCardResult) : Option Json :=
  (amountFormatted card.spendingLimitScaled).map (fun spendingLimitFormatted =>
    .obj [
      ("card_id", .str card.cardId),
      ("tenant_id", .str card.tenantId),
      ("custodian_id", .str card.custodianId),
      ("fund_id", .str card.fundId),
      ("last_four", .str card.lastFour),
      ("card_status", .str card.cardStatus.value),
      ("spending_limit_scaled", .int card.spendingLimitScaled),
      ("spending_limit_formatted", .str spendingLimitFormatted),
      ("currency", .str card.currency),
      ("idempotency_key", .str card.idempotencyKey),
      ("backend", .str card.backend.value),
      ("created_at", .str card.createdAt),
      ("expires_at", .str card.expiresAt),
      ("metadata", .ofTexts card.metadata)
    ])

def mobileToDict (result : DisbursementResult) : Option Json :=
  (amountFormatted result.amountScaled).map (fun amountFormatted =>
    .obj [
      ("disbursement_id", .str result.disbursementId),
      ("tenant_id", .str result.tenantId),
      ("custodian_id", .str result.custodianId),
      ("fund_id", .str result.fundId),
      ("recipient", .str result.recipientPhoneOrAccount),
      ("amount_scaled", .int result.amountScaled),
      ("amount_formatted", .str amountFormatted),
      ("currency", .str result.currency),
      ("status", .str result.status.value),
      ("backend", .str result.backend.value),
      ("idempotency_key", .str result.idempotencyKey),
      ("reference_number", .str result.referenceNumber),
      ("initiated_at", .str result.initiatedAt),
      ("completed_at", .ofStrOrNull result.completedAt),
      ("failure_reason", .ofStrOrNull result.failureReason),
      ("metadata", .ofTexts result.metadata)
    ])

/-- A nested value, or null where there is none. -/
def nested {α : Type} (toDict : α → Option Json) : Option α → Option Json
  | none => some .null
  | some value => toDict value

/-- The result as JSON. An amount too large for a double raises instead. -/
def FloatDisbursementResult.toDict (result : FloatDisbursementResult) : Option Json := do
  let amountFormatted ← amountFormatted result.amountScaled
  let virtualCard ← nested cardToDict result.virtualCard
  let mobileDisbursement ← nested mobileToDict result.mobileDisbursement
  return .obj [
    ("disbursement_id", .str result.disbursementId),
    ("tenant_id", .str result.tenantId),
    ("custodian_id", .str result.custodianId),
    ("fund_id", .str result.fundId),
    ("channel", .str result.channel.value),
    ("amount_scaled", .int result.amountScaled),
    ("amount_formatted", .str amountFormatted),
    ("currency", .str result.currency),
    ("status", .str result.status),
    ("idempotency_key", .str result.idempotencyKey),
    ("virtual_card", virtualCard),
    ("mobile_disbursement", mobileDisbursement),
    ("initiated_at", .str result.initiatedAt),
    ("completed_at", .ofStrOrNull result.completedAt),
    ("failure_reason", .ofStrOrNull result.failureReason)
  ]

/-- A member that has to be there, and has to be of the right kind. -/
def required {α : Type} (payload : Json) (name : String) (read : Json → Option α) : Option α :=
  (payload.member? name).bind read

/-- A member that counts as null where it is missing. -/
def orNull {α : Type} (payload : Json) (name : String) (read : Json → Option α) : Option α :=
  read ((payload.member? name).getD .null)

def cardFromDict (payload : Json) : Option VirtualCardResult := do
  return {
    cardId := ← required payload "card_id" Json.str?
    tenantId := ← required payload "tenant_id" Json.str?
    custodianId := ← required payload "custodian_id" Json.str?
    fundId := ← required payload "fund_id" Json.str?
    lastFour := ← required payload "last_four" Json.str?
    cardStatus := ← (← required payload "card_status" Json.str?) |> CardStatus.ofValue?
    spendingLimitScaled := ← required payload "spending_limit_scaled" Json.int?
    currency := ← required payload "currency" Json.str?
    idempotencyKey := ← required payload "idempotency_key" Json.str?
    backend := ← (← required payload "backend" Json.str?) |> CardIssuerBackend.ofValue?
    createdAt := ← required payload "created_at" Json.str?
    expiresAt := ← required payload "expires_at" Json.str?
    metadata := ← ((payload.member? "metadata").getD (.obj [])).texts?
  }

def mobileFromDict (payload : Json) : Option DisbursementResult := do
  return {
    disbursementId := ← required payload "disbursement_id" Json.str?
    tenantId := ← required payload "tenant_id" Json.str?
    custodianId := ← required payload "custodian_id" Json.str?
    fundId := ← required payload "fund_id" Json.str?
    recipientPhoneOrAccount := ← required payload "recipient" Json.str?
    amountScaled := ← required payload "amount_scaled" Json.int?
    currency := ← required payload "currency" Json.str?
    status := ← (← required payload "status" Json.str?) |> DisbursementStatus.ofValue?
    backend := ← (← required payload "backend" Json.str?) |> MobileMoneyBackend.ofValue?
    idempotencyKey := ← required payload "idempotency_key" Json.str?
    referenceNumber := ← required payload "reference_number" Json.str?
    initiatedAt := ← required payload "initiated_at" Json.str?
    completedAt := ← orNull payload "completed_at" Json.strOrNull?
    failureReason := ← orNull payload "failure_reason" Json.strOrNull?
    metadata := ← ((payload.member? "metadata").getD (.obj [])).texts?
  }

/-- A nested value is read unless it is null. -/
def nestedFrom {α : Type} (fromDict : Json → Option α) : Json → Option (Option α)
  | .null => some none
  | payload => (fromDict payload).map some

/-- The result that a JSON value describes, if it describes one. -/
def resultFromDict (payload : Json) : Option FloatDisbursementResult := do
  let virtualCard ← orNull payload "virtual_card" (nestedFrom cardFromDict)
  let mobileDisbursement ← orNull payload "mobile_disbursement" (nestedFrom mobileFromDict)
  return {
    disbursementId := ← required payload "disbursement_id" Json.str?
    tenantId := ← required payload "tenant_id" Json.str?
    custodianId := ← required payload "custodian_id" Json.str?
    fundId := ← required payload "fund_id" Json.str?
    channel := ← (← required payload "channel" Json.str?) |> DisbursementChannel.ofValue?
    amountScaled := ← required payload "amount_scaled" Json.int?
    currency := ← required payload "currency" Json.str?
    status := ← required payload "status" Json.str?
    idempotencyKey := ← required payload "idempotency_key" Json.str?
    virtualCard
    mobileDisbursement
    initiatedAt := ← required payload "initiated_at" Json.str?
    completedAt := ← orNull payload "completed_at" Json.strOrNull?
    failureReason := ← orNull payload "failure_reason" Json.strOrNull?
  }

theorem cardFromDict_toDict {card : VirtualCardResult} {payload : Json}
    (written : cardToDict card = some payload)
    : cardFromDict payload.sortKeys = some card := by
  obtain ⟨formatted, _, rfl⟩ := Option.map_eq_some_iff.mp written
  simp [cardFromDict, required, Json.str?, Json.int?, SortedMap.lookup_entry]

theorem mobileFromDict_toDict {result : DisbursementResult} {payload : Json}
    (written : mobileToDict result = some payload)
    : mobileFromDict payload.sortKeys = some result := by
  obtain ⟨formatted, _, rfl⟩ := Option.map_eq_some_iff.mp written
  simp [mobileFromDict, required, orNull, Json.str?, Json.int?, SortedMap.lookup_entry]

/-- A nested value is read back where null describes none. -/
theorem nestedFrom_nested {α : Type} {toDict : α → Option Json} {fromDict : Json → Option α}
    (readBack
      : ∀ value payload, toDict value = some payload → fromDict payload.sortKeys = some value)
    (notNull : fromDict .null = none) {value : Option α} {payload : Json}
    (written : nested toDict value = some payload)
    : nestedFrom fromDict payload.sortKeys = some value := by
  cases value with
  | none =>
      obtain rfl : Json.null = payload := Option.some.inj written
      rfl
  | some value =>
      have read := readBack value payload written
      unfold nestedFrom
      split
      · rename_i isNull
        rw [isNull, notNull] at read
        cases read
      · rw [read, Option.map_some]

/-- A result is read back from its JSON value with sorted names. -/
theorem resultFromDict_toDict {result : FloatDisbursementResult} {payload : Json}
    (written : result.toDict = some payload)
    : resultFromDict payload.sortKeys = some result := by
  simp only [FloatDisbursementResult.toDict, Option.bind_eq_bind, Option.bind_eq_some_iff] at written
  obtain ⟨formatted, _, virtualCard, card, mobileDisbursement, mobile, written⟩ := written
  obtain rfl := Option.some.inj written
  have cardRead := nestedFrom_nested (fun _ _ => cardFromDict_toDict) rfl card
  have mobileRead := nestedFrom_nested (fun _ _ => mobileFromDict_toDict) rfl mobile
  simp [resultFromDict, required, orNull, Json.str?, Json.int?, SortedMap.lookup_entry, cardRead,
    mobileRead]

theorem ofTexts_plain (texts : SortedMap String String) : (Json.ofTexts texts).Plain := by
  unfold Json.ofTexts Json.Plain
  rw [Json.plainMembers_iff]
  intro member inside
  obtain ⟨entry, _, rfl⟩ := List.mem_map.mp inside
  trivial

theorem ofStrOrNull_plain (text : Option String) : (Json.ofStrOrNull text).Plain := by
  cases text <;> trivial

theorem cardToDict_plain {card : VirtualCardResult} {payload : Json}
    (written : cardToDict card = some payload)
    : payload.Plain := by
  obtain ⟨formatted, _, rfl⟩ := Option.map_eq_some_iff.mp written
  simp [Json.Plain, Json.PlainMembers, ofTexts_plain]

theorem mobileToDict_plain {result : DisbursementResult} {payload : Json}
    (written : mobileToDict result = some payload)
    : payload.Plain := by
  obtain ⟨formatted, _, rfl⟩ := Option.map_eq_some_iff.mp written
  simp [Json.Plain, Json.PlainMembers, ofTexts_plain, ofStrOrNull_plain]

theorem nested_plain {α : Type} {toDict : α → Option Json}
    (plain : ∀ value payload, toDict value = some payload → payload.Plain) {value : Option α}
    {payload : Json} (written : nested toDict value = some payload)
    : payload.Plain := by
  cases value with
  | none =>
      obtain rfl : Json.null = payload := Option.some.inj written
      trivial
  | some value => exact plain value payload written

theorem toDict_plain {result : FloatDisbursementResult} {payload : Json}
    (written : result.toDict = some payload)
    : payload.Plain := by
  simp only [FloatDisbursementResult.toDict, Option.bind_eq_bind, Option.bind_eq_some_iff] at written
  obtain ⟨formatted, _, virtualCard, card, mobileDisbursement, mobile, written⟩ := written
  obtain rfl := Option.some.inj written
  have cardPlain := nested_plain (fun _ _ => cardToDict_plain) card
  have mobilePlain := nested_plain (fun _ _ => mobileToDict_plain) mobile
  simp [Json.Plain, Json.PlainMembers, ofStrOrNull_plain, cardPlain, mobilePlain]

/-- The text of a result, as it is stored. -/
def resultText (result : FloatDisbursementResult) : Option String :=
  result.toDict.bind (Json.dumps .spaced)

theorem cardToDict_printable {card : VirtualCardResult} {payload : Json}
    (written : cardToDict card = some payload)
    : payload.printable = true := by
  obtain ⟨_, formatted, rfl⟩ := Option.map_eq_some_iff.mp written
  obtain ⟨_, limit, _⟩ := Option.map_eq_some_iff.mp formatted
  simp [hasDecimal_of_amountText limit]

theorem mobileToDict_printable {result : DisbursementResult} {payload : Json}
    (written : mobileToDict result = some payload)
    : payload.printable = true := by
  obtain ⟨_, formatted, rfl⟩ := Option.map_eq_some_iff.mp written
  obtain ⟨_, amount, _⟩ := Option.map_eq_some_iff.mp formatted
  simp [hasDecimal_of_amountText amount]

theorem nested_printable {α : Type} {toDict : α → Option Json}
    (printable : ∀ value payload, toDict value = some payload → payload.printable = true)
    {value : Option α} {payload : Json} (written : nested toDict value = some payload)
    : payload.printable = true := by
  cases value with
  | none =>
      obtain rfl : Json.null = payload := Option.some.inj written
      rfl
  | some value => exact printable value payload written

/-- The amounts of a result that is written as JSON fit doubles, so that their digits can be
written.
-/
theorem toDict_printable {result : FloatDisbursementResult} {payload : Json}
    (written : result.toDict = some payload)
    : payload.printable = true := by
  simp only [FloatDisbursementResult.toDict, Option.bind_eq_bind, Option.bind_eq_some_iff] at written
  obtain ⟨_, formatted, virtualCard, card, mobileDisbursement, mobile, written⟩ := written
  obtain rfl := Option.some.inj written
  obtain ⟨_, amount, _⟩ := Option.map_eq_some_iff.mp formatted
  have cardPrintable := nested_printable (fun _ _ => cardToDict_printable) card
  have mobilePrintable := nested_printable (fun _ _ => mobileToDict_printable) mobile
  simp [hasDecimal_of_amountText amount, cardPrintable, mobilePrintable]

/-- A result has a text exactly when it can be written as JSON. -/
theorem resultText_eq (result : FloatDisbursementResult)
    : resultText result = result.toDict.map (Json.text .spaced) := by
  unfold resultText
  cases written : result.toDict with
  | none => rfl
  | some payload => exact Json.dumps_of_printable .spaced (toDict_printable written)

/-- The result that a stored text describes. -/
def resultOfText (text : String) : Option FloatDisbursementResult :=
  (Json.loads text).bind resultFromDict

/-- A stored text describes the result that it was written for. -/
theorem resultOfText_resultText {result : FloatDisbursementResult} {text : String}
    (written : resultText result = some text)
    : resultOfText text = some result := by
  rw [resultText_eq] at written
  obtain ⟨payload, dict, rfl⟩ := Option.map_eq_some_iff.mp written
  rw [resultOfText, Json.loads_text .spaced (toDict_plain dict)]
  exact resultFromDict_toDict dict

end PettyFlow.Wallet
