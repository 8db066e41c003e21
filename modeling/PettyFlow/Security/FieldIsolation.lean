import PettyFlow.Security.KmsVault

/-! Fields stay with their tenants. An envelope is decrypted to the plaintext it was made from,
and whatever an envelope is put together from, it gives the accessing tenant nothing but a
plaintext of its own.
-/

namespace PettyFlow.Security

open Foundation

section Bindings

theorem wrapAad_injective {t t' : String} (same : wrapAad t = wrapAad t') : t = t' :=
  (String.append_right_inj "tenant:").mp
    ((String.append_left_inj ":kek_wrap").mp (utf8_injective same))

theorem fieldAad_injective {t t' : String} (same : fieldAad t = fieldAad t') : t = t' :=
  (String.append_right_inj "tenant:").mp
    ((String.append_left_inj ":field_encryption").mp (utf8_injective same))

/-- A wrapped key is never taken for a field: their associated data end in other letters. -/
theorem wrapAad_ne_fieldAad (t t' : String) : wrapAad t ≠ fieldAad t' := by
  intro same
  -- Read from the end, the two texts differ in their first letter
  have letters := congrArg (fun text => text.toList.reverse) (utf8_injective same)
  simp [String.toList_append] at letters

theorem b64Bytes_b64Text (bytes : Bytes) : b64Bytes (b64Text bytes) = some bytes := by
  rw [b64Text, b64Bytes, String.toList_ofList, Base64.decode_encode]

end Bindings

section Vault

variable {aead : Aead} {v : KMSVault}

/-- The encryptions that a call performs: of its key and of its plaintext. -/
def EncryptCall.sealings (v : KMSVault) (call : EncryptCall) : List Aead.Sealing :=
  [
    ⟨call.dek, call.nonce, utf8 call.plaintext, fieldAad call.tenantId⟩,
    ⟨v.kek, call.wrapNonce, call.dek, wrapAad call.tenantId⟩
  ]

/-- The decryptions that an envelope asks for when a tenant accesses it. -/
inductive Asks (aead : Aead) (v : KMSVault) (envelope : EncryptedEnvelope) (tenantId : String)
    : Aead.Opening → Prop where
  | wrapped {wrappedDek : Bytes} (read : b64Bytes envelope.wrappedDekB64 = some wrappedDek)
    : Asks aead v envelope tenantId
        ⟨v.kek, wrappedDek.take 12, wrappedDek.drop 12, wrapAad tenantId⟩
  | field {wrappedDek dek ciphertext nonce : Bytes}
      (read : b64Bytes envelope.wrappedDekB64 = some wrappedDek)
      (unwrapped : unwrapDek aead v wrappedDek tenantId = .ok dek)
      (ciphertextRead : b64Bytes envelope.ciphertextB64 = some ciphertext)
      (nonceRead : b64Bytes envelope.nonceB64 = some nonce)
    : Asks aead v envelope tenantId ⟨dek, nonce, ciphertext, fieldAad tenantId⟩

/-- The keys that only the vault knows: its own and those that its calls drew. -/
def Secret (v : KMSVault) (calls : List EncryptCall) (key : Bytes) : Prop :=
  key = v.kek ∨ ∃ call ∈ calls, key = call.dek

/-- No decryption that the envelope asks for under a secret key succeeds on what the calls did
not produce.
-/
def NoForgery (aead : Aead) (v : KMSVault) (calls : List EncryptCall)
    (envelope : EncryptedEnvelope) (tenantId : String)
    : Prop :=
  ∀ opening,
    Asks aead v envelope tenantId opening
    → Secret v calls opening.key
    → aead.Authentic (calls.flatMap (EncryptCall.sealings v)) opening

theorem unwrapDek_ok {wrappedDek dek : Bytes} {tenantId : String}
    : unwrapDek aead v wrappedDek tenantId = .ok dek
      ↔ 28 ≤ wrappedDek.length
        ∧ aead.decrypt v.kek (wrappedDek.take 12) (wrappedDek.drop 12) (wrapAad tenantId)
          = some dek := by
  unfold unwrapDek
  constructor
  · intro unwrapped
    split at unwrapped
    · cases unwrapped
    rename_i long
    split at unwrapped
    · rename_i found opens
      exact ⟨not_lt.mp long, opens.trans (congrArg some (Except.ok.inj unwrapped))⟩
    · cases unwrapped
  · rintro ⟨long, opens⟩
    rw [if_neg (not_lt.mpr long), opens]

/-- What decryption goes through before it gives a plaintext. -/
theorem decryptField_ok {envelope : EncryptedEnvelope} {tenantId plaintext : String}
    : decryptField aead v envelope tenantId = .ok plaintext
      ↔ envelope.tenantId.str? = some tenantId
        ∧ ∃ wrappedDek ciphertext nonce dek data,
          b64Bytes envelope.wrappedDekB64 = some wrappedDek
          ∧ b64Bytes envelope.ciphertextB64 = some ciphertext
          ∧ b64Bytes envelope.nonceB64 = some nonce
          ∧ unwrapDek aead v wrappedDek tenantId = .ok dek
          ∧ aead.decrypt dek nonce ciphertext (fieldAad tenantId) = some data
          ∧ decodeUtf8 data = some plaintext := by
  unfold decryptField
  constructor
  · intro decrypted
    split at decrypted
    · cases decrypted
    rename_i own
    split at decrypted
    · rename_i wrappedDek ciphertext nonce readWrapped readCiphertext readNonce
      split at decrypted
      · cases decrypted
      rename_i dek unwrapped
      split at decrypted
      · rename_i found opened
        obtain ⟨data, opens, text⟩ := Option.bind_eq_some_iff.mp opened
        exact ⟨not_not.mp own, wrappedDek, ciphertext, nonce, dek, data, readWrapped,
          readCiphertext, readNonce, unwrapped, opens,
          text.trans (congrArg some (Except.ok.inj decrypted))⟩
      · cases decrypted
    · cases decrypted
  · rintro ⟨own, wrappedDek, ciphertext, nonce, dek, data, readWrapped, readCiphertext, readNonce,
      unwrapped, opens, text⟩
    rw [if_neg (not_not.mpr own), readWrapped, readCiphertext, readNonce]
    dsimp only
    rw [unwrapped]
    dsimp only
    rw [opens, Option.bind_some, text]

/-- An envelope of a call holds what was sealed for it. -/
theorem encryptField_some {call : EncryptCall} {envelope : EncryptedEnvelope}
    (made : encryptField aead v call = some envelope)
    : ∃ ciphertext wrapped,
        aead.encrypt call.dek call.nonce (utf8 call.plaintext) (fieldAad call.tenantId)
          = some ciphertext
        ∧ aead.encrypt v.kek call.wrapNonce call.dek (wrapAad call.tenantId) = some wrapped
        ∧ envelope
          = ⟨.str v.keyId, .str call.tenantId, b64Text ciphertext,
              b64Text (call.wrapNonce.1 ++ wrapped), b64Text call.nonce, .str call.createdAt⟩ := by
  obtain ⟨ciphertext, fieldSealed, made⟩ := Option.bind_eq_some_iff.mp made
  obtain ⟨wrappedDek, keyWrapped, made⟩ := Option.bind_eq_some_iff.mp made
  obtain ⟨wrapped, keySealed, rfl⟩ := Option.map_eq_some_iff.mp keyWrapped
  exact ⟨ciphertext, wrapped, fieldSealed, keySealed, (Option.some.inj made).symm⟩

/-- There is an envelope whenever both encryptions of the call succeed. -/
theorem encryptField_isSome_iff {call : EncryptCall}
    : (∃ envelope, encryptField aead v call = some envelope)
      ↔ ∀ sealing ∈ call.sealings v,
          (aead.encrypt sealing.key sealing.nonce sealing.data sealing.aad).isSome := by
  simp only [EncryptCall.sealings, List.forall_mem_cons, List.not_mem_nil, false_implies,
    implies_true, and_true]
  constructor
  · rintro ⟨envelope, made⟩
    obtain ⟨ciphertext, wrapped, fieldSealed, keySealed, _⟩ := encryptField_some made
    exact ⟨Option.isSome_iff_exists.mpr ⟨_, fieldSealed⟩,
      Option.isSome_iff_exists.mpr ⟨_, keySealed⟩⟩
  · rintro ⟨field, key⟩
    obtain ⟨ciphertext, fieldSealed⟩ := Option.isSome_iff_exists.mp field
    obtain ⟨wrapped, keySealed⟩ := Option.isSome_iff_exists.mp key
    rw [encryptField, wrapDek, fieldSealed, keySealed]
    exact ⟨_, rfl⟩

/-- The envelope of a call is decrypted for its tenant, after it was written and read back. -/
theorem decryptField_encryptField {tagLength : Nat} (lawful : aead.Lawful tagLength)
    {call : EncryptCall} {envelope : EncryptedEnvelope}
    (made : encryptField aead v call = some envelope)
    : EncryptedEnvelope.fromJson envelope.toJson = some envelope
      ∧ decryptField aead v envelope call.tenantId = .ok call.plaintext := by
  obtain ⟨ciphertext, wrapped, fieldSealed, keySealed, rfl⟩ := encryptField_some made
  refine ⟨EncryptedEnvelope.fromJson_toJson ?_, decryptField_ok.mpr ⟨rfl, ?_⟩⟩
  · exact ⟨trivial, trivial, trivial, trivial, trivial, trivial, trivial⟩
  have cut : (call.wrapNonce.1 ++ wrapped).take 12 = call.wrapNonce.1
      ∧ (call.wrapNonce.1 ++ wrapped).drop 12 = wrapped :=
    ⟨List.take_left' call.wrapNonce.2, List.drop_left' call.wrapNonce.2⟩
  -- A wrapped key of 32 bytes and its tag are longer than the nonce and a tag
  have long : 28 ≤ (call.wrapNonce.1 ++ wrapped).length := by
    rw [List.length_append, call.wrapNonce.2, lawful.encrypt_length keySealed, call.dek.2]
    omega
  have unwrapped
      : unwrapDek aead v (call.wrapNonce.1 ++ wrapped) call.tenantId = .ok call.dek.1 := by
    rw [unwrapDek_ok, cut.1, cut.2]
    exact ⟨long, lawful.decrypt_encrypt keySealed⟩
  exact ⟨_, ciphertext, call.nonce.1, call.dek.1, utf8 call.plaintext, b64Bytes_b64Text _,
    b64Bytes_b64Text _, b64Bytes_b64Text _, unwrapped, lawful.decrypt_encrypt fieldSealed,
    decodeUtf8_utf8 _⟩

/-- What was sealed as a field for a tenant is a plaintext of a call for the tenant. -/
theorem sealed_field {calls : List EncryptCall} {sealing : Aead.Sealing} {tenantId : String}
    (member : sealing ∈ calls.flatMap (EncryptCall.sealings v))
    (aad : sealing.aad = fieldAad tenantId)
    : ∃ call ∈ calls, call.tenantId = tenantId ∧ sealing.data = utf8 call.plaintext := by
  obtain ⟨call, listed, performed⟩ := List.mem_flatMap.mp member
  simp only [EncryptCall.sealings, List.mem_cons, List.not_mem_nil, or_false] at performed
  rcases performed with rfl | rfl
  · exact ⟨call, listed, fieldAad_injective aad, rfl⟩
  · exact absurd aad (wrapAad_ne_fieldAad _ _)

/-- What was sealed as a key is the key of a call. -/
theorem sealed_key {calls : List EncryptCall} {sealing : Aead.Sealing} {tenantId : String}
    (member : sealing ∈ calls.flatMap (EncryptCall.sealings v))
    (aad : sealing.aad = wrapAad tenantId)
    : ∃ call ∈ calls, call.tenantId = tenantId ∧ sealing.data = call.dek := by
  obtain ⟨call, listed, performed⟩ := List.mem_flatMap.mp member
  simp only [EncryptCall.sealings, List.mem_cons, List.not_mem_nil, or_false] at performed
  rcases performed with rfl | rfl
  · exact absurd aad.symm (wrapAad_ne_fieldAad _ _)
  · exact ⟨call, listed, wrapAad_injective aad, rfl⟩

/-- A decrypted plaintext was encrypted for the tenant: its key was wrapped by a call, so no one
else knows it, and what opens under it was sealed by a call.
-/
theorem decrypted_encrypted {tagLength : Nat} (lawful : aead.Lawful tagLength)
    {calls : List EncryptCall} {envelope : EncryptedEnvelope} {tenantId plaintext : String}
    (ideal : NoForgery aead v calls envelope tenantId)
    (decrypted : decryptField aead v envelope tenantId = .ok plaintext)
    : ∃ call ∈ calls, call.tenantId = tenantId ∧ call.plaintext = plaintext := by
  obtain ⟨_, wrappedDek, ciphertext, nonce, dek, data, readWrapped, readCiphertext, readNonce,
    unwrapped, opens, text⟩ := decryptField_ok.mp decrypted
  -- What the vault's own key opens is the key of a call, which no one else knows
  have secret : Secret v calls dek := by
    have authentic := ideal _ (.wrapped readWrapped) (Or.inl rfl)
    obtain ⟨sealing, member, _, aad, sealedDek⟩ :=
      authentic.sealed lawful (unwrapDek_ok.mp unwrapped).2
    obtain ⟨call, listed, _, key⟩ := sealed_key member aad
    exact Or.inr ⟨call, listed, sealedDek.symm.trans key⟩
  have authentic := ideal _ (.field readWrapped unwrapped readCiphertext readNonce) secret
  obtain ⟨sealing, member, _, aad, sealedData⟩ := authentic.sealed lawful opens
  obtain ⟨call, listed, own, plain⟩ := sealed_field member aad
  rw [← sealedData, plain, decodeUtf8_utf8] at text
  exact ⟨call, listed, own, Option.some.inj text⟩

/-- A call has an envelope whenever its encryptions succeed, and every envelope of a call is
decrypted to the call's plaintext; whatever stands in an envelope, its decryption for a tenant fails
or gives a plaintext that was encrypted for the tenant.
-/
theorem fields_isolated (aead : Aead) (lawful : aead.Lawful 16) (v : KMSVault)
    (calls : List EncryptCall)
    : (∀ call ∈ calls,
        ((∃ envelope, encryptField aead v call = some envelope)
          ↔ ∀ sealing ∈ call.sealings v,
              (aead.encrypt sealing.key sealing.nonce sealing.data sealing.aad).isSome)
        ∧ ∀ envelope,
            encryptField aead v call = some envelope
            → (EncryptedEnvelope.fromJson envelope.toJson).map
                (fun read => decryptField aead v read call.tenantId)
              = some (.ok call.plaintext))
      ∧ ∀ envelope tenantId,
          NoForgery aead v calls envelope tenantId
          → (∃ error, decryptField aead v envelope tenantId = .error error)
            ∨ ∃ call ∈ calls,
                call.tenantId = tenantId
                ∧ decryptField aead v envelope tenantId = .ok call.plaintext := by
  constructor
  · refine fun call _ => ⟨encryptField_isSome_iff, fun envelope made => ?_⟩
    obtain ⟨back, decrypted⟩ := decryptField_encryptField lawful made
    rw [back, Option.map_some, decrypted]
  · intro envelope tenantId ideal
    cases decrypted : decryptField aead v envelope tenantId with
    | error error => exact Or.inl ⟨error, rfl⟩
    | ok plaintext =>
        obtain ⟨call, listed, own, same⟩ := decrypted_encrypted lawful ideal decrypted
        exact Or.inr ⟨call, listed, own, congrArg Except.ok same.symm⟩

end Vault

section Sample

def counting (first count : Nat) : Bytes := (List.range' first count).map UInt8.ofNat

def sampleVault : KMSVault := ⟨"kms-master-pettyflow-v1", ⟨counting 0 32, rfl⟩⟩

def numberCall : EncryptCall where
  plaintext := "SSN-123-45-6789"
  tenantId := "tenant-a"
  dek := ⟨counting 32 32, rfl⟩
  nonce := ⟨counting 0 12, rfl⟩
  wrapNonce := ⟨counting 12 12, rfl⟩
  createdAt := "2026-07-22T10:00:00+00:00"

def numberSealing : Aead.Sealing :=
  ⟨counting 32 32, counting 0 12, utf8 "SSN-123-45-6789", fieldAad "tenant-a"⟩

def numberCiphertext : Bytes :=
  [
    15, 1, 19, 138, 123, 7, 216, 193, 136, 204, 228, 240, 17, 75, 103, 249, 34, 125, 114, 10, 24,
    227, 53, 188, 167, 220, 4, 152, 130, 63, 162
  ]

def keySealing : Aead.Sealing :=
  ⟨counting 0 32, counting 12 12, counting 32 32, wrapAad "tenant-a"⟩

def keyCiphertext : Bytes :=
  [
    184, 223, 75, 251, 91, 83, 218, 116, 31, 3, 98, 254, 189, 166, 8, 200, 101, 50, 223, 221, 194,
    72, 13, 157, 163, 155, 192, 219, 216, 157, 254, 197, 106, 177, 130, 11, 34, 51, 31, 228, 62,
    231, 96, 172, 119, 183, 50, 21
  ]

/-- AES-256-GCM on the two sealings of the call. -/
def numberAead : Aead where
  encrypt key nonce data aad :=
    if Aead.Sealing.mk key nonce data aad = numberSealing then some numberCiphertext
    else if Aead.Sealing.mk key nonce data aad = keySealing then some keyCiphertext
    else none
  decrypt key nonce ciphertext aad :=
    if Aead.Opening.mk key nonce ciphertext aad
        = ⟨numberSealing.key, numberSealing.nonce, numberCiphertext, numberSealing.aad⟩ then
      some numberSealing.data
    else if Aead.Opening.mk key nonce ciphertext aad
        = ⟨keySealing.key, keySealing.nonce, keyCiphertext, keySealing.aad⟩ then
      some keySealing.data
    else none

theorem numberAead_lawful : numberAead.Lawful 16 where
  decrypt_encrypt := by
    intro key nonce data aad ciphertext produced
    simp only [numberAead] at produced ⊢
    split at produced
    · rename_i sealing
      obtain rfl := Option.some.inj produced
      rw [← sealing]
      exact if_pos rfl
    split at produced
    · rename_i sealing
      obtain rfl := Option.some.inj produced
      -- The two ciphertexts differ, so this one is not taken for the number
      have other : keyCiphertext ≠ numberCiphertext := by decide
      rw [if_neg (fun same => other (congrArg Aead.Opening.ciphertext same)), ← sealing]
      exact if_pos rfl
    · cases produced
  encrypt_length := by
    intro key nonce data aad ciphertext produced
    simp only [numberAead] at produced
    split at produced
    · rename_i sealing
      obtain rfl := Option.some.inj produced
      have size : numberCiphertext.length = numberSealing.data.length + 16 := by decide +kernel
      rw [size, ← sealing]
    split at produced
    · rename_i sealing
      obtain rfl := Option.some.inj produced
      have size : keyCiphertext.length = keySealing.data.length + 16 := by decide +kernel
      rw [size, ← sealing]
    · cases produced

theorem numberCall_sealings
    : [numberCall].flatMap (EncryptCall.sealings sampleVault) = [numberSealing, keySealing] := rfl

theorem numberAead_key_ne : keySealing ≠ numberSealing := by
  intro same
  have keys : counting 0 32 ≠ counting 32 32 := by decide +kernel
  exact keys (congrArg Aead.Sealing.key same)

theorem numberAead_encrypt
    : numberAead.encrypt numberSealing.key numberSealing.nonce numberSealing.data numberSealing.aad
        = some numberCiphertext
      ∧ numberAead.encrypt keySealing.key keySealing.nonce keySealing.data keySealing.aad
        = some keyCiphertext := by
  simp only [numberAead, if_true, true_and]
  exact if_neg numberAead_key_ne

/-- Whatever opens is one of the two ciphertexts. -/
theorem numberAead_noForgery (envelope : EncryptedEnvelope) (tenantId : String)
    : NoForgery numberAead sampleVault [numberCall] envelope tenantId := by
  intro opening _ _ data opens
  rw [numberCall_sealings]
  simp only [numberAead] at opens
  split at opens
  · rename_i number
    obtain rfl : opening = _ := number
    exact ⟨numberSealing, List.mem_cons_self, rfl, rfl, rfl, numberAead_encrypt.1⟩
  split at opens
  · rename_i key
    obtain rfl : opening = _ := key
    exact ⟨keySealing, by simp, rfl, rfl, rfl, numberAead_encrypt.2⟩
  · cases opens

def numberEnvelope : EncryptedEnvelope where
  keyId := .str "kms-master-pettyflow-v1"
  tenantId := .str "tenant-a"
  ciphertextB64 := b64Text numberCiphertext
  wrappedDekB64 := b64Text (counting 12 12 ++ keyCiphertext)
  nonceB64 := b64Text (counting 0 12)
  createdAt := .str "2026-07-22T10:00:00+00:00"

theorem numberEnvelope_made
    : encryptField numberAead sampleVault numberCall = some numberEnvelope := by
  have field
      : numberAead.encrypt numberCall.dek numberCall.nonce (utf8 numberCall.plaintext)
          (fieldAad numberCall.tenantId)
        = some numberCiphertext := numberAead_encrypt.1
  have key
      : numberAead.encrypt sampleVault.kek numberCall.wrapNonce numberCall.dek
          (wrapAad numberCall.tenantId)
        = some keyCiphertext := numberAead_encrypt.2
  rw [encryptField, wrapDek, field, key]
  rfl

/-- There is an envelope, and it is decrypted for its tenant; under another label it is refused. -/
theorem fields_isolated_sample
    : (∃ envelope, encryptField numberAead sampleVault numberCall = some envelope)
      ∧ (EncryptedEnvelope.fromJson numberEnvelope.toJson).map
          (fun read => decryptField numberAead sampleVault read "tenant-a")
        = some (.ok "SSN-123-45-6789")
      ∧ ∃ error,
          decryptField numberAead sampleVault { numberEnvelope with tenantId := .str "tenant-b" }
            "tenant-b"
          = .error error := by
  have result := fields_isolated numberAead numberAead_lawful sampleVault [numberCall]
  obtain ⟨made, opened⟩ := result.1 numberCall List.mem_cons_self
  refine ⟨made.mpr (List.forall_mem_cons.mpr ⟨?_, List.forall_mem_singleton.mpr ?_⟩),
    opened numberEnvelope numberEnvelope_made, ?_⟩
  · exact Option.isSome_iff_exists.mpr ⟨_, numberAead_encrypt.1⟩
  · exact Option.isSome_iff_exists.mpr ⟨_, numberAead_encrypt.2⟩
  rcases result.2 { numberEnvelope with tenantId := .str "tenant-b" } "tenant-b"
    (numberAead_noForgery _ _) with error | ⟨call, member, own, _⟩
  · exact error
  · rw [List.mem_singleton.mp member] at own
    exact absurd own (by decide)

end Sample

end PettyFlow.Security
