import PettyFlow.Foundation.Aead
import PettyFlow.Foundation.Base64
import PettyFlow.Foundation.JsonRoundTrip

/-! Envelope encryption of fields. A field is encrypted under a key of its own, which is wrapped
under the vault's key; both encryptions are bound to the tenant. What an envelope holds is checked
when it is decrypted, so its fields are values as they were read.
-/

namespace PettyFlow.Security

open Foundation

/-- So many random bytes. -/
abbrev TokenBytes (count : Nat) := { bytes : Bytes // bytes.length = count }

structure EncryptedEnvelope where
  keyId : Json
  tenantId : Json
  ciphertextB64 : Json
  wrappedDekB64 : Json
  nonceB64 : Json
  createdAt : Json

namespace EncryptedEnvelope

def toDict (e : EncryptedEnvelope) : Json :=
  .obj
    [
      ("key_id", e.keyId),
      ("tenant_id", e.tenantId),
      ("ciphertext", e.ciphertextB64),
      ("wrapped_dek", e.wrappedDekB64),
      ("nonce", e.nonceB64),
      ("created_at", e.createdAt)
    ]

def toJson (e : EncryptedEnvelope) : String := String.ofList (e.toDict.print .spaced)

/-- The envelope of a text, if it is an object with every name but the last. -/
def fromJson (data : String) : Option EncryptedEnvelope := do
  let d ← Json.loads data
  return {
    keyId := ← d.latest? "key_id"
    tenantId := ← d.latest? "tenant_id"
    ciphertextB64 := ← d.latest? "ciphertext"
    wrappedDekB64 := ← d.latest? "wrapped_dek"
    nonceB64 := ← d.latest? "nonce"
    createdAt := (d.latest? "created_at").getD (.str "")
  }

/-- An envelope is read back from its text. -/
theorem fromJson_toJson {e : EncryptedEnvelope} (plain : e.toDict.Plain)
    : fromJson e.toJson = some e := by
  rw [fromJson, toJson, Json.loads_print .spaced plain]
  rfl

end EncryptedEnvelope

inductive KMSCryptoError where
  | crossTenant (tenantId : Json) (accessingTenantId : String)
  | corruptedWrappedDek
  | unwrapFailed
  | decryptionFailed

/-- The text of an error, in which `shown` stands for how a value looks inside a text and
`cause` for the text of the exception that was caught.
-/
def KMSCryptoError.message (shown : Json → String) (cause : String) : KMSCryptoError → String
  | crossTenant tenantId accessingTenantId =>
      "Cross-tenant access blocked: Envelope belongs to tenant '" ++ shown tenantId
        ++ "' but decryption requested by '" ++ accessingTenantId ++ "'"
  | corruptedWrappedDek => "Corrupted wrapped DEK payload."
  | unwrapFailed => "Failed to unwrap DEK: cryptographic authentication failed: " ++ cause
  | decryptionFailed => "Decryption failed or payload tampered: " ++ cause

structure KMSVault where
  keyId : String
  kek : TokenBytes 32

/-- A vault with a given master key, or with fresh bytes where none is given. Keys of another
length are refused.
-/
def KMSVault.init (masterKeyBytes : Option Bytes) (fresh : TokenBytes 32) (keyId : String)
    : Option KMSVault :=
  let given := masterKeyBytes.getD []
  if given = [] then some ⟨keyId, fresh⟩
  else if sized : given.length = 32 then some ⟨keyId, ⟨given, sized⟩⟩
  else none

/-- The associated data of a wrapped key. -/
def wrapAad (tenantId : String) : Bytes := utf8 ("tenant:" ++ tenantId ++ ":kek_wrap")

/-- The associated data of a field. -/
def fieldAad (tenantId : String) : Bytes := utf8 ("tenant:" ++ tenantId ++ ":field_encryption")

/-- The arguments of a call of `encrypt_field`, the random bytes it draws and its time. -/
structure EncryptCall where
  plaintext : String
  tenantId : String
  dek : TokenBytes 32
  nonce : TokenBytes 12
  wrapNonce : TokenBytes 12
  createdAt : String

/-- The text of bytes in base64. -/
def b64Text (bytes : Bytes) : Json := .str (String.ofList (Base64.encode bytes))

/-- The bytes of a text in base64; other values are refused. -/
def b64Bytes : Json → Option Bytes
  | .str text => Base64.decode text.toList
  | _ => none

section Calls

variable (aead : Aead) (v : KMSVault)

def wrapDek (dek : Bytes) (wrapNonce : TokenBytes 12) (tenantId : String) : Option Bytes :=
  (aead.encrypt v.kek wrapNonce dek (wrapAad tenantId)).map (wrapNonce.1 ++ ·)

def unwrapDek (wrappedPayload : Bytes) (tenantId : String) : Except KMSCryptoError Bytes :=
  if wrappedPayload.length < 28 then
    .error .corruptedWrappedDek
  else
    match aead.decrypt v.kek (wrappedPayload.take 12) (wrappedPayload.drop 12) (wrapAad tenantId)
    with
    | some dek => .ok dek
    | none => .error .unwrapFailed

/-- The envelope of a call. Sealing fails on plaintexts that are too long. -/
def encryptField (call : EncryptCall) : Option EncryptedEnvelope := do
  let ciphertext ← aead.encrypt call.dek call.nonce (utf8 call.plaintext) (fieldAad call.tenantId)
  let wrappedDek ← wrapDek aead v call.dek call.wrapNonce call.tenantId
  return {
    keyId := .str v.keyId
    tenantId := .str call.tenantId
    ciphertextB64 := b64Text ciphertext
    wrappedDekB64 := b64Text wrappedDek
    nonceB64 := b64Text call.nonce
    createdAt := .str call.createdAt
  }

/-- The plaintext of an envelope. All that fails is raised as an error of the vault. -/
def decryptField (envelope : EncryptedEnvelope) (accessingTenantId : String)
    : Except KMSCryptoError String :=
  if envelope.tenantId.str? ≠ some accessingTenantId then
    .error (.crossTenant envelope.tenantId accessingTenantId)
  else
    match b64Bytes envelope.wrappedDekB64, b64Bytes envelope.ciphertextB64,
      b64Bytes envelope.nonceB64
    with
    | some wrappedDek, some ciphertext, some nonce =>
        match unwrapDek aead v wrappedDek accessingTenantId with
        | .error e => .error e
        | .ok dek =>
            match (aead.decrypt dek nonce ciphertext (fieldAad accessingTenantId)).bind decodeUtf8
            with
            | some plaintext => .ok plaintext
            | none => .error .decryptionFailed
    | _, _, _ => .error .decryptionFailed

end Calls

end PettyFlow.Security
