import PettyFlow.Foundation.Bytes

/-! Authenticated encryption with associated data: what is sealed under a key, a nonce and
associated data opens under these, and nothing else that was not sealed opens.
-/

namespace Foundation

/-- The operations of a cipher. Sealing fails on data that are too long. -/
structure Aead where
  encrypt (key nonce data aad : Bytes) : Option Bytes
  decrypt (key nonce ciphertext aad : Bytes) : Option Bytes

namespace Aead

/-- Ciphertexts open to what was sealed, and are longer by the tag. -/
structure Lawful (aead : Aead) (tagLength : Nat) : Prop where
  decrypt_encrypt {key nonce data aad ciphertext : Bytes}
    : aead.encrypt key nonce data aad = some ciphertext
      → aead.decrypt key nonce ciphertext aad = some data
  encrypt_length {key nonce data aad ciphertext : Bytes}
    : aead.encrypt key nonce data aad = some ciphertext
      → ciphertext.length = data.length + tagLength

/-- The arguments of a sealing. -/
structure Sealing where
  key : Bytes
  nonce : Bytes
  data : Bytes
  aad : Bytes
deriving DecidableEq

/-- The arguments of an opening. -/
structure Opening where
  key : Bytes
  nonce : Bytes
  ciphertext : Bytes
  aad : Bytes
deriving DecidableEq

variable (aead : Aead)

/-- The ciphertext is one that was produced with exactly these arguments. -/
def ProducedBy (sealings : List Sealing) (opening : Opening) : Prop :=
  ∃ sealing ∈ sealings,
    sealing.key = opening.key
    ∧ sealing.nonce = opening.nonce
    ∧ sealing.aad = opening.aad
    ∧ aead.encrypt sealing.key sealing.nonce sealing.data sealing.aad = some opening.ciphertext

/-- An opening succeeds on what was produced only. -/
def Authentic (sealings : List Sealing) (opening : Opening) : Prop :=
  ∀ data,
    aead.decrypt opening.key opening.nonce opening.ciphertext opening.aad = some data
    → aead.ProducedBy sealings opening

variable {aead} {tagLength : Nat} {sealings : List Sealing} {opening : Opening} {data : Bytes}

/-- What opens was sealed, under the same key and associated data. -/
theorem Authentic.sealed (authentic : aead.Authentic sealings opening)
    (lawful : aead.Lawful tagLength)
    (opens : aead.decrypt opening.key opening.nonce opening.ciphertext opening.aad = some data)
    : ∃ sealing ∈ sealings,
        sealing.key = opening.key ∧ sealing.aad = opening.aad ∧ sealing.data = data := by
  obtain ⟨sealing, member, key, nonce, aad, produced⟩ := authentic data opens
  have opened := lawful.decrypt_encrypt produced
  rw [key, nonce, aad, opens] at opened
  exact ⟨sealing, member, key, aad, (Option.some.inj opened).symm⟩

end Aead

end Foundation
