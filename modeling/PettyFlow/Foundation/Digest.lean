import PettyFlow.Foundation.Uuid

/-! Digest functions, which are parameters wherever they are used. -/

namespace Foundation

/-- The digest functions of the cryptographic library, on the UTF-8 bytes of a text. -/
structure Digests where
  sha256 : String → BitVec 256
  md5 : String → BitVec 128

/-- The digits of a digest. -/
def hexDigest {width : Nat} (digest : BitVec width) : List Char :=
  hexDigits (width / 4) digest.toNat

/-- The digits of a SHA-256 determine it. -/
theorem hexDigest_injective {digest other : BitVec 256} (same : hexDigest digest = hexDigest other)
    : digest = other := by
  have small (value : BitVec 256) : value.toNat < 16 ^ 64 := by simpa using value.isLt
  exact BitVec.eq_of_toNat_eq (hexDigits_injective 64 (small digest) (small other) same)

end Foundation
