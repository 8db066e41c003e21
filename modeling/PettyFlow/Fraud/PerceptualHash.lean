import PettyFlow.Foundation.BitSets
import PettyFlow.Foundation.Bytes
import PettyFlow.Foundation.Dict

/-! The detector of duplicate receipts: fingerprints of images, and in how many bits they differ. -/

namespace PettyFlow.Fraud

open Foundation

def duplicateBitThreshold : Int := 5

/-! ### Distance -/

/-- The variables of the loop that counts differing bits. -/
structure BitCount where
  xor : Nat
  count : Nat
deriving DecidableEq

namespace BitCount

/-- One round, which clears the lowest bit. -/
def round (s : BitCount) : BitCount := ⟨s.xor &&& (s.xor - 1), s.count + 1⟩

/-- Rounds until no bit is left. -/
def run (s : BitCount) : BitCount :=
  if s.xor = 0 then s else run s.round
termination_by s.xor
decreasing_by exact clearLowest_lt (Nat.pos_of_ne_zero ‹_›)

end BitCount

def hammingDistance (hashA hashB : Nat) : Nat := (BitCount.run ⟨hashA ^^^ hashB, 0⟩).count

def PerceptualHasher.isDuplicate (hashA hashB : Nat) (threshold : Int := duplicateBitThreshold)
    : Bool :=
  hammingDistance hashA hashB ≤ threshold

/-! ### Detector -/

structure FingerprintEntry where
  receiptId : String
  tenantId : String
  custodianId : String
  fingerprint : Nat
  transactionDate : String
deriving DecidableEq

structure DuplicateFlag where
  newReceiptId : String
  existingReceiptId : String
  hammingDistance : Nat
  isDuplicate : Bool := true
deriving DecidableEq

/-- What is registered of a receipt. -/
structure ReceiptImage where
  tenantId : String
  receiptId : String
  custodianId : String
  imageBytes : Bytes
  transactionDate : String
deriving DecidableEq

def ReceiptImage.entry (receipt : ReceiptImage) (fingerprint : Nat) : FingerprintEntry :=
  ⟨receipt.receiptId, receipt.tenantId, receipt.custodianId, fingerprint, receipt.transactionDate⟩

structure DuplicateReceiptDetector where
  duplicateThreshold : Int
  store : Dict String (List FingerprintEntry)
deriving DecidableEq

namespace DuplicateReceiptDetector

def new (duplicateThreshold : Int := duplicateBitThreshold) : DuplicateReceiptDetector :=
  ⟨duplicateThreshold, .empty⟩

/-- The first entry within the threshold, and its distance. -/
def firstWithin (duplicateThreshold : Int) (newFp : Nat)
    : List FingerprintEntry → Option (FingerprintEntry × Nat)
  | [] => none
  | existing :: rest =>
      let dist := hammingDistance newFp existing.fingerprint
      if dist ≤ duplicateThreshold then
        some (existing, dist)
      else
        firstWithin duplicateThreshold newFp rest

/-- Register a receipt, with a flag if it is close to an earlier one. An image that cannot be
decoded is an error.
-/
def register (computeDhash : Bytes → Except String Nat) (s : DuplicateReceiptDetector)
    (receipt : ReceiptImage)
    : Except String (Option DuplicateFlag) × DuplicateReceiptDetector :=
  match computeDhash receipt.imageBytes with
  | .error message => (.error message, s)
  | .ok newFp =>
      let tenantEntries := s.store.getD receipt.tenantId []
      let registered :=
        {
          s with
          store := s.store.set receipt.tenantId (tenantEntries ++ [receipt.entry newFp])
        }
      match firstWithin s.duplicateThreshold newFp tenantEntries with
      | some (existing, dist) =>
          (.ok (some
            {
              newReceiptId := receipt.receiptId
              existingReceiptId := existing.receiptId
              hammingDistance := dist
            }),
            registered)
      | none => (.ok none, registered)

def clearTenant (s : DuplicateReceiptDetector) (tenantId : String) : DuplicateReceiptDetector :=
  { s with store := s.store.erase tenantId }

end DuplicateReceiptDetector

/-! ### The loop -/

/-- After as many rounds as there are bits the loop is at its end, and not before. -/
theorem BitCount.iterate_round (n count : Nat)
    : (∀ rounds, (round^[rounds] ⟨n, count⟩).xor = 0 ↔ (bits n).card ≤ rounds)
      ∧ run ⟨n, count⟩ = round^[(bits n).card] ⟨n, count⟩
      ∧ (run ⟨n, count⟩).count = count + (bits n).card := by
  induction n using Nat.strong_induction_on generalizing count with
  | _ n ih =>
      rcases Nat.eq_zero_or_pos n with rfl | positive
      · have still (rounds : Nat) : (round^[rounds] ⟨0, count⟩).xor = 0 := by
          induction rounds generalizing count with
          | zero => rfl
          | succ rounds next =>
              rw [Function.iterate_succ_apply, round, Nat.zero_and]
              exact next (count + 1)
        rw [bits_zero, Finset.card_empty, run, if_pos rfl]
        exact ⟨fun rounds => iff_of_true (still rounds) (Nat.zero_le _), rfl, rfl⟩
      · obtain ⟨ends, ran, counted⟩ := ih (clearLowest n) (clearLowest_lt positive) (count + 1)
        have fewer := card_bits_clearLowest positive
        have first : run ⟨n, count⟩ = run ⟨clearLowest n, count + 1⟩ := by
          rw [run, if_neg positive.ne']
          rfl
        refine ⟨fun rounds => ?_, ?_, ?_⟩
        · cases rounds with
          | zero => exact iff_of_false positive.ne' (by omega)
          | succ rounds =>
              rw [Function.iterate_succ_apply, ← fewer, Nat.add_le_add_iff_right]
              exact ends rounds
        · rw [first, ran, ← fewer, Function.iterate_succ_apply]
          rfl
        · rw [first, counted, ← fewer]
          omega

theorem hammingDistance_eq (hashA hashB : Nat)
    : hammingDistance hashA hashB = differingBits hashA hashB := by
  rw [hammingDistance, (BitCount.iterate_round _ 0).2.2, Nat.zero_add, bits_xor, differingBits]

/-- The loop takes as many rounds as there are differing bits and counts them, which makes a
metric.
-/
theorem hammingDistance_isMetric
    : (∀ hashA hashB,
        (∀ rounds,
          (BitCount.round^[rounds] ⟨hashA ^^^ hashB, 0⟩).xor = 0
          ↔ differingBits hashA hashB ≤ rounds)
        ∧ BitCount.run ⟨hashA ^^^ hashB, 0⟩
          = BitCount.round^[differingBits hashA hashB] ⟨hashA ^^^ hashB, 0⟩
        ∧ hammingDistance hashA hashB = differingBits hashA hashB
        ∧ ∀ threshold,
            PerceptualHasher.isDuplicate hashA hashB threshold = true
            ↔ (differingBits hashA hashB : Int) ≤ threshold)
      ∧ IsMetric hammingDistance := by
  have same : hammingDistance = differingBits := funext₂ hammingDistance_eq
  constructor
  · intro hashA hashB
    obtain ⟨ends, ran, _⟩ := BitCount.iterate_round (hashA ^^^ hashB) 0
    rw [bits_xor] at ends ran
    refine ⟨ends, ran, hammingDistance_eq hashA hashB, fun threshold => ?_⟩
    rw [PerceptualHasher.isDuplicate, decide_eq_true_iff, hammingDistance_eq]
  · rw [same]
    exact isMetric_differingBits

end PettyFlow.Fraud
