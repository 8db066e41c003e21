import PettyFlow.Fraud.DuplicateReceipts

/-! Fingerprints of pictures: one bit for each two neighbours in a row of a small grey thumbnail, set
where the left one is brighter. So a receipt is flagged exactly if an earlier picture differs in few
of these comparisons, and a change of tones that keeps their order never hides a duplicate.
-/

namespace PettyFlow.Fraud

open Foundation

def dhashWidth : Nat := 9

def dhashHeight : Nat := 8

/-- The grey values of a thumbnail, row by row. -/
structure Pixels where
  values : List Nat
  size : values.length = dhashWidth * dhashHeight

def Pixels.at (pixels : Pixels) (index : Nat) : Nat := pixels.values.getD index 0

/-- The variables of the loop over the thumbnail. -/
structure DifferenceHash where
  bitIndex : Nat
  fingerprint : Nat
deriving DecidableEq

/-- One round, which sets the next bit if the left pixel is brighter. -/
def DifferenceHash.round (s : DifferenceHash) (left right : Nat) : DifferenceHash where
  bitIndex := s.bitIndex + 1
  fingerprint := if left > right then s.fingerprint ||| 1 <<< s.bitIndex else s.fingerprint

def DifferenceHash.row (pixels : Pixels) (s : DifferenceHash) (row : Nat) : DifferenceHash :=
  (List.range (dhashWidth - 1)).foldl
    (fun s col =>
      s.round (pixels.at (row * dhashWidth + col)) (pixels.at (row * dhashWidth + col + 1)))
    s

/-- The fingerprint of a thumbnail. -/
def fingerprintOf (pixels : Pixels) : Nat :=
  ((List.range dhashHeight).foldl (DifferenceHash.row pixels) ⟨0, 0⟩).fingerprint

/-- The fingerprint of an image, where `decode` makes the thumbnail. -/
def computeDhash (decode : Bytes → Except String Pixels) (imageBytes : Bytes)
    : Except String Nat :=
  match decode imageBytes with
  | .error exc => .error s!"Cannot decode image for dHash computation: {exc}"
  | .ok pixels => .ok (fingerprintOf pixels)

/-! ### Bits -/

/-- The left of two neighbours is brighter. -/
def Brighter (pixels : Pixels) (row col : Nat) : Prop :=
  pixels.at (row * dhashWidth + col) > pixels.at (row * dhashWidth + col + 1)

instance (pixels : Pixels) (row col : Nat) : Decidable (Brighter pixels row col) := by
  unfold Brighter
  infer_instance

/-- The bits up to the loop's index say which comparisons have held. -/
def DifferenceHash.Holds (p : Nat → Prop) (s : DifferenceHash) : Prop :=
  ∀ i, s.fingerprint.testBit i = true ↔ i < s.bitIndex ∧ p i

theorem DifferenceHash.Holds.round {p : Nat → Prop} {s : DifferenceHash} (holds : s.Holds p)
    {left right : Nat} (next : p s.bitIndex ↔ left > right)
    : (s.round left right).Holds p := by
  intro i
  have shifted : (1 <<< s.bitIndex).testBit i = decide (s.bitIndex = i) := by
    rw [Nat.one_shiftLeft, Nat.testBit_two_pow]
  unfold DifferenceHash.round
  dsimp only
  split
  · rename_i brighter
    rw [Nat.testBit_or, shifted, Bool.or_eq_true, holds, decide_eq_true_eq]
    constructor
    · rintro (⟨earlier, held⟩ | rfl)
      · exact ⟨Nat.lt_succ_of_lt earlier, held⟩
      · exact ⟨Nat.lt_succ_self _, next.mpr brighter⟩
    · intro ⟨below, held⟩
      rcases Nat.lt_succ_iff_lt_or_eq.mp below with earlier | rfl
      · exact Or.inl ⟨earlier, held⟩
      · exact Or.inr rfl
  · rename_i dark
    rw [holds]
    constructor
    · exact fun ⟨earlier, held⟩ => ⟨Nat.lt_succ_of_lt earlier, held⟩
    · intro ⟨below, held⟩
      rcases Nat.lt_succ_iff_lt_or_eq.mp below with earlier | rfl
      · exact ⟨earlier, held⟩
      · exact absurd (next.mp held) dark

section Fingerprints

variable (pixels : Pixels)

/-- The comparison that belongs to a bit. -/
def BitBrighter (i : Nat) : Prop :=
  Brighter pixels (i / (dhashWidth - 1)) (i % (dhashWidth - 1))

/-- The first columns of a row, by induction over them. -/
theorem holds_columns {s : DifferenceHash} {row : Nat}
    (start : s.bitIndex = row * (dhashWidth - 1)) (holds : s.Holds (BitBrighter pixels))
    {columns : Nat} (within : columns ≤ dhashWidth - 1)
    : let next :=
        (List.range columns).foldl
          (fun s col =>
            s.round (pixels.at (row * dhashWidth + col)) (pixels.at (row * dhashWidth + col + 1)))
          s
      next.bitIndex = row * (dhashWidth - 1) + columns ∧ next.Holds (BitBrighter pixels) := by
  induction columns with
  | zero => exact ⟨start, holds⟩
  | succ columns ih =>
      obtain ⟨index, before⟩ := ih (Nat.le_of_succ_le within)
      rw [List.range_succ, List.foldl_append, List.foldl_cons, List.foldl_nil]
      refine ⟨congrArg (· + 1) index, before.round ?_⟩
      have column : columns < 8 := within
      rw [index, BitBrighter, show dhashWidth - 1 = 8 from rfl,
        show (row * 8 + columns) / 8 = row by omega, show (row * 8 + columns) % 8 = columns by omega]
      rfl

theorem holds_rows (rows : Nat)
    : let next := (List.range rows).foldl (DifferenceHash.row pixels) ⟨0, 0⟩
      next.bitIndex = rows * (dhashWidth - 1) ∧ next.Holds (BitBrighter pixels) := by
  induction rows with
  | zero =>
      refine ⟨rfl, fun i => ?_⟩
      simp
  | succ rows ih =>
      obtain ⟨index, before⟩ := ih
      rw [List.range_succ, List.foldl_append, List.foldl_cons, List.foldl_nil]
      obtain ⟨next, holds⟩ := holds_columns pixels index before (le_refl (dhashWidth - 1))
      exact ⟨next.trans (Nat.succ_mul ..).symm, holds⟩

/-- The bits of a fingerprint are the 64 comparisons. -/
theorem testBit_fingerprintOf (i : Nat)
    : (fingerprintOf pixels).testBit i = true ↔ i < 64 ∧ BitBrighter pixels i := by
  obtain ⟨index, holds⟩ := holds_rows pixels dhashHeight
  rw [fingerprintOf, holds, index]
  rfl

end Fingerprints

/-! ### Distance -/

/-- In how many comparisons of neighbours two thumbnails differ. -/
def differingComparisons (left right : Pixels) : Nat :=
  ((Finset.range dhashHeight ×ˢ Finset.range (dhashWidth - 1)).filter (fun cell =>
    ¬ (Brighter left cell.1 cell.2 ↔ Brighter right cell.1 cell.2))).card

theorem mem_symmDiff_fingerprints (left right : Pixels) (i : Nat)
    : i ∈ symmDiff (bits (fingerprintOf left)) (bits (fingerprintOf right))
      ↔ i < 64 ∧ ¬ (BitBrighter left i ↔ BitBrighter right i) := by
  rw [Finset.mem_symmDiff, mem_bits, mem_bits, testBit_fingerprintOf, testBit_fingerprintOf]
  tauto

/-- The distance of two fingerprints counts the comparisons in which the thumbnails differ. -/
theorem hammingDistance_fingerprintOf (left right : Pixels)
    : hammingDistance (fingerprintOf left) (fingerprintOf right)
      = differingComparisons left right := by
  rw [hammingDistance_eq, differingBits, differingComparisons]
  refine Finset.card_nbij' (fun i => (i / 8, i % 8)) (fun cell => cell.1 * 8 + cell.2) ?_ ?_ ?_ ?_
  · intro i member
    obtain ⟨small, differs⟩ := (mem_symmDiff_fingerprints left right i).mp member
    refine Finset.mem_coe.mpr (Finset.mem_filter.mpr ⟨Finset.mem_product.mpr ?_, differs⟩)
    exact ⟨Finset.mem_range.mpr (Nat.div_lt_of_lt_mul small),
      Finset.mem_range.mpr (Nat.mod_lt i (by decide))⟩
  · intro cell member
    obtain ⟨inside, differs⟩ := Finset.mem_filter.mp (Finset.mem_coe.mp member)
    obtain ⟨row, col⟩ := Finset.mem_product.mp inside
    have row : cell.1 < 8 := Finset.mem_range.mp row
    have col : cell.2 < 8 := Finset.mem_range.mp col
    apply (mem_symmDiff_fingerprints left right _).mpr
    dsimp only
    refine ⟨by omega, ?_⟩
    rw [BitBrighter, BitBrighter, show dhashWidth - 1 = 8 from rfl,
      show (cell.1 * 8 + cell.2) / 8 = cell.1 by omega,
      show (cell.1 * 8 + cell.2) % 8 = cell.2 by omega]
    exact differs
  · intro i _
    exact Nat.div_add_mod' i 8
  · intro cell member
    obtain ⟨inside, _⟩ := Finset.mem_filter.mp (Finset.mem_coe.mp member)
    have col : cell.2 < 8 := Finset.mem_range.mp (Finset.mem_product.mp inside).2
    exact Prod.ext (by dsimp only; omega) (by dsimp only; omega)

/-! ### Flags -/

/-- Every two neighbours compare alike. -/
def SameOrder (left right : Pixels) : Prop :=
  ∀ row < dhashHeight, ∀ col < dhashWidth - 1, Brighter left row col ↔ Brighter right row col

theorem differingComparisons_eq_zero {left right : Pixels} (same : SameOrder left right)
    : differingComparisons left right = 0 := by
  rw [differingComparisons, Finset.card_eq_zero, Finset.filter_eq_empty_iff]
  intro cell inside
  obtain ⟨row, col⟩ := Finset.mem_product.mp inside
  exact not_not.mpr (same _ (Finset.mem_range.mp row) _ (Finset.mem_range.mp col))

/-- A change of tones: every grey value becomes another one. -/
def Pixels.retone (pixels : Pixels) (tone : Nat → Nat) : Pixels where
  values := pixels.values.map tone
  size := (List.length_map ..).trans pixels.size

/-- A change of tones that keeps brighter values brighter leaves all comparisons as they are. -/
theorem sameOrder_retone (pixels : Pixels) {tone : Nat → Nat} (increasing : StrictMono tone)
    : SameOrder (pixels.retone tone) pixels := by
  intro row below col within
  have inside {index : Nat} (small : index < dhashWidth * dhashHeight)
      : (pixels.retone tone).at index = tone (pixels.at index) := by
    have bound : index < pixels.values.length := by rwa [pixels.size]
    simp [Pixels.at, Pixels.retone, bound]
  have row8 : row < 8 := below
  have col8 : col < 8 := within
  rw [Brighter, Brighter, inside (by show _ < 72; show row * 9 + col < 72; omega),
    inside (by show row * 9 + col + 1 < 72; omega)]
  exact increasing.lt_iff_lt

open DuplicateReceiptDetector

section Runs

variable (decode : Bytes → Except String Pixels)

/-- The thumbnails of the receipts of a tenant that calls have registered since they last cleared
it.
-/
def picturesSince (tenantId : String) (calls : List Call) : List Pixels :=
  (calls.rtakeWhile (· ≠ .clearTenant tenantId)).filterMap (fun
    | .register receipt =>
        if receipt.tenantId = tenantId then (decode receipt.imageBytes).toOption else none
    | .clearTenant _ => none)

theorem fingerprints_registeredSince (tenantId : String) (calls : List Call)
    : (registeredSince (computeDhash decode) tenantId calls).map FingerprintEntry.fingerprint
      = (picturesSince decode tenantId calls).map fingerprintOf := by
  rw [registeredSince, picturesSince, List.map_filterMap, List.map_filterMap]
  congr 1
  funext call
  cases call with
  | clearTenant cleared => rfl
  | register receipt =>
      by_cases own : receipt.tenantId = tenantId
      · cases decoded : decode receipt.imageBytes with
        | error exc => simp [Call.entry?, own, computeDhash, decoded, Except.toOption]
        | ok pixels =>
            simp [Call.entry?, own, computeDhash, decoded, Except.toOption, ReceiptImage.entry]
      · simp [Call.entry?, own]

/-- In every run a receipt is flagged exactly if its picture differs from that of a receipt of the
same tenant, registered since the last clear, in no more comparisons than the threshold.
-/
theorem register_flags_iff (threshold : Int) (past : List Call) {receipt : ReceiptImage}
    {pixels : Pixels} (decoded : decode receipt.imageBytes = .ok pixels)
    : ∃ flag,
        (((machine (computeDhash decode)).exec (new threshold) past).register (computeDhash decode)
            receipt).1
          = .ok flag
        ∧ (flag.isSome = true
          ↔ ∃ earlier ∈ picturesSince decode receipt.tenantId past,
              (differingComparisons pixels earlier : Int) ≤ threshold) := by
  have hashed : computeDhash decode receipt.imageBytes = .ok (fingerprintOf pixels) := by
    rw [computeDhash, decoded]
  refine ⟨_, (register_exec (computeDhash decode) threshold past hashed).1, ?_⟩
  rw [Option.isSome_map, isSome_firstWithin]
  have stored := fingerprints_registeredSince decode receipt.tenantId past
  constructor
  · intro ⟨entry, listed, close⟩
    have fingerprint := List.mem_map_of_mem (f := FingerprintEntry.fingerprint) listed
    rw [stored] at fingerprint
    obtain ⟨earlier, member, same⟩ := List.mem_map.mp fingerprint
    exact ⟨earlier, member, by rwa [← hammingDistance_fingerprintOf, same]⟩
  · intro ⟨earlier, member, close⟩
    have fingerprint := List.mem_map_of_mem (f := fingerprintOf) member
    rw [← stored] at fingerprint
    obtain ⟨entry, listed, same⟩ := List.mem_map.mp fingerprint
    exact ⟨entry, listed, by rwa [same, hammingDistance_fingerprintOf]⟩

/-- A receipt whose picture is an earlier one with other tones is always flagged, as long as brighter
places stay brighter.
-/
theorem retoned_receipt_flagged {threshold : Int} (notNegative : 0 ≤ threshold) (past : List Call)
    {receipt : ReceiptImage} {earlier : Pixels} {tone : Nat → Nat} (increasing : StrictMono tone)
    (registered : earlier ∈ picturesSince decode receipt.tenantId past)
    (decoded : decode receipt.imageBytes = .ok (earlier.retone tone))
    : ∃ flag,
        (((machine (computeDhash decode)).exec (new threshold) past).register (computeDhash decode)
            receipt).1
        = .ok (some flag) := by
  obtain ⟨outcome, answered, flagged⟩ := register_flags_iff decode threshold past decoded
  have alike := differingComparisons_eq_zero (sameOrder_retone earlier increasing)
  have raised := flagged.mpr ⟨earlier, registered, by rw [alike]; exact notNegative⟩
  obtain ⟨flag, rfl⟩ := Option.isSome_iff_exists.mp raised
  exact ⟨flag, answered⟩

end Runs

/-! ### A run -/

/-- The header of a binary grey map of nine by eight pixels. -/
def greyMapHeader : Bytes := [0x50, 0x35, 0x20, 0x39, 0x20, 0x38, 0x20, 0x32, 0x35, 0x35, 0x0A]

/-- Grey maps that have the size of a thumbnail are their own thumbnails. -/
def decodeGreyMap (imageBytes : Bytes) : Except String Pixels :=
  let values := (imageBytes.drop 11).map UInt8.toNat
  if size : imageBytes.take 11 = greyMapHeader ∧ values.length = dhashWidth * dhashHeight then
    .ok ⟨values, size.2⟩
  else
    .error "cannot identify image file"

/-- A receipt with a picture of stripes between two tones. -/
def stripedReceipt (receiptId : String) (bright dark : UInt8) : ReceiptImage where
  tenantId := "T1"
  receiptId := receiptId
  custodianId := "C1"
  imageBytes := greyMapHeader ++ (List.range 72).map (fun i => if i % 2 = 0 then bright else dark)
  transactionDate := "2026-05-01"

def stripes (bright dark : Nat) : Pixels :=
  ⟨(List.range 72).map (fun i => if i % 2 = 0 then bright else dark),
    (List.length_map ..).trans List.length_range⟩

theorem register_flags_iff_sample
    : ∃ flag,
        (((machine (computeDhash decodeGreyMap)).exec (new 5)
            [.register (stripedReceipt "first" 200 100)]).register (computeDhash decodeGreyMap)
            (stripedReceipt "second" 100 200)).1
          = .ok flag
        ∧ (flag.isSome = true
          ↔ ∃ earlier ∈ picturesSince decodeGreyMap "T1"
                [.register (stripedReceipt "first" 200 100)],
              (differingComparisons (stripes 100 200) earlier : Int) ≤ 5) := by
  have decoded : decodeGreyMap (stripedReceipt "second" 100 200).imageBytes
      = .ok (stripes 100 200) := rfl
  exact register_flags_iff decodeGreyMap 5 _ decoded

theorem retoned_receipt_flagged_sample
    : ∃ flag,
        (((machine (computeDhash decodeGreyMap)).exec (new 5)
            [.register (stripedReceipt "first" 200 100)]).register (computeDhash decodeGreyMap)
            (stripedReceipt "second" 220 120)).1
        = .ok (some flag) := by
  have registered : stripes 200 100
      ∈ picturesSince decodeGreyMap "T1" [.register (stripedReceipt "first" 200 100)] :=
    List.mem_cons_self
  have decoded : decodeGreyMap (stripedReceipt "second" 220 120).imageBytes
      = .ok ((stripes 200 100).retone (· + 20)) := rfl
  exact retoned_receipt_flagged decodeGreyMap (by decide) _
    (fun _ _ less => Nat.add_lt_add_right less 20) registered decoded

end PettyFlow.Fraud
