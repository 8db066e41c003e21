import PettyFlow.Foundation.Machine
import PettyFlow.Fraud.PerceptualHash

/-! Runs of the detector of duplicate receipts: what is stored after them, when a receipt is flagged
and which earlier one the flag names.
-/

namespace PettyFlow.Fraud

open Foundation

namespace DuplicateReceiptDetector

/-! ### The first entry within the threshold -/

section Scan

variable {threshold : Int} {newFp : Nat} {entries : List FingerprintEntry}

theorem firstWithin_eq_none_iff
    : firstWithin threshold newFp entries = none
      ↔ ∀ entry ∈ entries, threshold < hammingDistance newFp entry.fingerprint := by
  induction entries with
  | nil => simp [firstWithin]
  | cons existing rest ih =>
      rw [firstWithin, List.forall_mem_cons, ← ih]
      by_cases close : (hammingDistance newFp existing.fingerprint : Int) ≤ threshold
      · simp [close]
      · simp [close, not_le.mp close]

theorem firstWithin_eq_some_iff {entry : FingerprintEntry} {dist : Nat}
    : firstWithin threshold newFp entries = some (entry, dist)
      ↔ ∃ before after,
          entries = before ++ entry :: after
          ∧ (∀ other ∈ before, threshold < hammingDistance newFp other.fingerprint)
          ∧ dist = hammingDistance newFp entry.fingerprint
          ∧ (dist : Int) ≤ threshold := by
  induction entries with
  | nil => simp [firstWithin]
  | cons existing rest ih =>
      rw [firstWithin]
      by_cases close : (hammingDistance newFp existing.fingerprint : Int) ≤ threshold
      · rw [if_pos close]
        constructor
        · intro found
          cases found
          exact ⟨[], rest, rfl, nofun, rfl, close⟩
        · intro ⟨before, after, split, far, same, near⟩
          cases before with
          | nil =>
              cases split
              rw [same]
          | cons head before =>
              obtain ⟨rfl, _⟩ := List.cons.inj split
              exact absurd close (not_le.mpr (far _ List.mem_cons_self))
      · rw [if_neg close, ih]
        constructor
        · intro ⟨before, after, split, far, found⟩
          refine ⟨existing :: before, after, by rw [split, List.cons_append], ?_, found⟩
          exact List.forall_mem_cons.mpr ⟨not_le.mp close, far⟩
        · intro ⟨before, after, split, far, same, near⟩
          cases before with
          | nil =>
              cases split
              rw [same] at near
              exact absurd near close
          | cons head before =>
              obtain ⟨rfl, tails⟩ := List.cons.inj split
              exact ⟨before, after, tails, fun other member =>
                far other (List.mem_cons_of_mem _ member), same, near⟩

end Scan

/-! ### Runs -/

inductive Call where
  | register (receipt : ReceiptImage)
  | clearTenant (tenantId : String)
deriving DecidableEq

inductive Answer where
  | registered (outcome : Except String (Option DuplicateFlag))
  | cleared

section Runs

variable (computeDhash : Bytes → Except String Nat)

def machine : Machine DuplicateReceiptDetector Call Answer where
  step s call :=
    match call with
    | .register receipt =>
        let (outcome, next) := s.register computeDhash receipt
        (.registered outcome, next)
    | .clearTenant tenantId => (.cleared, s.clearTenant tenantId)

/-- What a call registers for a tenant. -/
def Call.entry? (tenantId : String) : Call → Option FingerprintEntry
  | .register receipt =>
      if receipt.tenantId = tenantId then
        (computeDhash receipt.imageBytes).toOption.map receipt.entry
      else
        none
  | .clearTenant _ => none

/-- The receipts of a tenant that calls have registered since they last cleared it. -/
def registeredSince (tenantId : String) (calls : List Call) : List FingerprintEntry :=
  (calls.rtakeWhile (· ≠ .clearTenant tenantId)).filterMap (Call.entry? computeDhash tenantId)

/-- The store has the receipts that were registered since the last clear. -/
def Stores (s : DuplicateReceiptDetector) (calls : List Call) : Prop :=
  ∀ tenantId, s.store.getD tenantId [] = registeredSince computeDhash tenantId calls

/-- The flag of a receipt for an entry within the threshold. -/
def flagFor (receipt : ReceiptImage) (found : FingerprintEntry × Nat) : DuplicateFlag where
  newReceiptId := receipt.receiptId
  existingReceiptId := found.1.receiptId
  hammingDistance := found.2

/-- A receipt whose image is decoded is flagged for the first entry within the threshold, and is
added at the end of its tenant's store.
-/
theorem register_decoded (s : DuplicateReceiptDetector) {receipt : ReceiptImage} {newFp : Nat}
    (decoded : computeDhash receipt.imageBytes = .ok newFp)
    : s.register computeDhash receipt
      = (.ok ((firstWithin s.duplicateThreshold newFp (s.store.getD receipt.tenantId [])).map
            (flagFor receipt)),
          {
            s with
            store := s.store.set receipt.tenantId
              (s.store.getD receipt.tenantId [] ++ [receipt.entry newFp])
          }) := by
  rw [register, decoded]
  dsimp only
  cases firstWithin s.duplicateThreshold newFp (s.store.getD receipt.tenantId []) with
  | none => rfl
  | some found => rfl

theorem register_undecoded (s : DuplicateReceiptDetector) {receipt : ReceiptImage}
    {message : String} (undecoded : computeDhash receipt.imageBytes = .error message)
    : s.register computeDhash receipt = (.error message, s) := by
  rw [register, undecoded]

/-- What a call registers is added at the end of its tenant's store, and nothing else changes. -/
theorem store_register (s : DuplicateReceiptDetector) (receipt : ReceiptImage) (tenantId : String)
    : ((s.register computeDhash receipt).2).store.getD tenantId []
      = s.store.getD tenantId []
        ++ (Call.entry? computeDhash tenantId (.register receipt)).toList := by
  rw [Call.entry?]
  cases decoded : computeDhash receipt.imageBytes with
  | error message =>
      rw [register_undecoded computeDhash s decoded]
      simp [Except.toOption]
  | ok newFp =>
      rw [register_decoded computeDhash s decoded]
      by_cases own : receipt.tenantId = tenantId
      · subst own
        simp [Dict.getD_set_self, Except.toOption]
      · simp [Dict.getD_set_ne _ _ _ own, own]

/-- Every run leaves the receipts registered since the last clear, by induction from its end. -/
theorem stores_exec (threshold : Int) (calls : List Call)
    : Stores computeDhash ((machine computeDhash).exec (new threshold) calls) calls := by
  intro tenantId
  induction calls using List.reverseRecOn with
  | nil => rfl
  | append_singleton calls call ih =>
      rw [Machine.exec_concat, registeredSince, List.rtakeWhile_concat]
      cases call with
      | register receipt =>
          rw [if_pos (decide_eq_true nofun), List.filterMap_append, ← registeredSince, ← ih]
          have single
              : [Call.register receipt].filterMap (Call.entry? computeDhash tenantId)
                = (Call.entry? computeDhash tenantId (.register receipt)).toList := by
            cases found : Call.entry? computeDhash tenantId (.register receipt) with
            | none => rw [List.filterMap_cons_none found, List.filterMap_nil, Option.toList_none]
            | some entry =>
                rw [List.filterMap_cons_some found, List.filterMap_nil, Option.toList_some]
          rw [single]
          exact store_register computeDhash _ receipt tenantId
      | clearTenant cleared =>
          change (((machine computeDhash).exec (new threshold) calls).store.erase cleared).getD
            tenantId [] = _
          rw [Dict.getD, Dict.get?_erase]
          by_cases own : cleared = tenantId
          · subst own
            simp
          · have other : Call.clearTenant cleared ≠ .clearTenant tenantId :=
              fun same => own (Call.clearTenant.inj same)
            rw [if_neg own, if_pos (decide_eq_true other), List.filterMap_append, ← registeredSince,
              ← ih]
            simp [Call.entry?, Dict.getD]

/-! ### Flags -/

/-- What a registration after other calls answers and leaves. -/
structure RegistersRight (threshold : Int) (past : List Call) (receipt : ReceiptImage) : Prop where
  undecodable
    : ∀ message,
        computeDhash receipt.imageBytes = .error message
        → ((machine computeDhash).exec (new threshold) past).register computeDhash receipt
          = (.error message, (machine computeDhash).exec (new threshold) past)
  flagged
    : ∀ newFp,
        computeDhash receipt.imageBytes = .ok newFp
        → ∃ flag,
            (((machine computeDhash).exec (new threshold) past).register computeDhash receipt).1
              = .ok flag
            ∧ (flag.isSome = true
                ↔ ∃ entry ∈ registeredSince computeDhash receipt.tenantId past,
                    (hammingDistance newFp entry.fingerprint : Int) ≤ threshold)
            ∧ ∀ raised ∈ flag,
                raised.newReceiptId = receipt.receiptId
                ∧ raised.isDuplicate = true
                ∧ ∃ entry ∈ registeredSince computeDhash receipt.tenantId past,
                    raised.existingReceiptId = entry.receiptId
                    ∧ raised.hammingDistance = hammingDistance newFp entry.fingerprint
                    ∧ ∀ other ∈ registeredSince computeDhash receipt.tenantId past,
                        raised.hammingDistance ≤ hammingDistance newFp other.fingerprint
  stored
    : ∀ newFp,
        computeDhash receipt.imageBytes = .ok newFp
        → (((machine computeDhash).exec (new threshold) past).register computeDhash
            receipt).2.store.get? receipt.tenantId
          = some
              (registeredSince computeDhash receipt.tenantId past ++ [receipt.entry newFp])
  others
    : ∀ tenantId,
        tenantId ≠ receipt.tenantId
        → (((machine computeDhash).exec (new threshold) past).register computeDhash
            receipt).2.store.get? tenantId
          = ((machine computeDhash).exec (new threshold) past).store.get? tenantId

/-- A clear after other calls takes all receipts of its tenant away and no others. -/
def ClearsRight (threshold : Int) (past : List Call) (cleared : String) : Prop :=
  ∀ tenantId,
    (((machine computeDhash).exec (new threshold) past).clearTenant cleared).store.get? tenantId
    = if tenantId = cleared then
        none
      else
        ((machine computeDhash).exec (new threshold) past).store.get? tenantId

/-- A call after others does what it is to do. -/
def CallRight (threshold : Int) (past : List Call) : Call → Prop
  | .register receipt => RegistersRight computeDhash threshold past receipt
  | .clearTenant cleared => ClearsRight computeDhash threshold past cleared

/-- No receipt registered after the first one within the threshold is nearer than that one. -/
def FirstIsNearest (threshold : Int) (past : List Call) : Call → Prop
  | .register receipt =>
      ∀ newFp before entry after,
        computeDhash receipt.imageBytes = .ok newFp
        → registeredSince computeDhash receipt.tenantId past = before ++ entry :: after
        → (∀ other ∈ before, threshold < hammingDistance newFp other.fingerprint)
        → (hammingDistance newFp entry.fingerprint : Int) ≤ threshold
        → ∀ other ∈ after,
            hammingDistance newFp entry.fingerprint ≤ hammingDistance newFp other.fingerprint
  | .clearTenant _ => True

theorem duplicateThreshold_exec (threshold : Int) (calls : List Call)
    : ((machine computeDhash).exec (new threshold) calls).duplicateThreshold = threshold := by
  induction calls using List.reverseRecOn with
  | nil => rfl
  | append_singleton calls call ih =>
      rw [Machine.exec_concat]
      cases call with
      | register receipt =>
          refine Eq.trans ?_ ih
          cases decoded : computeDhash receipt.imageBytes with
          | error message => simp only [machine, register_undecoded computeDhash _ decoded]
          | ok newFp => simp only [machine, register_decoded computeDhash _ decoded]
      | clearTenant cleared => exact ih

/-- What a registration answers and stores after other calls. -/
theorem register_exec (threshold : Int) (past : List Call) {receipt : ReceiptImage} {newFp : Nat}
    (decoded : computeDhash receipt.imageBytes = .ok newFp)
    : (((machine computeDhash).exec (new threshold) past).register computeDhash receipt).1
        = .ok ((firstWithin threshold newFp
            (registeredSince computeDhash receipt.tenantId past)).map (flagFor receipt))
      ∧ (((machine computeDhash).exec (new threshold) past).register computeDhash receipt).2.store
        = ((machine computeDhash).exec (new threshold) past).store.set receipt.tenantId
            (registeredSince computeDhash receipt.tenantId past ++ [receipt.entry newFp]) := by
  rw [register_decoded computeDhash _ decoded, duplicateThreshold_exec, stores_exec]
  exact ⟨rfl, rfl⟩

section First

variable {threshold : Int} {newFp : Nat} {entries before after : List FingerprintEntry}
  {entry : FingerprintEntry} {dist : Nat}

/-- Some entry is within the threshold exactly if a first one is found. -/
theorem isSome_firstWithin
    : (firstWithin threshold newFp entries).isSome = true
      ↔ ∃ entry ∈ entries, (hammingDistance newFp entry.fingerprint : Int) ≤ threshold := by
  rw [← not_iff_not, Bool.not_eq_true, Option.isSome_eq_false_iff, Option.isNone_iff_eq_none,
    firstWithin_eq_none_iff]
  push Not
  rfl

/-- The first entry within the threshold is a nearest one if none behind it is nearer. -/
theorem nearest_of_first (split : entries = before ++ entry :: after)
    (far : ∀ other ∈ before, threshold < hammingDistance newFp other.fingerprint)
    (close : (hammingDistance newFp entry.fingerprint : Int) ≤ threshold)
    (least
      : ∀ other ∈ after,
          hammingDistance newFp entry.fingerprint ≤ hammingDistance newFp other.fingerprint)
    : ∀ other ∈ entries,
        hammingDistance newFp entry.fingerprint ≤ hammingDistance newFp other.fingerprint := by
  intro other listed
  rw [split] at listed
  rcases List.mem_append.mp listed with earlier | here
  · exact_mod_cast (close.trans_lt (far other earlier)).le
  · rcases List.mem_cons.mp here with rfl | later
    · exact le_rfl
    · exact least other later

end First

/-- Where every registration is as it should be, the first receipt within the threshold is a
nearest one.
-/
theorem firstIsNearest_of_registersRight {threshold : Int} {past : List Call}
    {receipt : ReceiptImage} (right : RegistersRight computeDhash threshold past receipt)
    : FirstIsNearest computeDhash threshold past (.register receipt) := by
  intro newFp before entry after decoded split far close other later
  obtain ⟨flag, answered, _, nearest⟩ := right.flagged newFp decoded
  have found
      : firstWithin threshold newFp (registeredSince computeDhash receipt.tenantId past)
        = some (entry, hammingDistance newFp entry.fingerprint) :=
    firstWithin_eq_some_iff.mpr ⟨before, after, split, far, rfl, close⟩
  rw [(register_exec computeDhash threshold past decoded).1, found] at answered
  cases answered
  obtain ⟨_, _, _, _, _, _, least⟩ := nearest _ rfl
  exact least other (by simp [split, later])

/-- A registration is as it should be exactly if the first receipt within the threshold is a
nearest one.
-/
theorem registersRight_iff (threshold : Int) (past : List Call) (receipt : ReceiptImage)
    : RegistersRight computeDhash threshold past receipt
      ↔ FirstIsNearest computeDhash threshold past (.register receipt) := by
  refine ⟨firstIsNearest_of_registersRight computeDhash, fun first => ?_⟩
  constructor
  · intro message undecoded
    exact register_undecoded computeDhash _ undecoded
  · intro newFp decoded
    refine ⟨_, (register_exec computeDhash threshold past decoded).1, ?_, ?_⟩
    · rw [Option.isSome_map, isSome_firstWithin]
    · intro raised isRaised
      obtain ⟨⟨entry, dist⟩, found, rfl⟩ := Option.map_eq_some_iff.mp isRaised
      obtain ⟨before, after, split, far, same, close⟩ := firstWithin_eq_some_iff.mp found
      rw [same] at close
      refine ⟨rfl, rfl, entry, by simp [split], rfl, same, ?_⟩
      rw [show (flagFor receipt (entry, dist)).hammingDistance = dist from rfl, same]
      have least := first newFp before entry after decoded split far close
      exact nearest_of_first split far close least
  · intro newFp decoded
    rw [(register_exec computeDhash threshold past decoded).2, Dict.get?_set_self]
  · intro tenantId other
    cases decoded : computeDhash receipt.imageBytes with
    | error message => rw [register_undecoded computeDhash _ decoded]
    | ok newFp =>
        rw [(register_exec computeDhash threshold past decoded).2, Dict.get?_set_ne _ _ other.symm]

/-- Every call of a run does what it is to do exactly if at each registration the first receipt
within the threshold is a nearest one.
-/
theorem calls_right_iff (threshold : Int) (calls : List Call)
    : (∀ past call rest,
        calls = past ++ call :: rest → CallRight computeDhash threshold past call)
      ↔ ∀ past call rest,
          calls = past ++ call :: rest → FirstIsNearest computeDhash threshold past call := by
  have each (past : List Call) (call : Call)
      : CallRight computeDhash threshold past call
        ↔ FirstIsNearest computeDhash threshold past call := by
    cases call with
    | register receipt => exact registersRight_iff computeDhash threshold past receipt
    | clearTenant cleared =>
        refine iff_of_true (fun tenantId => ?_) trivial
        rw [clearTenant, Dict.get?_erase]
        simp only [eq_comm]
  simp only [each]

end Runs

/-- A receipt that is one bit from the second of two others, and five from the first. -/
def closerToSecond : List Call :=
  [
    .register ⟨"t", "first", "c", [0], "2026-05-01"⟩,
    .register ⟨"t", "second", "c", [63], "2026-05-02"⟩,
    .register ⟨"t", "third", "c", [31], "2026-05-03"⟩
  ]

/-- The flag names the first receipt, although the second one is nearer. -/
theorem nearer_receipt_unnamed
    : ¬ ∀ past call rest,
        closerToSecond = past ++ call :: rest
        → CallRight (fun image => .ok (image.headD 0).toNat) 5 past call := by
  intro all
  have right : RegistersRight _ 5 _ _ := all (closerToSecond.take 2) _ [] rfl
  have first : hammingDistance 31 0 = 5 := by simp [hammingDistance, BitCount.run, BitCount.round]
  have second : hammingDistance 31 63 = 1 := by simp [hammingDistance, BitCount.run, BitCount.round]
  have nearer := (registersRight_iff _ 5 _ _).mp right 31 [] ⟨"first", "t", "c", 0, "2026-05-01"⟩
    [⟨"second", "t", "c", 63, "2026-05-02"⟩] rfl (by decide +kernel)
    (fun _ member => absurd member List.not_mem_nil) (by rw [first]; decide) _ List.mem_cons_self
  rw [first, second] at nearer
  exact absurd nearer (by decide)

end DuplicateReceiptDetector

end PettyFlow.Fraud
