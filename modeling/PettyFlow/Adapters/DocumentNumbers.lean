import PettyFlow.Adapters.ReplayIsolation
import PettyFlow.Foundation.NumberedLog
import PettyFlow.Foundation.Numerals

/-! The document numbers of posted entries: whether they differ, and what is found by them. -/

namespace PettyFlow.Adapters

open Foundation

/-! ### SAP -/

namespace SAPAdapter

/-- The first posted entry with a document number. -/
def getJournalEntry (s : SAPAdapter) (sapDocumentNumber : String) : Option SAPJournalEntry :=
  s.syncLog.find? (fun entry => entry.sapDocumentNumber = some sapDocumentNumber)

/-- Posted entries have different numbers, by which they are found. -/
structure NumbersRight (s : SAPAdapter) : Prop where
  different : s.syncLog.Pairwise (fun a b => a.sapDocumentNumber ≠ b.sapDocumentNumber)
  found
    : ∀ entry ∈ s.syncLog,
        ∃ number, entry.sapDocumentNumber = some number ∧ s.getJournalEntry number = some entry

/-- What is left of the identifier that a call draws. -/
def remainder (call : PostingCall SAPJournalEntry) : Nat := call.draw.uuid.int.toNat % 100000000

def documentNumber (remainder : Nat) : String := "1900" ++ zeroPadded 8 remainder

theorem documentNumber_inj {a b : Nat} (smallA : a < 10 ^ 8) (smallB : b < 10 ^ 8)
    (same : documentNumber a = documentNumber b)
    : a = b := by
  have texts := congrArg String.toList same
  rw [documentNumber, documentNumber, String.toList_append, String.toList_append,
    List.append_cancel_left_eq, toList_zeroPadded (by decide) smallA,
    toList_zeroPadded (by decide) smallB] at texts
  exact lastDigits_inj smallA smallB texts

def numberedPosting : NumberedPosting sapPosting (Option String) where
  log s := s.syncLog
  number entry := entry.sapDocumentNumber
  drawn call := some (documentNumber (remainder call))
  post_log := by
    rintro s call _ _ ⟨⟩
    exact ⟨rfl, rfl⟩

theorem numbersRight_throughout_iff (companyCode fiscalYear : String) (mockMode : Bool)
    (calls : List (PostingCall SAPJournalEntry))
    : (∀ done,
        done <+: calls
        → NumbersRight (sapPosting.machine.exec (.new companyCode fiscalYear mockMode) done))
      ↔ ((sapPosting.newCalls [] calls).map remainder).Nodup := by
  have small (call : PostingCall SAPJournalEntry) : remainder call < 10 ^ 8 :=
    Nat.mod_lt _ (by decide)
  rw [← numberedPosting.right_iff (s := .new companyCode fiscalYear mockMode) (fun _ => rfl) rfl
    (fun _ => rfl) (fun a b => documentNumber_inj (small a) (small b))]
  exact forall₂_congr (fun done _ =>
    ⟨fun right => ⟨right.different, right.found⟩, fun right => ⟨right.different, right.found⟩⟩)

end SAPAdapter

/-! ### NetSuite -/

namespace NetSuiteAdapter

/-- The first posted entry with an internal identifier. -/
def getJournalEntry (s : NetSuiteAdapter) (netsuiteInternalId : String)
    : Option NetSuiteJournalEntry :=
  s.syncLog.find? (fun entry => entry.netsuiteInternalId = some netsuiteInternalId)

/-- Posted entries have different identifiers, by which they are found. -/
structure NumbersRight (s : NetSuiteAdapter) : Prop where
  different : s.syncLog.Pairwise (fun a b => a.netsuiteInternalId ≠ b.netsuiteInternalId)
  found
    : ∀ entry ∈ s.syncLog,
        ∃ number, entry.netsuiteInternalId = some number ∧ s.getJournalEntry number = some entry

/-- What is left of the identifier that a call draws. -/
def remainder (call : PostingCall NetSuiteJournalEntry) : Nat :=
  call.draw.uuid.int.toNat % 1000000

def numberedPosting : NumberedPosting netSuitePosting (Option String) where
  log s := s.syncLog
  number entry := entry.netsuiteInternalId
  drawn call := some (toString (remainder call))
  post_log := by
    rintro s call _ _ ⟨⟩
    exact ⟨rfl, rfl⟩

theorem numbersRight_throughout_iff (subsidiary defaultCurrency : String) (mockMode : Bool)
    (calls : List (PostingCall NetSuiteJournalEntry))
    : (∀ done,
        done <+: calls
        → NumbersRight
            (netSuitePosting.machine.exec (.new subsidiary defaultCurrency mockMode) done))
      ↔ ((netSuitePosting.newCalls [] calls).map remainder).Nodup := by
  rw [← numberedPosting.right_iff (s := .new subsidiary defaultCurrency mockMode) (fun _ => rfl)
    rfl (fun _ => rfl) (fun _ _ => Nat.repr_injective)]
  exact forall₂_congr (fun done _ =>
    ⟨fun right => ⟨right.different, right.found⟩, fun right => ⟨right.different, right.found⟩⟩)

end NetSuiteAdapter

/-- Document numbers differ and find their entries exactly if the identifiers drawn by the calls
that post leave different remainders.
-/
theorem document_numbers_iff (companyCode fiscalYear subsidiary defaultCurrency : String)
    (mockMode : Bool) (sapCalls : List (PostingCall SAPJournalEntry))
    (netSuiteCalls : List (PostingCall NetSuiteJournalEntry))
    : ((∀ done,
          done <+: sapCalls
          → SAPAdapter.NumbersRight
              (sapPosting.machine.exec (.new companyCode fiscalYear mockMode) done))
        ↔ ((sapPosting.newCalls [] sapCalls).map SAPAdapter.remainder).Nodup)
      ∧ ((∀ done,
            done <+: netSuiteCalls
            → NetSuiteAdapter.NumbersRight
                (netSuitePosting.machine.exec (.new subsidiary defaultCurrency mockMode) done))
          ↔ ((netSuitePosting.newCalls [] netSuiteCalls).map NetSuiteAdapter.remainder).Nodup) :=
  ⟨SAPAdapter.numbersRight_throughout_iff companyCode fiscalYear mockMode sapCalls,
    NetSuiteAdapter.numbersRight_throughout_iff subsidiary defaultCurrency mockMode netSuiteCalls⟩

/-- An entry without lines, and the call that posts it with an identifier. -/
def emptyEntryCall (referenceDocument : String) (identifier : Nat)
    : PostingCall NetSuiteJournalEntry where
  draw := ⟨⟨BitVec.ofNat 128 identifier⟩, ⟨0⟩⟩
  entry :=
    {
      tenantId := "t"
      subsidiary := "1"
      referenceDocument
      postingPeriod := "May 2026"
      memo := ""
      lines := []
      idempotencyKey := none
    }

/-- Two random identifiers that differ by a million. -/
def collidingCalls : List (PostingCall NetSuiteJournalEntry) :=
  [
    emptyEntryCall "a" 0x00000000000040008000000000000000,
    emptyEntryCall "b" 0x000000000000400080000000000f4240
  ]

/-- Entries with different identifiers get one number. -/
theorem colliding_numbers
    : (collidingCalls.map (fun call => call.draw.uuid)).Nodup
      ∧ ¬ ∀ done,
          done <+: collidingCalls
          → NetSuiteAdapter.NumbersRight
              (netSuitePosting.machine.exec (.new "1" "USD" true) done) := by
  refine ⟨by decide, fun right => ?_⟩
  have different := (right collidingCalls List.prefix_rfl).different
  revert different
  decide +kernel

end PettyFlow.Adapters
