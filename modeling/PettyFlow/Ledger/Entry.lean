import PettyFlow.Foundation.Bytes
import PettyFlow.Foundation.DoubleText
import PettyFlow.Foundation.Machine

/-! Double-entry postings: legs with positive fixed-point amounts, and batches whose debits
have to equal their credits.
-/

namespace PettyFlow.Ledger

open Foundation

inductive EntryType where
  | debit
  | credit
deriving DecidableEq

def EntryType.value : EntryType → String
  | .debit => "DEBIT"
  | .credit => "CREDIT"

/-- The entry type of a leg. It should be a member of the enumeration, but text and bytes
pass as well.
-/
inductive EntryTypeArg where
  | member (entryType : EntryType)
  | text (value : String)
  | bytes (value : Bytes)
deriving DecidableEq

/-- The exceptions of the ledger, by class, with their texts. -/
inductive LedgerError where
  | valueError (message : String)
  | overflowError (message : String)
  | unbalancedLedgerEntry (message : String)
  | chainTampered (message : String)
deriving DecidableEq

structure PostingLeg where
  accountId : String
  entryType : EntryTypeArg
  amountScaled : Int
  amountPositive : 0 < amountScaled

def PostingLeg.new (accountId : String) (entryType : EntryTypeArg) (amountScaled : Int)
    : Except LedgerError PostingLeg :=
  if amountPositive : 0 < amountScaled then
    .ok ⟨accountId, entryType, amountScaled, amountPositive⟩
  else
    .error (.valueError
      s!"Posting leg amount must be positive scaled integer, got {amountScaled}")

/-- The time of a batch: a text, or a local time that is written when it is needed. -/
inductive Timestamp where
  | text (value : String)
  | datetime (value : Instant)
deriving DecidableEq

def Timestamp.written : Timestamp → String
  | .text value => value
  | .datetime value => value.localText

structure TransactionBatch where
  transactionId : String
  tenantId : String
  description : String
  legs : List PostingLeg
  timestamp : Timestamp

namespace TransactionBatch

def totalDebits (tx : TransactionBatch) : Int :=
  ((tx.legs.filter (fun leg => leg.entryType = .member .debit)).map
    PostingLeg.amountScaled).sum

/-- Whatever is not the debit member counts as a credit. -/
def totalCredits (tx : TransactionBatch) : Int :=
  ((tx.legs.filter (fun leg => leg.entryType ≠ .member .debit)).map
    PostingLeg.amountScaled).sum

/-- Debits have to equal credits. The error shows both totals as decimals, so that a total
too large for a double raises another error in its place.
-/
def validateBalance (tx : TransactionBatch) : Except LedgerError Unit := do
  let debits := tx.totalDebits
  let credits := tx.totalCredits
  if debits ≠ credits then
    let overflow := LedgerError.overflowError "integer division result too large for a float"
    let debitsText ← orRaise (totalText debits) overflow
    let creditsText ← orRaise (totalText credits) overflow
    .error (.unbalancedLedgerEntry
      s!"Transaction {tx.transactionId} is unbalanced! Total Debits: {debits} ({debitsText}), Total Credits: {credits} ({creditsText})")

theorem validateBalance_ok_iff (tx : TransactionBatch)
    : tx.validateBalance = .ok () ↔ tx.totalDebits = tx.totalCredits := by
  unfold validateBalance
  dsimp only
  split
  · rename_i different
    refine iff_of_false (fun passed => ?_) different
    obtain ⟨_, _, passed⟩ := bind_ok passed
    obtain ⟨_, _, passed⟩ := bind_ok passed
    cases passed
  · rename_i equal
    exact iff_of_true rfl (not_not.mp equal)

end TransactionBatch

end PettyFlow.Ledger
