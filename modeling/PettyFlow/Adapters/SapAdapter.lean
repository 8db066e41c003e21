import PettyFlow.Foundation.Clock
import PettyFlow.Foundation.Digest
import PettyFlow.Foundation.ReplayCache

/-! Journal posting to SAP: balanced entries, posted once for each idempotency key. -/

namespace PettyFlow.Adapters

open Foundation

/-- The errors of the posting adapters, by class, with their texts. -/
inductive PostingError where
  | valueError (message : String)
  | overflowError (message : String)
deriving DecidableEq

inductive SAPPostingDirection where
  | debit
  | credit
deriving DecidableEq

structure SAPJournalLine where
  glAccount : String
  postingDirection : SAPPostingDirection
  amountScaled : Int
  currency : String := "USD"
  costCenter : String := ""
  profitCenter : String := ""
  text : String := ""
deriving DecidableEq

structure SAPJournalEntry where
  tenantId : String
  referenceDocument : String
  companyCode : String
  postingDate : String
  documentDate : String
  description : String
  lines : List SAPJournalLine
  idempotencyKey : Option String
  sapDocumentNumber : Option String := none
  syncedAt : Option String := none
deriving DecidableEq

/-- The sum of the lines posted in one direction. -/
def SAPJournalEntry.total (entry : SAPJournalEntry) (direction : SAPPostingDirection) : Int :=
  ((entry.lines.filter (fun line => line.postingDirection = direction)).map
    SAPJournalLine.amountScaled).sum

def SAPJournalEntry.validateBalance (entry : SAPJournalEntry) : Except PostingError Unit :=
  let debits := entry.total .debit
  let credits := entry.total .credit
  raiseIf (debits ≠ credits)
    (.valueError s!"SAP journal entry imbalanced: debits={debits}, credits={credits}")

/-- A key that counts: an empty one is as good as none. -/
def givenKey (idempotencyKey : Option String) : Option String :=
  match idempotencyKey with
  | none | some "" => none
  | some key => some key

structure SAPAdapter where
  companyCode : String
  fiscalYear : String
  mockMode : Bool
  posted : Dict String SAPJournalEntry
  syncLog : List SAPJournalEntry
deriving DecidableEq

def SAPAdapter.new (companyCode fiscalYear : String) (mockMode : Bool) : SAPAdapter :=
  ⟨companyCode, fiscalYear, mockMode, .empty, []⟩

namespace SAPAdapter

/-- The entry as it is once posted. -/
def stamp (draw : Draw) (entry : SAPJournalEntry) : SAPJournalEntry :=
  {
    entry with
    sapDocumentNumber :=
      some ("1900" ++ zeroPadded 8 (draw.uuid.int.toNat % 100000000 : Nat))
    syncedAt := some draw.now.isoformat
  }

/-- Give an entry its number, file it under its key and log it. -/
def post (s : SAPAdapter) (draw : Draw) (entry : SAPJournalEntry)
    : SAPJournalEntry × SAPAdapter :=
  let stamped := stamp draw entry
  (stamped,
    {
      s with
      posted :=
        match givenKey entry.idempotencyKey with
        | none => s.posted
        | some key => s.posted.set key stamped
      syncLog := s.syncLog ++ [stamped]
    })

/-- Post a balanced entry, or return the entry posted before under its key. -/
def postJournalEntry (s : SAPAdapter) (draw : Draw) (entry : SAPJournalEntry)
    : Except PostingError SAPJournalEntry × SAPAdapter :=
  replayOrPost s entry.validateBalance
    ((givenKey entry.idempotencyKey).bind s.posted.get?) (.ok (s.post draw entry))

/-- The entry that moves money from the bank to petty cash. Its key is the document it
refers to.
-/
def buildReplenishmentEntry (s : SAPAdapter) (today : CivilDate)
    (tenantId referenceDocument : String) (amountScaled : Int)
    (pettyCashGl : String := "101000") (bankGl : String := "113100")
    (currency : String := "USD") (description : String := "Petty Cash Replenishment")
    : SAPJournalEntry where
  tenantId
  referenceDocument
  companyCode := s.companyCode
  postingDate := Instant.dateText today
  documentDate := Instant.dateText today
  description
  idempotencyKey := some referenceDocument
  lines := [
    {
      glAccount := pettyCashGl
      postingDirection := .debit
      amountScaled
      currency
      text := s!"Replenish petty cash — {description}"
    },
    {
      glAccount := bankGl
      postingDirection := .credit
      amountScaled
      currency
      text := s!"Bank transfer — {description}"
    }
  ]

end SAPAdapter

end PettyFlow.Adapters
