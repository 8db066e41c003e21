import PettyFlow.Adapters.SapAdapter

/-! Journal posting to NetSuite: balanced entries, numbered in order and posted once for
each idempotency key.
-/

namespace PettyFlow.Adapters

open Foundation

inductive NetSuiteLineType where
  | debit
  | credit
deriving DecidableEq

structure NetSuiteJournalLine where
  accountId : String
  lineType : NetSuiteLineType
  amountScaled : Int
  currency : String := "USD"
  department : String := ""
  classValue : String := ""
  memo : String := ""
deriving DecidableEq

structure NetSuiteJournalEntry where
  tenantId : String
  subsidiary : String
  referenceDocument : String
  postingPeriod : String
  memo : String
  lines : List NetSuiteJournalLine
  idempotencyKey : Option String
  netsuiteInternalId : Option String := none
  netsuiteTranId : Option String := none
  syncedAt : Option String := none
  isApproved : Bool := false
deriving DecidableEq

/-- The sum of the lines of one type. -/
def NetSuiteJournalEntry.total (entry : NetSuiteJournalEntry) (lineType : NetSuiteLineType)
    : Int :=
  ((entry.lines.filter (fun line => line.lineType = lineType)).map
    NetSuiteJournalLine.amountScaled).sum

def NetSuiteJournalEntry.validateBalance (entry : NetSuiteJournalEntry)
    : Except PostingError Unit :=
  let debits := entry.total .debit
  let credits := entry.total .credit
  raiseIf (debits ≠ credits)
    (.valueError s!"NetSuite journal entry imbalanced: debits={debits}, credits={credits}")

structure NetSuiteAdapter where
  subsidiary : String
  defaultCurrency : String
  mockMode : Bool
  posted : Dict String NetSuiteJournalEntry
  syncLog : List NetSuiteJournalEntry
  jeCounter : Nat
deriving DecidableEq

def NetSuiteAdapter.new (subsidiary defaultCurrency : String) (mockMode : Bool)
    : NetSuiteAdapter :=
  ⟨subsidiary, defaultCurrency, mockMode, .empty, [], 0⟩

namespace NetSuiteAdapter

/-- The entry as it is once posted under a number. -/
def stamp (jeCounter : Nat) (draw : Draw) (entry : NetSuiteJournalEntry)
    : NetSuiteJournalEntry :=
  {
    entry with
    netsuiteInternalId := some (toString (draw.uuid.int.toNat % 1000000))
    netsuiteTranId := some ("JE-" ++ zeroPadded 5 jeCounter)
    syncedAt := some draw.now.isoformat
    isApproved := true
  }

/-- Give an entry the next number, file it under its key and log it. -/
def post (s : NetSuiteAdapter) (draw : Draw) (entry : NetSuiteJournalEntry)
    : NetSuiteJournalEntry × NetSuiteAdapter :=
  let stamped := stamp (s.jeCounter + 1) draw entry
  (stamped,
    {
      s with
      jeCounter := s.jeCounter + 1
      posted :=
        match givenKey entry.idempotencyKey with
        | none => s.posted
        | some key => s.posted.set key stamped
      syncLog := s.syncLog ++ [stamped]
    })

/-- Post a balanced entry, or return the entry posted before under its key. -/
def postJournalEntry (s : NetSuiteAdapter) (draw : Draw)
    (entry : NetSuiteJournalEntry)
    : Except PostingError NetSuiteJournalEntry × NetSuiteAdapter :=
  replayOrPost s entry.validateBalance
    ((givenKey entry.idempotencyKey).bind s.posted.get?) (.ok (s.post draw entry))

/-- The entry that moves money from the bank to petty cash. Its key is the document it
refers to.
-/
def buildReplenishmentEntry (s : NetSuiteAdapter) (now : Instant)
    (tenantId referenceDocument : String) (amountScaled : Int)
    (pettyCashAccount : String := "10100") (bankAccount : String := "10000")
    (currency : String := "USD") (memo : String := "Petty Cash Replenishment")
    : NetSuiteJournalEntry where
  tenantId
  subsidiary := s.subsidiary
  referenceDocument
  postingPeriod := now.monthNameYear
  memo
  idempotencyKey := some referenceDocument
  lines := [
    {
      accountId := pettyCashAccount
      lineType := .debit
      amountScaled
      currency
      memo := s!"Float replenishment — {memo}"
    },
    {
      accountId := bankAccount
      lineType := .credit
      amountScaled
      currency
      memo := s!"Bank drawdown — {memo}"
    }
  ]

end NetSuiteAdapter

end PettyFlow.Adapters
