import PettyFlow.Foundation.Bisect
import PettyFlow.Foundation.Casing
import PettyFlow.Foundation.Clock
import PettyFlow.Foundation.Dict
import PettyFlow.Foundation.Machine
import PettyFlow.Foundation.Values

/-! The currency converter: a table of exact dates, an index sorted by date for each pair, and
a memo of resolved rates. Rates are integers of scale 1,000,000.
-/

namespace PettyFlow.Currency

open Foundation

def rateScale : Int := 1000000

/-- The exceptions of the converter, by class, with their texts. -/
inductive CurrencyError where
  | typeError (message : String)
  | valueError (message : String)
  | currencyConversion (message : String)
deriving DecidableEq

/-- A normalised currency code. -/
abbrev CurrencyCode := { text : String // text.length = 3 }

theorem usd_length : "USD".length = 3 := rfl

def usd : CurrencyCode := ⟨"USD", usd_length⟩

/-- A rate as `setRate` gets it: whether it is positive before scaling, and the integer
nearest to it after scaling.
-/
inductive RateArg where
  | number (positive : Bool) (scaled : Int)
  | other
deriving DecidableEq

abbrev Pair := CurrencyCode × CurrencyCode

abbrev DatedPair := CurrencyCode × CurrencyCode × String

structure CurrencyConverter where
  rates : Dict DatedPair Int
  rateIndex : Dict Pair (List (String × Int))
  rateCache : Dict DatedPair Int
deriving DecidableEq

/-- Normalising a code a second time changes nothing, so that codes are normalised once.
`isAlpha` says which characters are letters.
-/
def normalizeCurrencyCode (isAlpha : Char → Bool) (currency fieldName : String)
    : Except CurrencyError CurrencyCode :=
  let normalized := upper (strip currency)
  if valid : normalized.length = 3 ∧ normalized.toList.all isAlpha then
    .ok ⟨normalized, valid.1⟩
  else
    .error (.valueError (fieldName ++ " must be a three-letter ISO-4217 code."))

def validatePositiveRate (rate : RateArg) (fieldName : String) : Except CurrencyError Int :=
  match rate with
  | .other => .error (.typeError (fieldName ++ " must be a numeric rate."))
  | .number positive scaled =>
      if positive then
        .ok scaled
      else
        .error (.valueError (fieldName ++ " must be greater than zero."))

/-- A date argument, or today's date where it is missing or empty. -/
def dateOr (date : Option String) (today : CivilDate) : String :=
  match date with
  | some text => if text = "" then Instant.dateText today else text
  | none => Instant.dateText today

/-- Multiply by a rate and round half up. -/
def applyRate (value rate : Int) : Int := (value * rate + rateScale / 2) / rateScale

/-- The rate the other way round, rounded half up. -/
def inverseRate (scaledRate : Int) : Int :=
  (rateScale * rateScale + scaledRate / 2) / scaledRate

/-- A rate that was written with a validated set of arguments. -/
structure RateWrite where
  base : CurrencyCode
  quote : CurrencyCode
  date : String
  scaledRate : Int
deriving DecidableEq

def invalidStored (a b : CurrencyCode) : CurrencyError :=
  .currencyConversion ("Stored exchange rate for " ++ a.val ++ "/" ++ b.val ++ " is invalid.")

def notFound (a b : CurrencyCode) (date : String) : CurrencyError :=
  .currencyConversion
    ("No exchange rate found for pair " ++ a.val ++ "/" ++ b.val ++ " on date " ++ date)

def invalidCross (a b : CurrencyCode) (date : String) : CurrencyError :=
  .currencyConversion
    ("Invalid cross-rate for " ++ a.val ++ "/" ++ b.val ++ " on date " ++ date ++ ".")

/-- A stored rate, unless it is not positive. -/
def checkStored (a b : CurrencyCode) (rate : Int) : Except CurrencyError Int :=
  if rate ≤ 0 then .error (invalidStored a b) else .ok rate

namespace CurrencyConverter

def new : CurrencyConverter := ⟨.empty, .empty, .empty⟩

/-- The indexed rates of a pair. -/
def indexed (s : CurrencyConverter) (pair : Pair) : List (String × Int) :=
  s.rateIndex.getD pair []

/-- A date that is indexed already gets the new rate in its place; the sort is stable. -/
def indexRate (s : CurrencyConverter) (base quote : CurrencyCode) (date : String) (rate : Int)
    : CurrencyConverter :=
  let entries := Dict.assign date rate (s.indexed (base, quote))
  {
    s with
    rateIndex := s.rateIndex.set (base, quote) (entries.insertionSort (fun a b => a.1 ≤ b.1))
  }

def lookupIndexedRate (s : CurrencyConverter) (base quote : CurrencyCode) (date : String)
    : Except CurrencyError (Option Int) :=
  match entryAt (s.indexed (base, quote)) date with
  | none => .ok none
  | some (_, rate) => (checkStored base quote rate).map some

/-- Write one direction of a rate. -/
def store (s : CurrencyConverter) (base quote : CurrencyCode) (date : String) (rate : Int)
    : CurrencyConverter :=
  { s with rates := s.rates.set (base, quote, date) rate }.indexRate base quote date rate

/-- The checks of `setRate`. -/
def checkRate (isAlpha : Char → Bool) (today : CivilDate) (baseCurrency quoteCurrency : String)
    (rate : RateArg) (effectiveDate : Option String) (source : String)
    : Except CurrencyError RateWrite := do
  let base ← normalizeCurrencyCode isAlpha baseCurrency "base_currency"
  let quote ← normalizeCurrencyCode isAlpha quoteCurrency "quote_currency"
  let scaledRate ← validatePositiveRate rate "rate"
  raiseIf (isBlank source) (.valueError "source must be a non-empty string.")
  let date := dateOr effectiveDate today
  raiseIf (date.length ≠ 10) (.valueError "effective_date must be YYYY-MM-DD format.")
  raiseIf (scaledRate ≤ 0)
    (.currencyConversion
      ("Exchange rate for " ++ base.val ++ "/" ++ quote.val
        ++ " must be positive after scaling."))
  return ⟨base, quote, date, scaledRate⟩

/-- Write a rate and its inverse, and forget what was memoised. -/
def register (s : CurrencyConverter) (write : RateWrite) : CurrencyConverter :=
  let direct := s.store write.base write.quote write.date write.scaledRate
  {
    direct.store write.quote write.base write.date (inverseRate write.scaledRate) with
    rateCache := .empty
  }

def setRate (isAlpha : Char → Bool) (s : CurrencyConverter) (today : CivilDate)
    (baseCurrency quoteCurrency : String) (rate : RateArg) (effectiveDate : Option String)
    (source : String)
    : Except CurrencyError Unit × CurrencyConverter :=
  attempt s (checkRate isAlpha today baseCurrency quoteCurrency rate effectiveDate source)
    (fun write => ((), s.register write))

/-- Memoise a resolved rate and answer it. -/
def memoise (s : CurrencyConverter) (key : DatedPair) (rate : Int)
    : Except CurrencyError Int × CurrencyConverter :=
  (.ok rate, { s with rateCache := s.rateCache.set key rate })

/-- The rate of a pair without a cross-rate; there is no answer where nothing is stored. -/
def directRate (s : CurrencyConverter) (a b : CurrencyCode) (date : String)
    : Option (Except CurrencyError Int × CurrencyConverter) :=
  if a = b then
    some (.ok rateScale, s)
  else
    match s.rateCache.get? (a, b, date) with
    | some rate => some (.ok rate, s)
    | none =>
        match s.rates.get? (a, b, date) with
        | some rate =>
            match checkStored a b rate with
            | .ok rate => some (s.memoise (a, b, date) rate)
            | .error error => some (.error error, s)
        | none =>
            match s.lookupIndexedRate a b date with
            | .error error => some (.error error, s)
            | .ok (some rate) => some (s.memoise (a, b, date) rate)
            | .ok none => none

/-- A leg of a cross-rate. One of its currencies is the dollar, so that it has no cross-rate
itself.
-/
def legRate (s : CurrencyConverter) (a b : CurrencyCode) (date : String)
    : Except CurrencyError Int × CurrencyConverter :=
  (s.directRate a b date).getD (.error (notFound a b date), s)

/-- A leg that was resolved stays memoised even when the other one fails. -/
def crossRate (s : CurrencyConverter) (a b : CurrencyCode) (date : String)
    : Except CurrencyError Int × CurrencyConverter :=
  match s.legRate a usd date with
  | (.error error, s) => (.error error, s)
  | (.ok rateFromUsd, s) =>
      match s.legRate usd b date with
      | (.error error, s) => (.error error, s)
      | (.ok rateUsdTo, s) =>
          if rateFromUsd ≤ 0 ∨ rateUsdTo ≤ 0 then
            (.error (invalidCross a b date), s)
          else
            s.memoise (a, b, date) (applyRate rateFromUsd rateUsdTo)

/-- The rate between two normalised codes. -/
def rateBetween (s : CurrencyConverter) (a b : CurrencyCode) (date : String)
    : Except CurrencyError Int × CurrencyConverter :=
  match s.directRate a b date with
  | some answer => answer
  | none =>
      if a ≠ usd ∧ b ≠ usd then
        s.crossRate a b date
      else
        (.error (notFound a b date), s)

/-- Both currency codes of a query. -/
def checkPair (isAlpha : Char → Bool) (fromCurrency toCurrency : String)
    : Except CurrencyError Pair := do
  let a ← normalizeCurrencyCode isAlpha fromCurrency "from_currency"
  let b ← normalizeCurrencyCode isAlpha toCurrency "to_currency"
  return (a, b)

def getRateScaled (isAlpha : Char → Bool) (s : CurrencyConverter) (today : CivilDate)
    (fromCurrency toCurrency : String) (date : Option String)
    : Except CurrencyError Int × CurrencyConverter :=
  match checkPair isAlpha fromCurrency toCurrency with
  | .error error => (.error error, s)
  | .ok (a, b) => s.rateBetween a b (dateOr date today)

/-- An amount that is a non-negative integer. -/
def checkAmount (amountScaled : NumberArg) : Except CurrencyError Int := do
  let amount ←
    orRaise amountScaled.int? (.typeError "amount_scaled must be an integer fixed-point value.")
  raiseIf (amount < 0) (.valueError "amount_scaled must be non-negative.")
  return amount

/-- The amount and the currency codes of a conversion. -/
def checkConversion (isAlpha : Char → Bool) (amountScaled : NumberArg)
    (fromCurrency toCurrency : String) : Except CurrencyError (Int × Pair) := do
  let amount ← checkAmount amountScaled
  let pair ← checkPair isAlpha fromCurrency toCurrency
  return (amount, pair)

def convert (isAlpha : Char → Bool) (s : CurrencyConverter) (today : CivilDate)
    (amountScaled : NumberArg) (fromCurrency toCurrency : String) (date : Option String)
    : Except CurrencyError Int × CurrencyConverter :=
  match checkConversion isAlpha amountScaled fromCurrency toCurrency with
  | .error error => (.error error, s)
  | .ok (amount, a, b) =>
      if a = b then
        (.ok amount, s)
      else
        match s.rateBetween a b (dateOr date today) with
        | (.error error, s) => (.error error, s)
        | (.ok rate, s) =>
            if rate ≤ 0 then
              (.error (.currencyConversion
                ("Exchange rate for " ++ a.val ++ "/" ++ b.val ++ " must be positive.")), s)
            else
              (.ok (applyRate amount rate), s)

structure Revaluation where
  historicalBaseAmountScaled : Int
  currentBaseAmountScaled : Int
  fxGainLossScaled : Int
deriving DecidableEq

def revalueAmount (isAlpha : Char → Bool) (s : CurrencyConverter) (today : CivilDate)
    (amountScaled : NumberArg) (fromCurrency baseCurrency historicalDate : String)
    (currentDate : Option String)
    : Except CurrencyError Revaluation × CurrencyConverter :=
  match checkAmount amountScaled with
  | .error error => (.error error, s)
  | .ok _ =>
      let current := dateOr currentDate today
      match s.convert isAlpha today amountScaled fromCurrency baseCurrency historicalDate with
      | (.error error, s) => (.error error, s)
      | (.ok historical, s) =>
          match s.convert isAlpha today amountScaled fromCurrency baseCurrency current with
          | (.error error, s) => (.error error, s)
          | (.ok current, s) => (.ok ⟨historical, current, current - historical⟩, s)

end CurrencyConverter

end PettyFlow.Currency
