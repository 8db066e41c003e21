import PettyFlow.Currency.ExchangeRates
import PettyFlow.Foundation.DatedValues

/-! The converter against a reference without memo or index: every query answers what the
history of written rates says.
-/

namespace PettyFlow.Currency

open Foundation

/-- The calls of a converter, each with the date of its day. -/
inductive RateCall where
  | setRate (today : CivilDate) (baseCurrency quoteCurrency : String) (rate : RateArg)
      (effectiveDate : Option String) (source : String)
  | getRateScaled (today : CivilDate) (fromCurrency toCurrency : String) (date : Option String)
  | convert (today : CivilDate) (amountScaled : NumberArg) (fromCurrency toCurrency : String)
      (date : Option String)
  | revalueAmount (today : CivilDate) (amountScaled : NumberArg)
      (fromCurrency baseCurrency historicalDate : String) (currentDate : Option String)
deriving DecidableEq

inductive RateAnswer where
  | registered (result : Except CurrencyError Unit)
  | number (result : Except CurrencyError Int)
  | revaluation (result : Except CurrencyError CurrencyConverter.Revaluation)

def converterMachine (isAlpha : Char → Bool) : Machine CurrencyConverter RateCall RateAnswer where
  step s call :=
    match call with
    | .setRate today base quote rate effectiveDate source =>
        (s.setRate isAlpha today base quote rate effectiveDate source).map .registered id
    | .getRateScaled today fromCurrency toCurrency date =>
        (s.getRateScaled isAlpha today fromCurrency toCurrency date).map .number id
    | .convert today amount fromCurrency toCurrency date =>
        (s.convert isAlpha today amount fromCurrency toCurrency date).map .number id
    | .revalueAmount today amount fromCurrency baseCurrency historicalDate currentDate =>
        (s.revalueAmount isAlpha today amount fromCurrency baseCurrency historicalDate
          currentDate).map .revaluation id

/-- The history of a converter: each rate for a pair of currencies and a date. -/
abbrev RateLog := List (Dated Pair String Int)

/-- A write puts down the pair and then its inverse. -/
def RateWrite.dated (write : RateWrite) : RateLog :=
  [⟨(write.base, write.quote), write.date, write.scaledRate⟩,
    ⟨(write.quote, write.base), write.date, inverseRate write.scaledRate⟩]

/-- What a call adds to the history; only a successful `setRate` adds anything. -/
def RateCall.dated (isAlpha : Char → Bool) : RateCall → RateLog
  | .setRate today base quote rate effectiveDate source =>
      match CurrencyConverter.checkRate isAlpha today base quote rate effectiveDate source with
      | .ok write => write.dated
      | .error _ => []
  | _ => []

section Reference

variable (log : RateLog)

/-- The rate of a pair by its own history; there is no answer where none was written. -/
def referenceDirect (a b : CurrencyCode) (date : String) : Option (Except CurrencyError Int) :=
  if a = b then
    some (.ok rateScale)
  else
    (Dated.asOf log (a, b) date).map (checkStored a b)

def referenceLeg (a b : CurrencyCode) (date : String) : Except CurrencyError Int :=
  (referenceDirect log a b date).getD (.error (notFound a b date))

/-- The rate between two currencies by the history alone. -/
def referenceRate (a b : CurrencyCode) (date : String) : Except CurrencyError Int :=
  match referenceDirect log a b date with
  | some answer => answer
  | none =>
      if a ≠ usd ∧ b ≠ usd then do
        let rateFromUsd ← referenceLeg log a usd date
        let rateUsdTo ← referenceLeg log usd b date
        return applyRate rateFromUsd rateUsdTo
      else
        .error (notFound a b date)

end Reference

/-- The index and the table of exact dates say what the history says. -/
structure Stored (s : CurrencyConverter) (log : RateLog) : Prop where
  index : ∀ pair, Dated.Represents (s.indexed pair) log pair
  table : ∀ a b date, s.rates.get? (a, b, date) = Dated.recorded log (a, b) date

/-- The converter is right about the history, and its memo holds right answers only. -/
structure Coherent (s : CurrencyConverter) (log : RateLog) : Prop extends Stored s log where
  memo
    : ∀ a b date rate,
        s.rateCache.get? (a, b, date) = some rate
        → a ≠ b ∧ referenceRate log a b date = .ok rate

theorem new_coherent : Coherent .new [] where
  index := Dated.Represents.nil
  table _ _ _ := rfl
  memo _ _ _ _ found := by cases found

/-- Writing one direction keeps index and table right. -/
theorem store_stored {s : CurrencyConverter} {log : RateLog} (stored : Stored s log)
    (base quote : CurrencyCode) (date : String) (rate : Int)
    : Stored (s.store base quote date rate) (log ++ [⟨(base, quote), date, rate⟩]) := by
  constructor
  · intro pair
    by_cases same : (base, quote) = pair
    · subst same
      simpa [CurrencyConverter.store, CurrencyConverter.indexRate, CurrencyConverter.indexed,
        Dict.getD]
        using (stored.index (base, quote)).own ⟨(base, quote), date, rate⟩ rfl
    · have kept : (s.store base quote date rate).indexed pair = s.indexed pair :=
        Dict.getD_set_ne _ _ _ same
      rw [kept]
      exact (stored.index pair).other same
  · intro a b other
    rw [Dated.recorded_append, ← stored.table]
    simp [CurrencyConverter.store, CurrencyConverter.indexRate, Dict.get?_set, Prod.ext_iff,
      and_assoc]

/-- Registering writes both directions and leaves no memo that could be wrong. -/
theorem register_coherent {s : CurrencyConverter} {log : RateLog} (stored : Stored s log)
    (write : RateWrite)
    : Coherent (s.register write) (log ++ write.dated) := by
  have both :=
    store_stored (store_stored stored write.base write.quote write.date write.scaledRate)
      write.quote write.base write.date (inverseRate write.scaledRate)
  rw [List.append_assoc] at both
  exact ⟨⟨both.index, both.table⟩, fun _ _ _ _ found => by cases found⟩

/-- A query's answer is the reference's, and leaves the converter right. -/
structure Answers (log : RateLog) (a b : CurrencyCode) (date : String)
    (answer : Except CurrencyError Int × CurrencyConverter) : Prop where
  reference : answer.1 = referenceRate log a b date
  coherent : Coherent answer.2 log

section Queries

variable {s : CurrencyConverter} {log : RateLog} {a b : CurrencyCode} {date : String}

theorem referenceRate_of_direct {answer : Except CurrencyError Int}
    (direct : referenceDirect log a b date = some answer)
    : referenceRate log a b date = answer := by
  simp only [referenceRate, direct]

theorem referenceRate_of_leg (dollar : a = usd ∨ b = usd)
    : referenceRate log a b date = referenceLeg log a b date := by
  unfold referenceRate referenceLeg
  cases referenceDirect log a b date with
  | some answer => rfl
  | none => rcases dollar with rfl | rfl <;> simp

/-- Legs are positive: they were checked, or are the unit rate. -/
theorem referenceLeg_positive {rate : Int} (found : referenceLeg log a b date = .ok rate)
    : 0 < rate := by
  unfold referenceLeg referenceDirect at found
  split at found
  · cases found
    decide
  · cases stored : Dated.asOf log (a, b) date with
    | none =>
        rw [stored] at found
        cases found
    | some value =>
        simp only [stored, Option.map_some, Option.getD_some, checkStored] at found
        split at found
        · cases found
        · rename_i positive
          cases found
          exact not_le.mp positive

/-- A right answer may be memoised. -/
theorem memoise_answers (coherent : Coherent s log) (different : a ≠ b) {rate : Int}
    (right : referenceRate log a b date = .ok rate)
    : Answers log a b date (s.memoise (a, b, date) rate) := by
  refine ⟨right.symm, ⟨⟨coherent.index, coherent.table⟩, ?_⟩⟩
  intro a' b' date' rate' found
  simp only [CurrencyConverter.memoise, Dict.get?_set] at found
  split at found
  · rename_i same
    cases same
    cases found
    exact ⟨different, right⟩
  · exact coherent.memo a' b' date' rate' found

/-- The index answers what the history says. -/
theorem lookupIndexedRate_eq (stored : Stored s log)
    : s.lookupIndexedRate a b date
      = match Dated.asOf log (a, b) date with
        | none => .ok none
        | some rate => (checkStored a b rate).map some := by
  rw [← (stored.index (a, b)).entryAt date, CurrencyConverter.lookupIndexedRate]
  cases entryAt (s.indexed (a, b)) date <;> rfl

/-- A stored rate that is checked and then memoised is the reference's answer. -/
theorem checked_answers (coherent : Coherent s log) (different : a ≠ b) {stored : Int}
    (found : Dated.asOf log (a, b) date = some stored)
    : Answers log a b date
        (match checkStored a b stored with
        | .ok rate => s.memoise (a, b, date) rate
        | .error error => (.error error, s)) := by
  have right : referenceRate log a b date = checkStored a b stored := by
    apply referenceRate_of_direct
    simp only [referenceDirect, different, if_false, found, Option.map_some]
  cases checked : checkStored a b stored with
  | ok rate => exact memoise_answers coherent different (right.trans checked)
  | error error => exact ⟨(right.trans checked).symm, coherent⟩

/-- A query without a cross-rate answers the reference, or finds that nothing was written. -/
def DirectAnswers (log : RateLog) (a b : CurrencyCode) (date : String)
    : Option (Except CurrencyError Int × CurrencyConverter) → Prop
  | some answer => Answers log a b date answer
  | none => referenceDirect log a b date = none

/-- The memo, the exact date and the index are asked in this order; each is right. -/
theorem directRate_answers (coherent : Coherent s log) (a b : CurrencyCode) (date : String)
    : DirectAnswers log a b date (s.directRate a b date) := by
  by_cases same : a = b
  · simp only [CurrencyConverter.directRate, same, if_true]
    apply Answers.mk _ coherent
    exact (referenceRate_of_direct (by simp only [referenceDirect, if_true])).symm
  · simp only [CurrencyConverter.directRate, same, if_false]
    cases memo : s.rateCache.get? (a, b, date) with
    | some rate => exact ⟨(coherent.memo a b date rate memo).2.symm, coherent⟩
    | none =>
        cases dated : s.rates.get? (a, b, date) with
        | some stored =>
            have found := Dated.asOf_recorded ((coherent.table a b date).symm.trans dated)
            have answers := checked_answers coherent same found
            cases checked : checkStored a b stored <;>
              simpa only [checked, DirectAnswers] using answers
        | none =>
            simp only [lookupIndexedRate_eq coherent.toStored]
            cases found : Dated.asOf log (a, b) date with
            | none => simp [DirectAnswers, referenceDirect, same, found]
            | some stored =>
                have answers := checked_answers coherent same found
                cases checked : checkStored a b stored <;>
                  simpa only [checked, Except.map, DirectAnswers] using answers

theorem legRate_answers (coherent : Coherent s log) (a b : CurrencyCode)
    (dollar : a = usd ∨ b = usd) (date : String)
    : Answers log a b date (s.legRate a b date) := by
  have direct := directRate_answers coherent a b date
  unfold CurrencyConverter.legRate
  cases found : s.directRate a b date with
  | some answer =>
      rw [found] at direct
      exact direct
  | none =>
      rw [found] at direct
      refine ⟨?_, coherent⟩
      rw [referenceRate_of_leg dollar, referenceLeg, direct]
      rfl

/-- The cross-rate answers the reference when nothing was written for the pair itself. -/
theorem crossRate_answers (coherent : Coherent s log) (different : a ≠ b)
    (missing : referenceDirect log a b date = none) (foreign : a ≠ usd ∧ b ≠ usd)
    : Answers log a b date (s.crossRate a b date) := by
  have reference
      : referenceRate log a b date
        = (do
          let rateFromUsd ← referenceLeg log a usd date
          let rateUsdTo ← referenceLeg log usd b date
          return applyRate rateFromUsd rateUsdTo) := by
    simp only [referenceRate, missing, foreign, ne_eq, not_false_iff, and_self, if_true]
  obtain ⟨first, firstCoherent⟩ :=
    legRate_answers coherent a usd (Or.inr rfl) date
  rw [referenceRate_of_leg (Or.inr rfl)] at first
  unfold CurrencyConverter.crossRate
  rcases leg : s.legRate a usd date with ⟨result, s'⟩
  simp only [leg] at first firstCoherent
  cases result with
  | error error =>
      -- The first leg raises, and so does the reference
      refine ⟨?_, firstCoherent⟩
      rw [reference, ← first]
      rfl
  | ok rateFromUsd =>
      obtain ⟨second, secondCoherent⟩ :=
        legRate_answers firstCoherent usd b (Or.inl rfl) date
      rw [referenceRate_of_leg (Or.inl rfl)] at second
      rcases leg' : s'.legRate usd b date with ⟨result', s''⟩
      simp only [leg'] at second secondCoherent ⊢
      cases result' with
      | error error =>
          refine ⟨?_, secondCoherent⟩
          rw [reference, ← first, ← second]
          rfl
      | ok rateUsdTo =>
          -- Stored rates are positive, so that the check of the two legs never fires
          have positive := referenceLeg_positive first.symm
          have positive' := referenceLeg_positive second.symm
          have passes : ¬ (rateFromUsd ≤ 0 ∨ rateUsdTo ≤ 0) := by omega
          simp only [passes, if_false]
          apply memoise_answers secondCoherent different
          rw [reference, ← first, ← second]
          rfl

theorem rateBetween_answers (coherent : Coherent s log) (a b : CurrencyCode) (date : String)
    : Answers log a b date (s.rateBetween a b date) := by
  have direct := directRate_answers coherent a b date
  unfold CurrencyConverter.rateBetween
  cases found : s.directRate a b date with
  | some answer =>
      rw [found] at direct
      exact direct
  | none =>
      rw [found] at direct
      simp only [DirectAnswers] at direct
      have different : a ≠ b := by
        rintro rfl
        simp [referenceDirect] at direct
      by_cases foreign : a ≠ usd ∧ b ≠ usd
      · simp only [foreign, ne_eq, not_false_iff, and_self, if_true]
        exact crossRate_answers coherent different direct foreign
      · simp only [foreign, if_false]
        refine ⟨?_, coherent⟩
        simp only [referenceRate, direct, foreign, if_false]

end Queries

/-- The reference's answer to a query as it was asked. -/
def referenceQuery (isAlpha : Char → Bool) (log : RateLog) (today : CivilDate)
    (fromCurrency toCurrency : String) (date : Option String) : Except CurrencyError Int := do
  let (a, b) ← CurrencyConverter.checkPair isAlpha fromCurrency toCurrency
  referenceRate log a b (dateOr date today)

section Calls

variable {isAlpha : Char → Bool} {s : CurrencyConverter} {log : RateLog}

/-- A failed `setRate` changes nothing and adds nothing to the history. -/
theorem setRate_coherent (coherent : Coherent s log) (today : CivilDate)
    (baseCurrency quoteCurrency : String) (rate : RateArg) (effectiveDate : Option String)
    (source : String)
    : Coherent
        (s.setRate isAlpha today baseCurrency quoteCurrency rate effectiveDate source).2
        (log
          ++ (RateCall.setRate today baseCurrency quoteCurrency rate effectiveDate source).dated
            isAlpha) := by
  simp only [CurrencyConverter.setRate, RateCall.dated]
  cases CurrencyConverter.checkRate isAlpha today baseCurrency quoteCurrency rate effectiveDate
    source with
  | error error => simpa only [attempt, List.append_nil] using coherent
  | ok write => exact register_coherent coherent.toStored write

theorem getRateScaled_coherent (coherent : Coherent s log) (today : CivilDate)
    (fromCurrency toCurrency : String) (date : Option String)
    : (s.getRateScaled isAlpha today fromCurrency toCurrency date).1
        = referenceQuery isAlpha log today fromCurrency toCurrency date
      ∧ Coherent (s.getRateScaled isAlpha today fromCurrency toCurrency date).2 log := by
  unfold CurrencyConverter.getRateScaled referenceQuery
  cases CurrencyConverter.checkPair isAlpha fromCurrency toCurrency with
  | error error => exact ⟨rfl, coherent⟩
  | ok pair =>
      have answers :=
        rateBetween_answers coherent pair.1 pair.2 (dateOr date today)
      exact ⟨answers.reference, answers.coherent⟩

theorem convert_coherent (isAlpha : Char → Bool) (coherent : Coherent s log) (today : CivilDate)
    (amount : NumberArg) (fromCurrency toCurrency : String) (date : Option String)
    : Coherent (s.convert isAlpha today amount fromCurrency toCurrency date).2 log := by
  unfold CurrencyConverter.convert
  split
  · exact coherent
  · rename_i a b _
    have answers := rateBetween_answers coherent a b (dateOr date today)
    split
    · exact coherent
    · rcases found : s.rateBetween a b (dateOr date today) with ⟨result, s'⟩
      rw [found] at answers
      cases result with
      | error error => exact answers.coherent
      | ok rate =>
          simp only
          split <;> exact answers.coherent

theorem revalueAmount_coherent (coherent : Coherent s log) (today : CivilDate)
    (amount : NumberArg) (fromCurrency baseCurrency historicalDate : String)
    (currentDate : Option String)
    : Coherent
        (s.revalueAmount isAlpha today amount fromCurrency baseCurrency historicalDate
          currentDate).2
        log := by
  unfold CurrencyConverter.revalueAmount
  split
  · exact coherent
  · have first :=
      convert_coherent isAlpha coherent today amount fromCurrency baseCurrency
        historicalDate
    rcases found
      : s.convert isAlpha today amount fromCurrency baseCurrency historicalDate
      with ⟨result, s'⟩
    rw [found] at first
    cases result with
    | error error => exact first
    | ok historical =>
        have second :=
          convert_coherent isAlpha first today amount fromCurrency baseCurrency
            (dateOr currentDate today)
        rcases found'
          : s'.convert isAlpha today amount fromCurrency baseCurrency
              (some (dateOr currentDate today))
          with ⟨result', s''⟩
        rw [found'] at second
        simp only [found']
        cases result' <;> exact second

/-- Every call keeps the converter right about the history that the call extends. -/
theorem step_coherent (coherent : Coherent s log) (call : RateCall)
    : Coherent ((converterMachine isAlpha).step s call).2 (log ++ call.dated isAlpha) := by
  cases call with
  | setRate today base quote rate effectiveDate source =>
      simp only [converterMachine, Prod.map_snd, id_eq]
      exact setRate_coherent coherent today base quote rate effectiveDate source
  | getRateScaled today fromCurrency toCurrency date =>
      simp only [converterMachine, Prod.map_snd, id_eq, RateCall.dated, List.append_nil]
      exact (getRateScaled_coherent coherent today fromCurrency toCurrency date).2
  | convert today amount fromCurrency toCurrency date =>
      simp only [converterMachine, Prod.map_snd, id_eq, RateCall.dated, List.append_nil]
      exact convert_coherent isAlpha coherent today amount fromCurrency toCurrency date
  | revalueAmount today amount fromCurrency baseCurrency historicalDate currentDate =>
      simp only [converterMachine, Prod.map_snd, id_eq, RateCall.dated, List.append_nil]
      exact
        revalueAmount_coherent coherent today amount fromCurrency baseCurrency historicalDate
          currentDate

/-- The converter stays right along a run, by induction over the calls. -/
theorem exec_coherent (isAlpha : Char → Bool) (coherent : Coherent s log) (calls : List RateCall)
    : Coherent ((converterMachine isAlpha).exec s calls)
        (log ++ calls.flatMap (RateCall.dated isAlpha)) := by
  induction calls generalizing s log with
  | nil => simpa only [List.flatMap_nil, List.append_nil, Machine.exec] using coherent
  | cons call rest ih =>
      simpa only [List.flatMap_cons, List.append_assoc, Machine.exec]
        using ih (step_coherent coherent call)

end Calls

/-- After every run the index is sorted by date without a date listed twice and agrees with
the table of exact dates, and every query answers what the history of the run says.
-/
theorem queries_answer_reference (isAlpha : Char → Bool) (calls : List RateCall)
    : let s := (converterMachine isAlpha).exec .new calls
      let log := calls.flatMap (RateCall.dated isAlpha)
      (∀ pair,
        (s.indexed pair).Pairwise (fun a b => a.1 < b.1)
        ∧ ∀ date, Dict.find date (s.indexed pair) = s.rates.get? (pair.1, pair.2, date))
      ∧ ∀ today fromCurrency toCurrency date,
          (s.getRateScaled isAlpha today fromCurrency toCurrency date).1
          = referenceQuery isAlpha log today fromCurrency toCurrency date := by
  intro s log
  have coherent : Coherent s log := by
    simpa only [List.nil_append] using exec_coherent isAlpha new_coherent calls
  constructor
  · intro pair
    refine ⟨(coherent.index pair).sorted, fun date => ?_⟩
    rw [(coherent.index pair).agrees, coherent.table]
  · intro today fromCurrency toCurrency date
    exact (getRateScaled_coherent coherent today fromCurrency toCurrency date).1

end PettyFlow.Currency
