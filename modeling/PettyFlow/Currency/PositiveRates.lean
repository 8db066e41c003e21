import PettyFlow.Currency.RoundTrip

/-! Rates that stay positive through scaling, inversion and cross-rates, and those that are
rounded to zero.
-/

namespace PettyFlow.Currency

open Foundation

/-- What a call has written; only a successful `setRate` writes. -/
def RateCall.writes (isAlpha : Char → Bool) : RateCall → List RateWrite
  | .setRate today base quote rate effectiveDate source =>
      (CurrencyConverter.checkRate isAlpha today base quote rate effectiveDate
        source).toOption.toList
  | _ => []

section Properties

variable (isAlpha : Char → Bool) (s : CurrencyConverter)

/-- Two texts of codes have a rate on a date, and every amount can be converted at it. -/
def Converts (fromCurrency toCurrency date : String) : Prop :=
  ∀ today,
    (∃ rate, (s.getRateScaled isAlpha today fromCurrency toCurrency (some date)).1 = .ok rate)
    ∧ ∀ amount,
        0 ≤ amount
        → ∃ converted,
            (s.convert isAlpha today (.int amount) fromCurrency toCurrency (some date)).1
            = .ok converted

/-- All stored rates are positive, queries for codes answer with a positive rate or the conversion
error, and what has been written for a pair and a date can be used in both directions.
-/
structure RatesPositive (writes : List RateWrite) : Prop where
  stored : ∀ key rate, s.rates.get? key = some rate → 0 < rate
  indexed : ∀ pair date rate, (date, rate) ∈ s.indexed pair → 0 < rate
  queried
    : ∀ today fromCurrency toCurrency date a b,
        (∀ field, normalizeCurrencyCode isAlpha fromCurrency field = .ok a)
        → (∀ field, normalizeCurrencyCode isAlpha toCurrency field = .ok b)
        → (∃ rate,
            (s.getRateScaled isAlpha today fromCurrency toCurrency date).1 = .ok rate ∧ 0 < rate)
          ∨ ∃ message,
            (s.getRateScaled isAlpha today fromCurrency toCurrency date).1
            = .error (.currencyConversion message)
  registered
    : ∀ write ∈ writes,
        write.base ≠ write.quote
        → ∀ baseCurrency quoteCurrency,
            (∀ field, normalizeCurrencyCode isAlpha baseCurrency field = .ok write.base)
            → (∀ field, normalizeCurrencyCode isAlpha quoteCurrency field = .ok write.quote)
            → Converts isAlpha s baseCurrency quoteCurrency write.date
              ∧ Converts isAlpha s quoteCurrency baseCurrency write.date

end Properties

/-- Two currencies without a rate for the pair, whose rates in force to and from the dollar have
a product below one half of the smallest rate.
-/
def CrossVanishes (log : RateLog) (a b : CurrencyCode) (date : String) : Prop :=
  a ≠ usd
  ∧ b ≠ usd
  ∧ referenceDirect log a b date = none
  ∧ ∃ rateFromUsd rateUsdTo,
      Dated.asOf log (a, usd) date = some rateFromUsd
      ∧ Dated.asOf log (usd, b) date = some rateUsdTo
      ∧ 2 * (rateFromUsd * rateUsdTo) < rateScale

/-- An inverse is rounded to zero for the rates above two million. -/
theorem inverseRate_positive_iff {scaledRate : Int} (positive : 0 < scaledRate)
    : 0 < inverseRate scaledRate ↔ scaledRate ≤ 2 * (rateScale * rateScale) := by
  have least : 1 ≤ inverseRate scaledRate
      ↔ 1 * scaledRate ≤ rateScale * rateScale + scaledRate / 2 :=
    Int.le_ediv_iff_mul_le positive
  rw [← Int.add_one_le_iff, zero_add, least]
  omega

theorem applyRate_positive_iff (value rate : Int)
    : 0 < applyRate value rate ↔ rateScale ≤ 2 * (value * rate) := by
  have least : 1 ≤ applyRate value rate ↔ 1 * rateScale ≤ value * rate + rateScale / 2 :=
    Int.le_ediv_iff_mul_le (by decide)
  rw [← Int.add_one_le_iff, zero_add, least]
  unfold rateScale
  omega

section Log

variable {isAlpha : Char → Bool} {calls : List RateCall}

theorem dated_eq_writes (call : RateCall)
    : call.dated isAlpha = (call.writes isAlpha).flatMap RateWrite.dated := by
  cases call with
  | setRate today base quote rate effectiveDate source =>
      simp only [RateCall.dated, RateCall.writes]
      cases CurrencyConverter.checkRate isAlpha today base quote rate effectiveDate source <;>
        simp [Except.toOption]
  | getRateScaled today fromCurrency toCurrency date => rfl
  | convert today amount fromCurrency toCurrency date => rfl
  | revalueAmount today amount fromCurrency baseCurrency historicalDate currentDate => rfl

/-- What is written was accepted, for two texts. -/
theorem writes_accepted {call : RateCall} {write : RateWrite}
    (written : write ∈ call.writes isAlpha)
    : (∃ baseCurrency quoteCurrency, Accepted isAlpha baseCurrency quoteCurrency write)
      ∧ call.writes isAlpha = [write] := by
  cases call with
  | setRate today base quote rate effectiveDate source =>
      simp only [RateCall.writes] at written ⊢
      cases passed
        : CurrencyConverter.checkRate isAlpha today base quote rate effectiveDate source with
      | error error =>
          rw [passed] at written
          cases written
      | ok other =>
          rw [passed] at written
          obtain rfl := List.mem_singleton.mp written
          exact ⟨⟨base, quote, checkRate_accepted passed⟩, rfl⟩
  | getRateScaled today fromCurrency toCurrency date => cases written
  | convert today amount fromCurrency toCurrency date => cases written
  | revalueAmount today amount fromCurrency baseCurrency historicalDate currentDate =>
      cases written

theorem written_mono {done : List RateCall} (isPrefix : done <+: calls) {write : RateWrite}
    (written : write ∈ done.flatMap (RateCall.writes isAlpha))
    : write ∈ calls.flatMap (RateCall.writes isAlpha) := by
  obtain ⟨call, member, accepted⟩ := List.mem_flatMap.mp written
  exact List.mem_flatMap.mpr ⟨call, isPrefix.subset member, accepted⟩

/-- An entry of the history of some calls belongs to one of their writes. -/
theorem mem_dated {entry : Dated Pair String Int}
    (listed : entry ∈ calls.flatMap (RateCall.dated isAlpha))
    : ∃ write ∈ calls.flatMap (RateCall.writes isAlpha), entry ∈ write.dated := by
  obtain ⟨call, member, written⟩ := List.mem_flatMap.mp listed
  rw [dated_eq_writes] at written
  obtain ⟨write, accepted, own⟩ := List.mem_flatMap.mp written
  exact ⟨write, List.mem_flatMap.mpr ⟨call, member, accepted⟩, own⟩

theorem dated_mem {write : RateWrite} {entry : Dated Pair String Int}
    (written : write ∈ calls.flatMap (RateCall.writes isAlpha)) (own : entry ∈ write.dated)
    : entry ∈ calls.flatMap (RateCall.dated isAlpha) := by
  obtain ⟨call, member, accepted⟩ := List.mem_flatMap.mp written
  refine List.mem_flatMap.mpr ⟨call, member, ?_⟩
  rw [dated_eq_writes]
  exact List.mem_flatMap.mpr ⟨write, accepted, own⟩

/-- Both codes of an entry have been given as texts. -/
theorem entry_texts {entry : Dated Pair String Int}
    (listed : entry ∈ calls.flatMap (RateCall.dated isAlpha))
    : (∃ text, ∀ field, normalizeCurrencyCode isAlpha text field = .ok entry.key.1)
      ∧ ∃ text, ∀ field, normalizeCurrencyCode isAlpha text field = .ok entry.key.2 := by
  obtain ⟨write, written, own⟩ := mem_dated listed
  obtain ⟨call, _, accepted⟩ := List.mem_flatMap.mp written
  obtain ⟨⟨base, quote, valid⟩, _⟩ := writes_accepted accepted
  rcases List.mem_cons.mp own with rfl | inverse
  · exact ⟨⟨base, valid.base⟩, ⟨quote, valid.quote⟩⟩
  · obtain rfl := List.mem_singleton.mp inverse
    exact ⟨⟨quote, valid.quote⟩, ⟨base, valid.base⟩⟩

/-- Writes of rates that are not too great leave positive rates only. -/
theorem entries_positive
    (bounded
      : ∀ write ∈ calls.flatMap (RateCall.writes isAlpha),
          write.scaledRate ≤ 2 * (rateScale * rateScale))
    {entry : Dated Pair String Int} (listed : entry ∈ calls.flatMap (RateCall.dated isAlpha))
    : 0 < entry.value := by
  obtain ⟨write, written, own⟩ := mem_dated listed
  obtain ⟨call, _, accepted⟩ := List.mem_flatMap.mp written
  obtain ⟨⟨_, _, valid⟩, _⟩ := writes_accepted accepted
  rcases List.mem_cons.mp own with rfl | inverse
  · exact valid.positive
  · obtain rfl := List.mem_singleton.mp inverse
    exact (inverseRate_positive_iff valid.positive).mpr (bounded write written)

end Log

section Queries

variable {isAlpha : Char → Bool} {s : CurrencyConverter} {log : RateLog}
  {fromCurrency toCurrency : String} {a b : CurrencyCode}

variable (positive : ∀ entry ∈ log, 0 < entry.value)

include positive in
/-- A positive history has no invalid rates, so that a rate in force is answered. -/
theorem referenceDirect_positive {date : String} {answer : Except CurrencyError Int}
    (found : referenceDirect log a b date = some answer)
    : ∃ rate, answer = .ok rate ∧ 0 < rate := by
  unfold referenceDirect at found
  split at found
  · cases found
    exact ⟨rateScale, rfl, by decide⟩
  · obtain ⟨rate, inForce, rfl⟩ := Option.map_eq_some_iff.mp found
    obtain ⟨written, listed⟩ := Dated.asOf_mem inForce
    have above : 0 < rate := positive _ listed
    exact ⟨rate, if_neg (not_le.mpr above), above⟩

include positive in
theorem referenceLeg_inForce {date : String} (different : a ≠ b) {rate : Int}
    (inForce : Dated.asOf log (a, b) date = some rate)
    : referenceLeg log a b date = .ok rate ∧ 0 < rate := by
  obtain ⟨written, listed⟩ := Dated.asOf_mem inForce
  have above : 0 < rate := positive _ listed
  refine ⟨?_, above⟩
  simp [referenceLeg, referenceDirect, different, inForce, checkStored, not_le.mpr above]

theorem referenceLeg_missing {date : String} (different : a ≠ b)
    (missing : Dated.asOf log (a, b) date = none)
    : referenceLeg log a b date = .error (notFound a b date) := by
  simp [referenceLeg, referenceDirect, different, missing]

/-- The legs of a cross-rate. -/
theorem referenceRate_legs {date : String} (foreign : a ≠ usd ∧ b ≠ usd)
    (missing : referenceDirect log a b date = none)
    : referenceRate log a b date
      = (do
        let rateFromUsd ← referenceLeg log a usd date
        let rateUsdTo ← referenceLeg log usd b date
        return applyRate rateFromUsd rateUsdTo) := by
  simp only [referenceRate, missing, foreign, ne_eq, not_false_iff, and_self, if_true]

include positive in
/-- A cross-rate is the rounded product of the rates in force. -/
theorem referenceRate_cross {date : String} (foreign : a ≠ usd ∧ b ≠ usd)
    (missing : referenceDirect log a b date = none) {rateFromUsd rateUsdTo : Int}
    (first : Dated.asOf log (a, usd) date = some rateFromUsd)
    (second : Dated.asOf log (usd, b) date = some rateUsdTo)
    : referenceRate log a b date = .ok (applyRate rateFromUsd rateUsdTo) := by
  rw [referenceRate_legs foreign missing, (referenceLeg_inForce positive foreign.1 first).1,
    (referenceLeg_inForce positive (Ne.symm foreign.2) second).1]
  rfl

include positive in
/-- A positive history answers every pair whose cross-rate does not vanish. -/
theorem referenceRate_answer {date : String} (kept : ¬ CrossVanishes log a b date)
    : (∃ rate, referenceRate log a b date = .ok rate ∧ 0 < rate)
      ∨ ∃ message, referenceRate log a b date = .error (.currencyConversion message) := by
  cases found : referenceDirect log a b date with
  | some answer =>
      obtain ⟨rate, rfl, above⟩ := referenceDirect_positive positive found
      exact .inl ⟨rate, referenceRate_of_direct found, above⟩
  | none =>
      by_cases foreign : a ≠ usd ∧ b ≠ usd
      · -- Neither currency is the base of all rates, so the answer is a cross-rate over it
        have legs := referenceRate_legs foreign found
        cases first : Dated.asOf log (a, usd) date with
        | none =>
            rw [referenceLeg_missing foreign.1 first] at legs
            exact .inr ⟨_, legs⟩
        | some rateFromUsd =>
            rw [(referenceLeg_inForce positive foreign.1 first).1] at legs
            cases second : Dated.asOf log (usd, b) date with
            | none =>
                rw [referenceLeg_missing (Ne.symm foreign.2) second] at legs
                exact .inr ⟨_, legs⟩
            | some rateUsdTo =>
                have crossed := referenceRate_cross positive foreign found first second
                refine .inl ⟨_, crossed, (applyRate_positive_iff _ _).mpr ?_⟩
                -- The product of two positive rates vanishes only by the rounding that is excluded
                by_contra small
                exact kept ⟨foreign.1, foreign.2, found, _, _, first, second, not_le.mp small⟩
      · have missing : referenceRate log a b date = .error (notFound a b date) := by
          simp only [referenceRate, found, foreign, if_false]
        exact .inr ⟨_, missing⟩

include positive in
/-- A rate recorded for exactly its date can be asked for and used. -/
theorem converts_recorded (coherent : Coherent s log)
    (fromValid : ∀ field, normalizeCurrencyCode isAlpha fromCurrency field = .ok a)
    (toValid : ∀ field, normalizeCurrencyCode isAlpha toCurrency field = .ok b)
    (different : a ≠ b) {date : String} (dated : date ≠ "")
    (listed : date ∈ Dated.times log (a, b))
    : Converts isAlpha s fromCurrency toCurrency date := by
  obtain ⟨rate, recorded⟩ := Dated.mem_times.mp listed
  have above : 0 < rate := positive _ (Dated.recorded_mem recorded)
  intro today
  constructor
  · refine ⟨rate, ?_⟩
    rw [getRateScaled_codes coherent fromValid toValid]
    apply referenceRate_of_direct
    simp [referenceDirect, different, dateOr, dated, Dated.asOf_recorded recorded, checkStored,
      not_le.mpr above]
  · intro amount nonneg
    have answer :=
      convert_recorded coherent fromValid toValid different dated recorded today nonneg
    rw [if_neg (not_le.mpr above)] at answer
    exact ⟨_, answer⟩

end Queries

/-- What the writes and the rates in force must be like for all rates to be positive. -/
theorem ratesPositive_of_bounded {isAlpha : Char → Bool} {calls : List RateCall}
    (bounded
      : ∀ write ∈ calls.flatMap (RateCall.writes isAlpha),
          write.scaledRate ≤ 2 * (rateScale * rateScale))
    (kept
      : ∀ today date a b,
          ¬ CrossVanishes (calls.flatMap (RateCall.dated isAlpha)) a b (dateOr date today))
    : RatesPositive isAlpha ((converterMachine isAlpha).exec .new calls)
        (calls.flatMap (RateCall.writes isAlpha)) := by
  have coherent := exec_coherent isAlpha new_coherent calls
  rw [List.nil_append] at coherent
  have positive
      : ∀ entry ∈ calls.flatMap (RateCall.dated isAlpha), 0 < entry.value :=
    fun entry listed => entries_positive bounded listed
  constructor
  · rintro ⟨a, b, date⟩ rate found
    -- What the table holds was recorded, directly or as an inverse
    rw [coherent.table] at found
    exact positive _ (Dated.recorded_mem found)
  · intro pair date rate listed
    exact positive _ (Dated.recorded_mem ((coherent.index pair).recorded_of_mem listed))
  · intro today fromCurrency toCurrency date a b fromValid toValid
    rw [getRateScaled_codes coherent fromValid toValid]
    exact referenceRate_answer positive (kept today date a b)
  · intro write written different base quote baseValid quoteValid
    obtain ⟨call, _, accepted⟩ := List.mem_flatMap.mp written
    obtain ⟨⟨_, _, valid⟩, _⟩ := writes_accepted accepted
    have direct : write.date ∈ Dated.times (calls.flatMap (RateCall.dated isAlpha))
        (write.base, write.quote) :=
      Dated.mem_times.mpr (Dated.recorded_of_mem (dated_mem written List.mem_cons_self))
    have inverse : write.date ∈ Dated.times (calls.flatMap (RateCall.dated isAlpha))
        (write.quote, write.base) :=
      Dated.mem_times.mpr (Dated.recorded_of_mem
        (dated_mem written (List.mem_cons_of_mem _ (List.mem_singleton.mpr rfl))))
    exact ⟨converts_recorded positive coherent baseValid quoteValid different valid.dated direct,
      converts_recorded positive coherent quoteValid baseValid (Ne.symm different) valid.dated
        inverse⟩

/-- A write whose inverse is stored as a positive rate was not too great. -/
theorem bounded_of_stored {isAlpha : Char → Bool} {earlier : List RateCall} {call : RateCall}
    {write : RateWrite} (written : write ∈ call.writes isAlpha)
    (stored
      : ∀ key rate,
          ((converterMachine isAlpha).exec .new (earlier ++ [call])).rates.get? key = some rate
          → 0 < rate)
    : write.scaledRate ≤ 2 * (rateScale * rateScale) := by
  obtain ⟨⟨_, _, valid⟩, only⟩ := writes_accepted written
  have coherent := exec_coherent isAlpha new_coherent (earlier ++ [call])
  have last
      : call.dated isAlpha
        = [⟨(write.base, write.quote), write.date, write.scaledRate⟩]
          ++ [⟨(write.quote, write.base), write.date, inverseRate write.scaledRate⟩] := by
    rw [dated_eq_writes, only]
    rfl
  rw [List.nil_append, List.flatMap_append, List.flatMap_singleton, last, ← List.append_assoc]
    at coherent
  apply (inverseRate_positive_iff valid.positive).mp
  apply stored (write.quote, write.base, write.date)
  rw [coherent.table, Dated.recorded_append, if_pos ⟨rfl, rfl⟩]

/-- A cross-rate between codes that can be asked for does not vanish where every answer is
positive.
-/
theorem cross_of_queried {isAlpha : Char → Bool} {calls : List RateCall}
    (bounded
      : ∀ write ∈ calls.flatMap (RateCall.writes isAlpha),
          write.scaledRate ≤ 2 * (rateScale * rateScale))
    (positive
      : RatesPositive isAlpha ((converterMachine isAlpha).exec .new calls)
          (calls.flatMap (RateCall.writes isAlpha)))
    (today : CivilDate) (date : Option String) (a b : CurrencyCode)
    : ¬ CrossVanishes (calls.flatMap (RateCall.dated isAlpha)) a b (dateOr date today) := by
  rintro ⟨aForeign, bForeign, missing, rateFromUsd, rateUsdTo, first, second, small⟩
  have coherent := exec_coherent isAlpha new_coherent calls
  rw [List.nil_append] at coherent
  obtain ⟨_, fromListed⟩ := Dated.asOf_mem first
  obtain ⟨_, toListed⟩ := Dated.asOf_mem second
  obtain ⟨fromCurrency, fromValid⟩ := (entry_texts fromListed).1
  obtain ⟨toCurrency, toValid⟩ := (entry_texts toListed).2
  have asked := positive.queried today fromCurrency toCurrency date a b fromValid toValid
  rw [getRateScaled_codes coherent fromValid toValid] at asked
  have listedPositive
      : ∀ entry ∈ calls.flatMap (RateCall.dated isAlpha), 0 < entry.value :=
    fun entry listed => entries_positive bounded listed
  rw [referenceRate_cross listedPositive ⟨aForeign, bForeign⟩ missing first second] at asked
  rcases asked with ⟨rate, answered, above⟩ | ⟨message, failed⟩
  · obtain rfl := Except.ok.inj answered
    exact absurd ((applyRate_positive_iff _ _).mp above) (not_le.mpr small)
  · cases failed

/-- In every run, at every point of it, stored rates and answers are positive and written rates
can be used in both directions, exactly when no rate above two million is written and no
cross-rate in force is below one half of the smallest rate.
-/
theorem rates_positive_iff (isAlpha : Char → Bool) (calls : List RateCall)
    : (∀ done,
        done <+: calls
        → RatesPositive isAlpha ((converterMachine isAlpha).exec .new done)
            (done.flatMap (RateCall.writes isAlpha)))
      ↔ (∀ write ∈ calls.flatMap (RateCall.writes isAlpha),
            write.scaledRate ≤ 2 * (rateScale * rateScale))
        ∧ ∀ done,
            done <+: calls
            → ∀ today date a b,
                ¬ CrossVanishes (done.flatMap (RateCall.dated isAlpha)) a b
                    (dateOr date today) := by
  constructor
  · intro positive
    have bounded
        : ∀ write ∈ calls.flatMap (RateCall.writes isAlpha),
            write.scaledRate ≤ 2 * (rateScale * rateScale) := by
      intro write written
      obtain ⟨call, member, accepted⟩ := List.mem_flatMap.mp written
      obtain ⟨earlier, later, rfl⟩ := List.append_of_mem member
      have isPrefix : earlier ++ [call] <+: earlier ++ call :: later := ⟨later, by simp⟩
      exact bounded_of_stored accepted (positive _ isPrefix).stored
    refine ⟨bounded, fun done isPrefix => ?_⟩
    exact cross_of_queried (fun write written => bounded write (written_mono isPrefix written))
      (positive done isPrefix)
  · rintro ⟨bounded, kept⟩ done isPrefix
    exact ratesPositive_of_bounded
      (fun write written => bounded write (written_mono isPrefix written)) (kept done isPrefix)

section Sample

/-- An ounce of gold costs 1,100,000,000 rials. -/
def goldCalls : List RateCall :=
  [.setRate ⟨2026, 1, 5⟩ "XAU" "IRR" (.number true 1100000000000000) (some "2026-01-05") "ECB"]

/-- The inverse rate is stored as zero, so that rials cannot be converted to gold. -/
theorem gold_inverse_zero
    : ((converterMachine isAsciiAlpha).exec .new goldCalls).rates.get?
          (⟨"IRR", rfl⟩, ⟨"XAU", rfl⟩, "2026-01-05")
        = some 0
      ∧ (((converterMachine isAsciiAlpha).exec .new goldCalls).convert isAsciiAlpha ⟨2026, 1, 5⟩
          (.int 10000) "IRR" "XAU" (some "2026-01-05")).1
        = .error (invalidStored ⟨"IRR", rfl⟩ ⟨"XAU", rfl⟩)
      ∧ ¬ RatesPositive isAsciiAlpha ((converterMachine isAsciiAlpha).exec .new goldCalls)
          (goldCalls.flatMap (RateCall.writes isAsciiAlpha)) := by
  have zero
      : ((converterMachine isAsciiAlpha).exec .new goldCalls).rates.get?
          (⟨"IRR", rfl⟩, ⟨"XAU", rfl⟩, "2026-01-05")
        = some 0 := by
    decide +kernel
  refine ⟨zero, by decide +kernel, fun positive => ?_⟩
  exact absurd (positive.stored _ _ zero) (lt_irrefl 0)

end Sample

end PettyFlow.Currency
