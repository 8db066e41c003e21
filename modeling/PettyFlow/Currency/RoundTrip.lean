import PettyFlow.Currency.RateHistory
import PettyFlow.Foundation.HalfUp

/-! What a conversion there and back can gain, from the rounding of both conversions and of
the inverse rate.
-/

namespace PettyFlow.Currency

open Foundation

/-- Convert an amount and then the result back. -/
def CurrencyConverter.roundTrip (isAlpha : Char → Bool) (s : CurrencyConverter)
    (today : CivilDate) (amount : Int) (fromCurrency toCurrency : String)
    (date : Option String) : Except CurrencyError Int :=
  match s.convert isAlpha today (.int amount) fromCurrency toCurrency date with
  | (.error error, _) => .error error
  | (.ok there, s) => (s.convert isAlpha today (.int there) toCurrency fromCurrency date).1

/-- The units of the first currency that one unit of the second is worth, rounded up. -/
def unitWorth (scaledRate : Int) : Int := (rateScale + scaledRate - 1) / scaledRate

/-- No round trip on a date gains more than the rounding of one unit in each currency. -/
def RoundTripBounded (isAlpha : Char → Bool) (s : CurrencyConverter)
    (fromCurrency toCurrency date : String) (scaledRate : Int) : Prop :=
  ∀ today amount back,
    0 ≤ amount
    → s.roundTrip isAlpha today amount fromCurrency toCurrency (some date) = .ok back
    → back ≤ amount + 1 + unitWorth scaledRate

/-- The check of a code does not depend on the name of its field. -/
theorem normalizeCurrencyCode_field {isAlpha : Char → Bool} {currency field : String}
    {code : CurrencyCode} (valid : normalizeCurrencyCode isAlpha currency field = .ok code)
    (other : String)
    : normalizeCurrencyCode isAlpha currency other = .ok code := by
  simp only [normalizeCurrencyCode] at valid ⊢
  split at valid
  · rename_i letters
    rw [dif_pos letters]
    exact valid
  · cases valid

/-- What the checks of `setRate` establish. -/
structure Accepted (isAlpha : Char → Bool) (baseCurrency quoteCurrency : String)
    (write : RateWrite) : Prop where
  base : ∀ field, normalizeCurrencyCode isAlpha baseCurrency field = .ok write.base
  quote : ∀ field, normalizeCurrencyCode isAlpha quoteCurrency field = .ok write.quote
  dated : write.date ≠ ""
  positive : 0 < write.scaledRate

theorem checkRate_accepted {isAlpha : Char → Bool} {today : CivilDate}
    {baseCurrency quoteCurrency : String} {rate : RateArg} {effectiveDate : Option String}
    {source : String} {write : RateWrite}
    (passed
      : CurrencyConverter.checkRate isAlpha today baseCurrency quoteCurrency rate effectiveDate
          source
        = .ok write)
    : Accepted isAlpha baseCurrency quoteCurrency write := by
  obtain ⟨base, baseValid, passed⟩ := bind_ok passed
  obtain ⟨quote, quoteValid, passed⟩ := bind_ok passed
  obtain ⟨scaledRate, _, passed⟩ := bind_ok passed
  obtain ⟨_, _, passed⟩ := bind_ok passed
  obtain ⟨_, tenCharacters, passed⟩ := bind_ok passed
  obtain ⟨_, positive, passed⟩ := bind_ok passed
  obtain rfl := Except.ok.inj passed
  have length := not_not.mp (raiseIf_ok tenCharacters)
  refine ⟨normalizeCurrencyCode_field baseValid, normalizeCurrencyCode_field quoteValid, ?_,
    not_le.mp (raiseIf_ok positive)⟩
  intro empty
  rw [show dateOr effectiveDate today = "" from empty] at length
  cases length

section RoundTrip

variable {isAlpha : Char → Bool} {s : CurrencyConverter} {log : RateLog}
  {fromCurrency toCurrency : String} {a b : CurrencyCode} {date : String}

theorem checkConversion_ok
    (fromValid : ∀ field, normalizeCurrencyCode isAlpha fromCurrency field = .ok a)
    (toValid : ∀ field, normalizeCurrencyCode isAlpha toCurrency field = .ok b) {amount : Int}
    (nonneg : 0 ≤ amount)
    : CurrencyConverter.checkConversion isAlpha (.int amount) fromCurrency toCurrency
      = .ok (amount, a, b) := by
  have counted : ¬ amount < 0 := not_lt.mpr nonneg
  simp [CurrencyConverter.checkConversion, CurrencyConverter.checkAmount, NumberArg.int?,
    orRaise, raiseIf, counted, CurrencyConverter.checkPair, fromValid, toValid, bind,
    Except.bind, pure, Except.pure]

/-- A query for two codes asks the reference. -/
theorem getRateScaled_codes (coherent : Coherent s log)
    (fromValid : ∀ field, normalizeCurrencyCode isAlpha fromCurrency field = .ok a)
    (toValid : ∀ field, normalizeCurrencyCode isAlpha toCurrency field = .ok b)
    (today : CivilDate) (date : Option String)
    : (s.getRateScaled isAlpha today fromCurrency toCurrency date).1
      = referenceRate log a b (dateOr date today) := by
  rw [(getRateScaled_coherent coherent today fromCurrency toCurrency date).1, referenceQuery,
    CurrencyConverter.checkPair, fromValid, toValid]
  rfl

/-- An amount stays the same between a currency and itself. -/
theorem roundTrip_same
    (fromValid : ∀ field, normalizeCurrencyCode isAlpha fromCurrency field = .ok a)
    (toValid : ∀ field, normalizeCurrencyCode isAlpha toCurrency field = .ok a)
    (today : CivilDate) (amount : Int) (nonneg : 0 ≤ amount)
    : s.roundTrip isAlpha today amount fromCurrency toCurrency (some date) = .ok amount := by
  simp only [CurrencyConverter.roundTrip, CurrencyConverter.convert,
    checkConversion_ok fromValid toValid nonneg, checkConversion_ok toValid fromValid nonneg,
    if_true]

/-- A conversion between two codes at the rate recorded for exactly its date. -/
theorem convert_recorded (coherent : Coherent s log)
    (fromValid : ∀ field, normalizeCurrencyCode isAlpha fromCurrency field = .ok a)
    (toValid : ∀ field, normalizeCurrencyCode isAlpha toCurrency field = .ok b)
    (different : a ≠ b) (dated : date ≠ "") {rate : Int}
    (recorded : Dated.recorded log (a, b) date = some rate) (today : CivilDate) {amount : Int}
    (nonneg : 0 ≤ amount)
    : (s.convert isAlpha today (.int amount) fromCurrency toCurrency (some date)).1
      = if rate ≤ 0 then
          .error (invalidStored a b)
        else
          .ok (halfUp (amount * rate) rateScale) := by
  have answers := rateBetween_answers coherent a b date
  have reference : referenceRate log a b date = checkStored a b rate := by
    apply referenceRate_of_direct
    simp only [referenceDirect, different, if_false, Dated.asOf_recorded recorded,
      Option.map_some]
  have asked := answers.reference.trans reference
  unfold CurrencyConverter.convert
  simp only [checkConversion_ok fromValid toValid nonneg, different, if_false, dateOr, dated]
  rcases found : s.rateBetween a b date with ⟨result, s'⟩
  simp only [found] at asked
  subst asked
  by_cases low : rate ≤ 0
  · simp only [checkStored, low, if_true]
  · simp only [checkStored, low, if_false, applyRate, halfUp]

/-- The converter stays right about its history during a conversion, so that the way back
is a conversion at the inverse rate.
-/
theorem roundTrip_recorded (coherent : Coherent s log)
    (fromValid : ∀ field, normalizeCurrencyCode isAlpha fromCurrency field = .ok a)
    (toValid : ∀ field, normalizeCurrencyCode isAlpha toCurrency field = .ok b)
    (different : a ≠ b) (dated : date ≠ "") {scaledRate : Int} (positive : 0 < scaledRate)
    (direct : Dated.recorded log (a, b) date = some scaledRate)
    (inverse : Dated.recorded log (b, a) date = some (inverseRate scaledRate))
    (today : CivilDate) (amount : Int) (nonneg : 0 ≤ amount)
    : s.roundTrip isAlpha today amount fromCurrency toCurrency (some date)
      = if inverseRate scaledRate ≤ 0 then
          .error (invalidStored b a)
        else
          .ok (thereAndBack rateScale scaledRate (inverseRate scaledRate) amount) := by
  have there := convert_recorded coherent fromValid toValid different dated direct today nonneg
  have kept :=
    convert_coherent isAlpha coherent today (.int amount) fromCurrency toCurrency
      (some date)
  rw [if_neg (not_le.mpr positive)] at there
  unfold CurrencyConverter.roundTrip
  rcases found
    : s.convert isAlpha today (.int amount) fromCurrency toCurrency (some date)
    with ⟨result, s'⟩
  rw [found] at there kept
  subst there
  have valued : 0 ≤ halfUp (amount * scaledRate) rateScale :=
    halfUp_nonneg _ (by decide) (mul_nonneg nonneg (le_of_lt positive))
  exact convert_recorded kept toValid fromValid (Ne.symm different) dated inverse today valued

/-- The bound holds for a rate in force exactly when its inverse is not rounded up. -/
theorem roundTripBounded_iff (coherent : Coherent s log)
    (fromValid : ∀ field, normalizeCurrencyCode isAlpha fromCurrency field = .ok a)
    (toValid : ∀ field, normalizeCurrencyCode isAlpha toCurrency field = .ok b)
    (different : a ≠ b) (dated : date ≠ "") {scaledRate : Int} (positive : 0 < scaledRate)
    (direct : Dated.recorded log (a, b) date = some scaledRate)
    (inverse : Dated.recorded log (b, a) date = some (inverseRate scaledRate))
    : RoundTripBounded isAlpha s fromCurrency toCurrency date scaledRate
      ↔ 2 * (rateScale * rateScale % scaledRate) < scaledRate := by
  have trip := fun today amount =>
    roundTrip_recorded coherent fromValid toValid different dated positive direct inverse today
      amount
  rw [← halfUp_mul_le_iff _ positive]
  constructor
  · intro bounded
    by_contra above
    have above := not_le.mp above
    have inversePositive : 0 < inverseRate scaledRate :=
      pos_of_mul_pos_left (lt_trans (by decide) above) (le_of_lt positive)
    -- A product above one gains without bound, so that some amount gains more than is allowed
    obtain ⟨amount, nonneg, gains⟩ :=
      thereAndBack_unbounded (by decide : 0 < rateScale) positive above
        (1 + unitWorth scaledRate)
    have returned := trip ⟨2026, 1, 1⟩ amount nonneg
    rw [if_neg (not_le.mpr inversePositive)] at returned
    have bound := bounded _ _ _ nonneg returned
    have gains : _ < thereAndBack rateScale scaledRate (inverseRate scaledRate) amount := gains
    omega
  · intro notAbove today amount back nonneg returned
    rw [trip today amount nonneg] at returned
    split at returned
    · cases returned
    · rename_i inversePositive
      obtain rfl := Except.ok.inj returned
      have inverseNonneg := le_of_lt (not_le.mp inversePositive)
      apply thereAndBack_le (by decide) positive inverseNonneg notAbove nonneg
      -- The division rounds up, so the allowed loss covers a whole unit
      have covered := Int.lt_ediv_add_one_mul_self (rateScale + scaledRate - 1) positive
      rw [add_mul, one_mul] at covered
      unfold unitWorth
      omega

end RoundTrip

/-- After any run in which a rate was registered for two currencies on a date, and no later
call wrote these currencies for this date, round trips are bounded exactly when the
currencies are the same or the inverse of the rate is not rounded up.
-/
theorem registered_roundTripBounded_iff (isAlpha : Char → Bool) (earlier later : List RateCall)
    (today : CivilDate) (baseCurrency quoteCurrency : String) (rate : RateArg)
    (effectiveDate : Option String) (source : String) (write : RateWrite)
    (accepted
      : CurrencyConverter.checkRate isAlpha today baseCurrency quoteCurrency rate effectiveDate
          source
        = .ok write)
    (inForce
      : ∀ other ∈ later.flatMap (RateCall.dated isAlpha),
          other.key = (write.base, write.quote) ∨ other.key = (write.quote, write.base)
          → other.time ≠ write.date)
    : RoundTripBounded isAlpha
        ((converterMachine isAlpha).exec .new
          (earlier
            ++ .setRate today baseCurrency quoteCurrency rate effectiveDate source :: later))
        baseCurrency quoteCurrency write.date write.scaledRate
      ↔ write.base = write.quote
        ∨ 2 * (rateScale * rateScale % write.scaledRate) < write.scaledRate := by
  have valid := checkRate_accepted accepted
  have coherent :=
    exec_coherent isAlpha new_coherent
      (earlier ++ .setRate today baseCurrency quoteCurrency rate effectiveDate source :: later)
  simp only [List.nil_append, List.flatMap_append, List.flatMap_cons, ← List.append_assoc]
    at coherent
  have written
      : (RateCall.setRate today baseCurrency quoteCurrency rate effectiveDate source).dated isAlpha
        = [⟨(write.base, write.quote), write.date, write.scaledRate⟩]
          ++ [⟨(write.quote, write.base), write.date, inverseRate write.scaledRate⟩] := by
    simp only [RateCall.dated, accepted]
    rfl
  rw [written, ← List.append_assoc] at coherent
  by_cases same : write.base = write.quote
  · -- A currency against itself: both ways return the amount as it is
    refine iff_of_true ?_ (Or.inl same)
    intro today' amount back nonneg returned
    rw [roundTrip_same valid.base (same ▸ valid.quote) today' amount nonneg] at returned
    obtain rfl := Except.ok.inj returned
    have worth : 0 ≤ unitWorth write.scaledRate :=
      Int.ediv_nonneg (by have := valid.positive; unfold rateScale; omega)
        (le_of_lt valid.positive)
    omega
  · simp only [same, false_or]
    apply roundTripBounded_iff coherent valid.base valid.quote same valid.dated valid.positive
    · -- No later rate of the pair or its inverse is written for the same date
      rw [Dated.recorded_append_other
          (fun other member key => inForce other member (Or.inl key)),
        Dated.recorded_append, Dated.recorded_append]
      simp [same, Ne.symm same]
    · rw [Dated.recorded_append_other
          (fun other member key => inForce other member (Or.inr key)),
        Dated.recorded_append]
      simp

/-- A converter that knows 1.085 dollars for a euro, so that a dollar is 0.921659 euros. -/
def euroCalls : List RateCall :=
  [.setRate ⟨2026, 1, 5⟩ "EUR" "USD" (.number true 1085000) (some "2026-01-05") "ECB"]

theorem registered_roundTripBounded_iff_sample
    : RoundTripBounded isAsciiAlpha ((converterMachine isAsciiAlpha).exec .new euroCalls) "EUR"
        "USD" "2026-01-05" 1085000
      ↔ (⟨"EUR", rfl⟩ : CurrencyCode) = ⟨"USD", rfl⟩
        ∨ 2 * (rateScale * rateScale % 1085000) < 1085000 := by
  apply registered_roundTripBounded_iff isAsciiAlpha [] [] ⟨2026, 1, 5⟩ "EUR" "USD"
    (.number true 1085000) (some "2026-01-05") "ECB"
    ⟨⟨"EUR", rfl⟩, ⟨"USD", rfl⟩, "2026-01-05", 1085000⟩
  · decide +kernel
  · intro other member
    cases member

/-- One million euros come back as 1,000,000.0150 euros. -/
theorem million_euros_gain
    : ¬ RoundTripBounded isAsciiAlpha ((converterMachine isAsciiAlpha).exec .new euroCalls)
        "EUR" "USD" "2026-01-05" 1085000 := by
  intro bounded
  have returned
      : ((converterMachine isAsciiAlpha).exec .new euroCalls).roundTrip isAsciiAlpha
          ⟨2026, 1, 5⟩ 10000000000 "EUR" "USD" (some "2026-01-05")
        = .ok 10000000150 := by
    decide +kernel
  have bound := bounded _ _ _ (by decide) returned
  exact absurd bound (by decide +kernel)

end PettyFlow.Currency
