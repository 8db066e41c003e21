import PettyFlow.Currency.RoundTrip

/-! Conversions through the dollar: at the cross-rate, and with the dollar amount in between. -/

namespace PettyFlow.Currency

open Foundation

/-- Convert an amount to dollars and these to another currency. -/
def CurrencyConverter.throughDollar (isAlpha : Char → Bool) (s : CurrencyConverter)
    (today : CivilDate) (amount : Int) (fromCurrency toCurrency : String)
    (date : Option String) : Except CurrencyError Int :=
  match s.convert isAlpha today (.int amount) fromCurrency "USD" date with
  | (.error error, _) => .error error
  | (.ok dollars, s) => (s.convert isAlpha today (.int dollars) "USD" toCurrency date).1

section Triangle

variable {isAlpha : Char → Bool} {s : CurrencyConverter} {log : RateLog}
  {fromCurrency toCurrency : String} {a b : CurrencyCode}

/-- A conversion uses the rate of the history. -/
theorem convert_reference (coherent : Coherent s log)
    (fromValid : ∀ field, normalizeCurrencyCode isAlpha fromCurrency field = .ok a)
    (toValid : ∀ field, normalizeCurrencyCode isAlpha toCurrency field = .ok b)
    (different : a ≠ b) {today : CivilDate} {date : Option String} {amount converted : Int}
    (nonneg : 0 ≤ amount)
    (succeeded
      : (s.convert isAlpha today (.int amount) fromCurrency toCurrency date).1 = .ok converted)
    : ∃ rate,
        referenceRate log a b (dateOr date today) = .ok rate
        ∧ 0 < rate
        ∧ converted = halfUp (amount * rate) rateScale := by
  have answers := rateBetween_answers coherent a b (dateOr date today)
  unfold CurrencyConverter.convert at succeeded
  simp only [checkConversion_ok fromValid toValid nonneg, different, if_false] at succeeded
  rcases found : s.rateBetween a b (dateOr date today) with ⟨result, s'⟩
  rw [found] at answers succeeded
  cases result with
  | error error => cases succeeded
  | ok rate =>
      dsimp only at succeeded
      split at succeeded
      · cases succeeded
      · rename_i positive
        exact ⟨rate, answers.reference.symm, not_le.mp positive, (Except.ok.inj succeeded).symm⟩

theorem normalize_dollar {field : String} {code : CurrencyCode}
    (valid : normalizeCurrencyCode isAlpha "USD" field = .ok code)
    : code = usd := by
  have normalized : upper (strip "USD") = "USD" := by decide +kernel
  simp only [normalizeCurrencyCode] at valid
  split at valid
  · obtain rfl := Except.ok.inj valid
    exact Subtype.ext normalized
  · cases valid

/-- A conversion that succeeds was asked for two codes. -/
theorem convert_codes {today : CivilDate} {date : Option String} {amount converted : Int}
    (succeeded
      : (s.convert isAlpha today (.int amount) fromCurrency toCurrency date).1 = .ok converted)
    : (∃ a, ∀ field, normalizeCurrencyCode isAlpha fromCurrency field = .ok a)
      ∧ ∃ b, ∀ field, normalizeCurrencyCode isAlpha toCurrency field = .ok b := by
  unfold CurrencyConverter.convert at succeeded
  cases checked
    : CurrencyConverter.checkConversion isAlpha (.int amount) fromCurrency toCurrency with
  | error error =>
      rw [checked] at succeeded
      cases succeeded
  | ok conversion =>
      obtain ⟨_, _, rest⟩ := bind_ok checked
      obtain ⟨pair, paired, _⟩ := bind_ok rest
      obtain ⟨a, fromValid, rest⟩ := bind_ok paired
      obtain ⟨b, toValid, _⟩ := bind_ok rest
      exact ⟨⟨a, normalizeCurrencyCode_field fromValid⟩,
        ⟨b, normalizeCurrencyCode_field toValid⟩⟩

/-- Both legs of a conversion by way of dollars use rates of the history. -/
theorem throughDollar_reference (coherent : Coherent s log)
    (fromValid : ∀ field, normalizeCurrencyCode isAlpha fromCurrency field = .ok a)
    (toValid : ∀ field, normalizeCurrencyCode isAlpha toCurrency field = .ok b)
    (foreign : a ≠ usd ∧ b ≠ usd) {today : CivilDate} {date : Option String}
    {amount converted : Int} (nonneg : 0 ≤ amount)
    (succeeded
      : s.throughDollar isAlpha today amount fromCurrency toCurrency date = .ok converted)
    : (∀ field, normalizeCurrencyCode isAlpha "USD" field = .ok usd)
      ∧ ∃ rateFromUsd rateUsdTo,
        referenceRate log a usd (dateOr date today) = .ok rateFromUsd
        ∧ referenceRate log usd b (dateOr date today) = .ok rateUsdTo
        ∧ 0 < rateUsdTo
        ∧ converted
          = halfUp (halfUp (amount * rateFromUsd) rateScale * rateUsdTo) rateScale := by
  unfold CurrencyConverter.throughDollar at succeeded
  have kept := convert_coherent isAlpha coherent today (.int amount) fromCurrency "USD" date
  rcases found : s.convert isAlpha today (.int amount) fromCurrency "USD" date with ⟨result, s'⟩
  rw [found] at succeeded kept
  cases result with
  | error error => cases succeeded
  | ok dollars =>
      have first := congrArg Prod.fst found
      obtain ⟨_, code, dollarValid⟩ := convert_codes first
      obtain rfl := normalize_dollar (dollarValid "")
      obtain ⟨rateFromUsd, firstRate, positive, rfl⟩ :=
        convert_reference coherent fromValid dollarValid foreign.1 nonneg first
      have dollarsNonneg : 0 ≤ halfUp (amount * rateFromUsd) rateScale :=
        halfUp_nonneg _ (by decide) (mul_nonneg nonneg (le_of_lt positive))
      obtain ⟨rateUsdTo, secondRate, positive', converted⟩ :=
        convert_reference kept dollarValid toValid (Ne.symm foreign.2) dollarsNonneg succeeded
      exact ⟨dollarValid, rateFromUsd, rateUsdTo, firstRate, secondRate, positive', converted⟩

/-- Without a rate for the pair, the reference multiplies the rates to and from the dollar. -/
theorem referenceRate_product {date : String} (foreign : a ≠ usd ∧ b ≠ usd)
    (missing : referenceDirect log a b date = none) {rateFromUsd rateUsdTo : Int}
    (first : referenceRate log a usd date = .ok rateFromUsd)
    (second : referenceRate log usd b date = .ok rateUsdTo)
    : referenceRate log a b date = .ok (halfUp (rateFromUsd * rateUsdTo) rateScale) := by
  rw [referenceRate_of_leg (Or.inr rfl)] at first
  rw [referenceRate_of_leg (Or.inl rfl)] at second
  simp only [referenceRate, missing, foreign, ne_eq, not_false_iff, and_self, if_true, first,
    second]
  rfl

end Triangle

/-- The pair has no rate of its own, neither the unit rate nor a stored one of any date. -/
def WithoutDirectRate (s : CurrencyConverter) (a b : CurrencyCode) : Prop :=
  a ≠ b ∧ s.indexed (a, b) = []

theorem referenceDirect_missing {s : CurrencyConverter} {log : RateLog} {a b : CurrencyCode}
    (coherent : Coherent s log) (without : WithoutDirectRate s a b) (date : String)
    : referenceDirect log a b date = none := by
  have none := (coherent.index (a, b)).entryAt date
  rw [without.2, entryAt_nil] at none
  simp [referenceDirect, without.1, ← none]

/-- After every run, a conversion at a cross-rate and one by way of dollars are not further apart
than the roundings of the cross-rate and of the dollar amount allow.
-/
theorem triangle_bounded (isAlpha : Char → Bool) (calls : List RateCall)
    (s : CurrencyConverter) (reached : s = (converterMachine isAlpha).exec .new calls)
    (today : CivilDate) (date : Option String) (fromCurrency toCurrency : String)
    (a b : CurrencyCode)
    (fromValid : normalizeCurrencyCode isAlpha fromCurrency "from_currency" = .ok a)
    (toValid : normalizeCurrencyCode isAlpha toCurrency "to_currency" = .ok b)
    (foreign : a ≠ usd ∧ b ≠ usd) (without : WithoutDirectRate s a b)
    (amount direct legs rate : Int) (nonneg : 0 ≤ amount)
    (directly
      : (s.convert isAlpha today (.int amount) fromCurrency toCurrency date).1 = .ok direct)
    (stepwise
      : s.throughDollar isAlpha today amount fromCurrency toCurrency date = .ok legs)
    (used : (s.getRateScaled isAlpha today "USD" toCurrency date).1 = .ok rate)
    : |(direct : ℚ) - legs| ≤ amount / (2 * 10 ^ 6) + rate / (2 * 10 ^ 6) + 2 := by
  have coherent := exec_coherent isAlpha new_coherent calls
  rw [← reached, List.nil_append] at coherent
  have fromValid := normalizeCurrencyCode_field fromValid
  have toValid := normalizeCurrencyCode_field toValid
  obtain ⟨dollarValid, rateFromUsd, rateUsdTo, first, second, positive, rfl⟩ :=
    throughDollar_reference coherent fromValid toValid foreign nonneg stepwise
  have missing := referenceDirect_missing coherent without (dateOr date today)
  obtain ⟨cross, crossed, _, rfl⟩ :=
    convert_reference coherent fromValid toValid without.1 nonneg directly
  rw [referenceRate_product foreign missing first second] at crossed
  obtain rfl := Except.ok.inj crossed
  rw [getRateScaled_codes coherent dollarValid toValid, second] at used
  obtain rfl := Except.ok.inj used
  have bound : 2 * rateScale * |_ - _| ≤ amount + rateUsdTo + 2 * rateScale :=
    @halfUp_product_error rateScale (by decide) amount rateFromUsd rateUsdTo nonneg
      (le_of_lt positive)
  have rational := (Int.cast_le (R := ℚ)).mpr bound
  push_cast [rateScale] at rational ⊢
  linarith

section Sample

/-- A euro is 1.085 dollars and a pound 1.31 dollars. -/
def poundCalls : List RateCall :=
  [.setRate ⟨2026, 8, 25⟩ "EUR" "USD" (.number true 1085000) (some "2026-08-25") "ECB",
    .setRate ⟨2026, 8, 25⟩ "GBP" "USD" (.number true 1310000) (some "2026-08-25") "ECB"]

/-- 100,000 euros are 82,824.5000 pounds at the cross-rate, and 82,824.4515 by way of dollars. -/
theorem triangle_bounded_sample
    : |((828245000 : Int) : ℚ) - (828244515 : Int)|
      ≤ (1000000000 : Int) / (2 * 10 ^ 6) + (763359 : Int) / (2 * 10 ^ 6) + 2 :=
  triangle_bounded isAsciiAlpha poundCalls _ rfl ⟨2026, 8, 25⟩ (some "2026-08-25") "EUR" "GBP"
    ⟨"EUR", rfl⟩ ⟨"GBP", rfl⟩ (by decide +kernel) (by decide +kernel) (by decide)
    ⟨by decide, by decide +kernel⟩ 1000000000 828245000 828244515 763359 (by decide)
    (by decide +kernel) (by decide +kernel) (by decide +kernel)

end Sample

end PettyFlow.Currency
