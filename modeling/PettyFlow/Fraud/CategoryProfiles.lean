import PettyFlow.Fraud.CategoryAnomaly

/-! Runs of the detector of unusual categories: what the profiles of custodians hold after them, and
when an evaluation raises.
-/

namespace PettyFlow.Fraud

open Foundation

/-! ### Quotients -/

/-- A quotient by a number other than zero fails only far beyond the range of amounts. -/
theorem trueDivide_error {a b : Int} {error : CategoryError} (nonzero : b ≠ 0)
    (raised : trueDivide a b = .error error)
    : error = .overflowError "integer division result too large for a float"
      ∧ 2 ^ 1023 ≤ |(a / b : ℚ)| := by
  rw [trueDivide, if_neg nonzero] at raised
  have large : ¬ |(a / b : ℚ)| < 2 ^ 1023 := by
    intro small
    obtain ⟨value, rounded⟩ := FloatValue.nearest_finite small
    rw [rounded] at raised
    cases raised
  refine ⟨?_, not_lt.mp large⟩
  split at raised
  · cases raised
  · exact (Except.error.inj raised).symm

/-- A mean is smaller than a bound on all numbers. -/
theorem mean_lt {amounts : List Int} {bound : Int} (some : amounts ≠ [])
    (small : ∀ amount ∈ amounts, |amount| < bound)
    : |(amounts.sum / amounts.length : ℚ)| < bound := by
  have positive : 0 < amounts.length := List.length_pos_iff.mpr some
  have above : amounts.sum ≤ amounts.length • (bound - 1) :=
    List.sum_le_card_nsmul _ _ fun amount member =>
      Int.le_sub_one_of_lt (abs_lt.mp (small amount member)).2
  have below : amounts.length • (-(bound - 1)) ≤ amounts.sum :=
    List.card_nsmul_le_sum _ _ fun amount member => by
      have := (abs_lt.mp (small amount member)).1
      omega
  have total : |amounts.sum| < bound * amounts.length := by
    rw [nsmul_eq_mul] at above below
    rw [abs_lt]
    constructor <;> nlinarith
  rw [abs_div, Nat.abs_cast, div_lt_iff₀ (by exact_mod_cast positive)]
  exact_mod_cast total

/-! ### Profiles -/

namespace CustodianCategoryBaseline

/-- A profile sums up transactions, each a category as it was spelled and an amount. -/
structure SumsUp (s : CustodianCategoryBaseline) (recorded : List (String × Int)) : Prop where
  txCount : s.totalTxCount = recorded.length
  spend : s.totalSpendScaled = (recorded.map Prod.snd).sum
  counts : s.categoryCounts.Tallies (normCat ·.1) (fun _ => 1) recorded
  spends : s.categorySpendScaled.Tallies (normCat ·.1) Prod.snd recorded
  countTotal : s.categoryCounts.total (fun _ count => count) = s.totalTxCount
  spendTotal : s.categorySpendScaled.total (fun _ spend => spend) = s.totalSpendScaled

variable {s : CustodianCategoryBaseline} {recorded : List (String × Int)}

theorem sumsUp_empty : ({} : CustodianCategoryBaseline).SumsUp [] :=
  ⟨rfl, rfl, Dict.tallies_empty, Dict.tallies_empty, rfl, rfl⟩

theorem SumsUp.record (sums : s.SumsUp recorded) (entry : String × Int)
    : (s.record entry.1 entry.2).SumsUp (recorded ++ [entry]) where
  txCount := by simp [CustodianCategoryBaseline.record, sums.txCount]
  spend := by simp [CustodianCategoryBaseline.record, sums.spend]
  counts := sums.counts.addTo entry
  spends := sums.spends.addTo entry
  countTotal := by
    rw [CustodianCategoryBaseline.record, Dict.total_addTo, sums.countTotal]
  spendTotal := by
    rw [CustodianCategoryBaseline.record, Dict.total_addTo, sums.spendTotal]

theorem recordAll_append (s : CustodianCategoryBaseline) (first later : List (String × Int))
    : s.recordAll (first ++ later) = (s.recordAll first).recordAll later :=
  List.foldl_append

/-- The fold of transactions sums them up, by induction from their end. -/
theorem sumsUp_recordAll (recorded : List (String × Int))
    : (recordAll {} recorded).SumsUp recorded := by
  induction recorded using List.reverseRecOn with
  | nil => exact sumsUp_empty
  | append_singleton recorded entry ih =>
      rw [recordAll_append]
      exact ih.record entry

/-- The number of a category's transactions is no greater than the number of all. -/
theorem SumsUp.count_le (sums : s.SumsUp recorded) (category : String)
    : s.categoryCounts.getD category 0 ≤ s.totalTxCount := by
  rw [sums.counts.getD_zero, sums.txCount, List.map_const', List.sum_replicate, smul_eq_mul,
    mul_one]
  exact List.length_filter_le _ _

/-- A share of the transactions is a quotient that never fails. -/
theorem SumsUp.getCategoryFrequency_ok (sums : s.SumsUp recorded) (category : String)
    : ∃ share, s.getCategoryFrequency category = .ok share := by
  rw [getCategoryFrequency]
  split
  · exact ⟨0, rfl⟩
  · rename_i some
    cases quotient : trueDivide (s.categoryCounts.getD (normCat category) 0) s.totalTxCount with
    | ok share => exact ⟨share, rfl⟩
    | error error =>
        exfalso
        obtain ⟨-, large⟩ := trueDivide_error (Int.natCast_ne_zero.mpr some) quotient
        have share
            : |((s.categoryCounts.getD (normCat category) 0 : ℕ) / s.totalTxCount : ℚ)| ≤ 1 := by
          rw [abs_of_nonneg (by positivity)]
          exact div_le_one_of_le₀ (by exact_mod_cast sums.count_le _) (Nat.cast_nonneg _)
        push_cast at large
        exact absurd (large.trans share) (not_le.mpr (one_lt_pow₀ one_lt_two (by simp)))

end CustodianCategoryBaseline

/-! ### Evaluation -/

namespace MerchantCategoryAnomalyDetector

open CustodianCategoryBaseline

/-- An average raises only where one of the amounts is beyond the doubles. -/
theorem mean_error {amounts : List Int} {failure : CategoryError} (some : amounts ≠ [])
    (raised : trueDivide amounts.sum amounts.length = .error failure)
    : failure = .overflowError "integer division result too large for a float"
      ∧ ∃ amount ∈ amounts, 2 ^ 1023 ≤ |amount| := by
  have positive : (amounts.length : Int) ≠ 0 := by simpa using some
  obtain ⟨overflow, large⟩ := trueDivide_error positive raised
  refine ⟨overflow, ?_⟩
  by_contra none
  have small (amount : Int) (member : amount ∈ amounts) : |amount| < 2 ^ 1023 :=
    lt_of_not_ge fun big => none ⟨amount, member, big⟩
  have mean := mean_lt some small
  rw [Int.cast_pow, Int.cast_ofNat] at mean
  rw [Int.cast_natCast] at large
  exact absurd mean (not_lt.mpr large)

/-- An amount in whole units raises only where it is beyond the doubles. -/
theorem units_error {amount : Int} {failure : CategoryError}
    (raised : trueDivide amount 10000 = .error failure)
    : failure = .overflowError "integer division result too large for a float"
      ∧ 2 ^ 1023 ≤ |amount| := by
  obtain ⟨overflow, large⟩ := trueDivide_error (by decide) raised
  refine ⟨overflow, ?_⟩
  rw [abs_div] at large
  have bigger := large.trans (div_le_self (abs_nonneg _) (by norm_num))
  rw [← Int.cast_abs, ← Int.cast_ofNat, ← Int.cast_pow] at bigger
  exact Int.cast_le.mp bigger

/-- The second condition raises only where an average or the amount is beyond the doubles. -/
theorem rareAlert?_error {s : MerchantCategoryAnomalyDetector}
    {baseline : CustodianCategoryBaseline} {recorded : List (String × Int)}
    {transaction : CategoryTransaction} {error : CategoryError} (sums : baseline.SumsUp recorded)
    (seen : baseline.categoryCounts.contains (normCat transaction.category) = true)
    (raised : s.rareAlert? baseline transaction = .error error)
    : error = .overflowError "integer division result too large for a float"
      ∧ ∃ amount ∈ transaction.amountScaled :: recorded.map Prod.snd, 2 ^ 1023 ≤ |amount| := by
  obtain ⟨share, frequency⟩ := sums.getCategoryFrequency_ok (normCat transaction.category)
  have own
      : recorded.filter (fun entry => normCat entry.1 = normCat transaction.category) ≠ [] := by
    intro none
    rw [Dict.contains, sums.counts, if_pos none] at seen
    cases seen
  have spend := sums.spends (normCat transaction.category)
  have count := sums.counts (normCat transaction.category)
  rw [if_neg own] at spend count
  rw [List.map_const', List.sum_replicate, smul_eq_mul, mul_one] at count
  rw [rareAlert?, frequency, spend, count] at raised
  generalize mine : recorded.filter (fun entry => normCat entry.1 = normCat transaction.category)
    = entries at *
  simp only [orRaise, bind, Except.bind] at raised
  cases average : trueDivide (entries.map Prod.snd).sum entries.length with
  | error failure =>
      rw [average] at raised
      rw [← List.length_map Prod.snd] at average
      obtain ⟨overflow, amount, member, large⟩ := mean_error (by simpa using own) average
      rw [← mine] at member
      have listed := (List.filter_sublist.map Prod.snd).subset member
      exact ⟨(Except.error.inj raised).symm.trans overflow, amount,
        List.mem_cons_of_mem _ listed, large⟩
  | ok avgSpendCat =>
      rw [average] at raised
      dsimp only at raised
      split at raised
      · cases divided : trueDivide transaction.amountScaled 10000 with
        | error failure =>
            rw [divided] at raised
            obtain ⟨overflow, large⟩ := units_error divided
            exact ⟨(Except.error.inj raised).symm.trans overflow, transaction.amountScaled,
              List.mem_cons_self, large⟩
        | ok amount =>
            rw [divided] at raised
            cases raised
      · cases raised

/-! ### Runs -/

inductive Call where
  | recordBaseline (tenantId custodianId category : String) (amountScaled : Int)
  | bulkLoadBaseline (tenantId custodianId : String) (history : List (String × Int))
  | evaluateTransaction (transaction : CategoryTransaction) (autoUpdateBaseline : Bool)
  | clearCustodian (tenantId custodianId : String)
deriving DecidableEq

inductive Answer where
  | done
  | evaluated (outcome : Except CategoryError (Option MerchantCategoryAlert))

/-- The call returns rather than raises. -/
def Answer.returned : Answer → Bool
  | .evaluated (.error _) => false
  | _ => true

def machine : Machine MerchantCategoryAnomalyDetector Call Answer where
  step s call :=
    match call with
    | .recordBaseline tenantId custodianId category amountScaled =>
        (.done, s.recordBaseline tenantId custodianId category amountScaled)
    | .bulkLoadBaseline tenantId custodianId history =>
        (.done, s.bulkLoadBaseline tenantId custodianId history)
    | .evaluateTransaction transaction autoUpdateBaseline =>
        let (outcome, next) := s.evaluateTransaction transaction autoUpdateBaseline
        (.evaluated outcome, next)
    | .clearCustodian tenantId custodianId => (.done, s.clearCustodian tenantId custodianId)

/-- The tenant and the custodian a call is about. -/
def Call.key : Call → String × String
  | .recordBaseline tenantId custodianId _ _ => (tenantId, custodianId)
  | .bulkLoadBaseline tenantId custodianId _ => (tenantId, custodianId)
  | .evaluateTransaction transaction _ => transaction.key
  | .clearCustodian tenantId custodianId => (tenantId, custodianId)

/-- The transactions a call is to count, if it counts any. -/
def Call.recorded? : Call → Option (List (String × Int))
  | .recordBaseline _ _ category amountScaled => some [(category, amountScaled)]
  | .bulkLoadBaseline _ _ history => some history
  | .evaluateTransaction transaction true =>
      some [(transaction.category, transaction.amountScaled)]
  | .evaluateTransaction _ false => none
  | .clearCustodian .. => none

/-- The amounts a call is given. -/
def Call.amounts : Call → List Int
  | .recordBaseline _ _ _ amountScaled => [amountScaled]
  | .bulkLoadBaseline _ _ history => history.map Prod.snd
  | .evaluateTransaction transaction _ => [transaction.amountScaled]
  | .clearCustodian .. => []

/-- What calls are to count of a custodian since they last cleared the profile. -/
def recordedSince (key : String × String) (calls : List Call) : List (List (String × Int)) :=
  ((calls.rtakeWhile (· ≠ .clearCustodian key.1 key.2)).filter (·.key = key)).filterMap
    Call.recorded?

/-- The profile that calls make of a custodian, if they made one since they last cleared it. -/
def profileSince (key : String × String) (calls : List Call) : Option CustodianCategoryBaseline :=
  match recordedSince key calls with
  | [] => none
  | histories => some (recordAll {} histories.flatten)

/-! ### Steps -/

/-- An evaluation answers and updates the profile if asked to, or fails in the second condition
and changes nothing.
-/
theorem evaluateTransaction_cases (s : MerchantCategoryAnomalyDetector)
    (transaction : CategoryTransaction) (autoUpdateBaseline : Bool)
    : (∃ alert,
        s.evaluateTransaction transaction autoUpdateBaseline
        = (.ok alert,
          if autoUpdateBaseline then
            s.recordBaseline transaction.tenantId transaction.custodianId transaction.category
              transaction.amountScaled
          else
            s))
      ∨ ∃ baseline error,
          s.baselines.get? transaction.key = some baseline
          ∧ baseline.categoryCounts.contains (normCat transaction.category) = true
          ∧ s.rareAlert? baseline transaction = .error error
          ∧ s.evaluateTransaction transaction autoUpdateBaseline = (.error error, s) := by
  rw [evaluateTransaction]
  cases found : s.baselines.get? transaction.key with
  | none => exact .inl ⟨none, rfl⟩
  | some baseline =>
      dsimp only
      by_cases few : baseline.totalTxCount < s.minBaselineSamples
      · rw [if_pos few]
        exact .inl ⟨none, rfl⟩
      · rw [if_neg few]
        by_cases seen : baseline.categoryCounts.contains (normCat transaction.category) = true
        · rw [if_neg (not_not.mpr seen)]
          cases checked : s.rareAlert? baseline transaction with
          | ok alert => exact .inl ⟨alert, rfl⟩
          | error error => exact .inr ⟨baseline, error, rfl, seen, checked, rfl⟩
        · rw [if_pos seen]
          exact .inl ⟨_, rfl⟩

/-- What a call leaves of a profile: nothing if it clears it, and one that has counted what the
call is to count if the call returns.
-/
def after (profile : Option CustodianCategoryBaseline) (key : String × String) (call : Call)
    : Option CustodianCategoryBaseline :=
  if call = .clearCustodian key.1 key.2 then
    none
  else if call.key = key then
    match call.recorded? with
    | some history => some ((profile.getD {}).recordAll history)
    | none => profile
  else
    profile

/-- An amount that calls are to count was given to one of them. -/
theorem amount_given {key : String × String} {calls : List Call} {amount : Int}
    (member : amount ∈ (recordedSince key calls).flatten.map Prod.snd)
    : ∃ call ∈ calls, amount ∈ call.amounts := by
  obtain ⟨entry, listed, rfl⟩ := List.mem_map.mp member
  obtain ⟨history, recorded, inside⟩ := List.mem_flatten.mp listed
  obtain ⟨call, kept, counts⟩ := List.mem_filterMap.mp recorded
  refine ⟨call, (List.rtakeWhile_suffix _ _).subset (List.mem_filter.mp kept).1, ?_⟩
  cases call with
  | recordBaseline tenantId custodianId category amountScaled =>
      cases counts
      simpa [Call.amounts] using congrArg Prod.snd (List.mem_singleton.mp inside)
  | bulkLoadBaseline tenantId custodianId history =>
      cases counts
      exact List.mem_map_of_mem inside
  | evaluateTransaction transaction autoUpdateBaseline =>
      cases autoUpdateBaseline with
      | true =>
          cases counts
          simpa [Call.amounts] using congrArg Prod.snd (List.mem_singleton.mp inside)
      | false => cases counts
  | clearCustodian tenantId custodianId => cases counts

theorem get?_extend (s : MerchantCategoryAnomalyDetector) (key other : String × String)
    (history : List (String × Int))
    : (s.baselines.set key ((s.baselines.getD key {}).recordAll history)).get? other
      = if key = other then
          some (((s.baselines.get? other).getD {}).recordAll history)
        else
          s.baselines.get? other := by
  rw [Dict.get?_set]
  split
  · rename_i same
    rw [← same, Dict.getD]
  · rfl

/-- A call leaves of each profile what it should if it returns, and all as it was if it raises. -/
theorem get?_step (s : MerchantCategoryAnomalyDetector) (call : Call) (key : String × String)
    : (machine.step s call).2.baselines.get? key
      = if (machine.step s call).1.returned then
          after (s.baselines.get? key) key call
        else
          s.baselines.get? key := by
  cases call with
  | recordBaseline tenantId custodianId category amountScaled =>
      exact get?_extend s (tenantId, custodianId) key [(category, amountScaled)]
  | bulkLoadBaseline tenantId custodianId history =>
      exact get?_extend s (tenantId, custodianId) key history
  | evaluateTransaction transaction autoUpdateBaseline =>
      obtain ⟨alert, result⟩ | ⟨baseline, error, found, seen, checked, result⟩ :=
        s.evaluateTransaction_cases transaction autoUpdateBaseline
      · simp only [machine, result]
        cases autoUpdateBaseline with
        | true =>
            exact get?_extend s transaction.key key
              [(transaction.category, transaction.amountScaled)]
        | false => simp [Answer.returned, after, Call.recorded?]
      · simp only [machine, result]
        rfl
  | clearCustodian tenantId custodianId =>
      change (s.baselines.erase (tenantId, custodianId)).get? key = after _ key _
      rw [Dict.get?_erase, after]
      by_cases same : (tenantId, custodianId) = key
      · subst same
        simp
      · have other : Call.clearCustodian tenantId custodianId ≠ .clearCustodian key.1 key.2 := by
          intro equal
          obtain ⟨rfl, rfl⟩ := Call.clearCustodian.inj equal
          exact same rfl
        rw [if_neg same, if_neg other, Call.key, if_neg same]

/-- A call with its own key is the only one that changes a profile. -/
theorem after_other {profile : Option CustodianCategoryBaseline} {key : String × String}
    {call : Call} (other : call.key ≠ key)
    : after profile key call = profile := by
  have uncleared : call ≠ .clearCustodian key.1 key.2 := by
    rintro rfl
    exact other rfl
  rw [after, if_neg uncleared, if_neg other]

/-- One more call leaves of what calls make of a custodian what it leaves of a profile. -/
theorem profileSince_concat (key : String × String) (calls : List Call) (call : Call)
    : profileSince key (calls ++ [call]) = after (profileSince key calls) key call := by
  rw [profileSince, recordedSince, List.rtakeWhile_concat, after]
  by_cases clears : call = .clearCustodian key.1 key.2
  · rw [if_neg (by simp [clears]), if_pos clears]
    rfl
  · rw [if_pos (by simp [clears]), if_neg clears, List.filter_append, List.filterMap_append]
    change (match recordedSince key calls
          ++ ([call].filter (·.key = key)).filterMap Call.recorded? with
      | [] => none
      | histories => some (recordAll {} histories.flatten)) = _
    by_cases own : call.key = key
    · rw [List.filter_cons_of_pos (by simp [own]), if_pos own]
      cases counted : call.recorded? with
      | none =>
          rw [List.filterMap_cons_none counted]
          simp [profileSince]
      | some history =>
          rw [List.filterMap_cons_some counted, profileSince]
          cases recordedSince key calls <;> simp [recordAll_append]
    · rw [List.filter_cons_of_neg (by simp [own]), if_neg own]
      simp [profileSince]

section Reached

variable (minBaselineSamples : Int) (maxSpendDeviationMultiplier : FloatValue)

/-- The state after calls to a new detector. -/
def reached (calls : List Call) : MerchantCategoryAnomalyDetector :=
  machine.exec (new minBaselineSamples maxSpendDeviationMultiplier) calls

/-- The calls to a new detector that returned. -/
def counted (calls : List Call) : List Call :=
  ((machine.history (new minBaselineSamples maxSpendDeviationMultiplier) calls).filter
    (·.output.returned)).map (·.input)

theorem counted_concat (calls : List Call) (call : Call)
    : counted minBaselineSamples maxSpendDeviationMultiplier (calls ++ [call])
      = counted minBaselineSamples maxSpendDeviationMultiplier calls
        ++ (if (machine.step (reached minBaselineSamples maxSpendDeviationMultiplier calls)
              call).1.returned then
            [call]
          else
            []) := by
  rw [counted, Machine.history_concat, List.filter_append, List.map_append, counted]
  congr 1
  split
  · rename_i returned
    rw [List.filter_cons_of_pos (by exact returned)]
    rfl
  · rename_i raised
    rw [List.filter_cons_of_neg (by exact raised)]
    rfl

/-- After every run each profile is what the calls that returned make of it, by induction from the
end of the run.
-/
theorem get?_reached (calls : List Call) (key : String × String)
    : (reached minBaselineSamples maxSpendDeviationMultiplier calls).baselines.get? key
      = profileSince key (counted minBaselineSamples maxSpendDeviationMultiplier calls) := by
  induction calls using List.reverseRecOn with
  | nil => rfl
  | append_singleton calls call ih =>
      rw [counted_concat, reached, Machine.exec_concat, get?_step, ← reached, ih]
      split
      · exact (profileSince_concat key _ call).symm
      · rw [List.append_nil]

/-- Each profile sums up the transactions counted for it. -/
theorem sumsUp_of_profileSince {key : String × String} {calls : List Call}
    {baseline : CustodianCategoryBaseline} (made : profileSince key calls = some baseline)
    : baseline.SumsUp (recordedSince key calls).flatten := by
  rw [profileSince] at made
  split at made
  · cases made
  · cases made
    exact sumsUp_recordAll _

/-- What an evaluation after calls raises and leaves. -/
structure EvaluatesRight (calls : List Call) (transaction : CategoryTransaction)
    (autoUpdateBaseline : Bool) : Prop where
  quiet
    : autoUpdateBaseline = false
      → ((reached minBaselineSamples maxSpendDeviationMultiplier calls).evaluateTransaction
          transaction autoUpdateBaseline).2
        = reached minBaselineSamples maxSpendDeviationMultiplier calls
  raised
    : ∀ error,
        ((reached minBaselineSamples maxSpendDeviationMultiplier calls).evaluateTransaction
          transaction autoUpdateBaseline).1
          = .error error
        → error = .overflowError "integer division result too large for a float"
          ∧ ((reached minBaselineSamples maxSpendDeviationMultiplier calls).evaluateTransaction
              transaction autoUpdateBaseline).2
            = reached minBaselineSamples maxSpendDeviationMultiplier calls
          ∧ ∃ amount
                ∈ transaction.amountScaled
                  :: (recordedSince transaction.key
                      (counted minBaselineSamples maxSpendDeviationMultiplier
                        calls)).flatten.map Prod.snd,
              2 ^ 1023 ≤ |amount|

theorem evaluatesRight (calls : List Call) (transaction : CategoryTransaction)
    (autoUpdateBaseline : Bool)
    : EvaluatesRight minBaselineSamples maxSpendDeviationMultiplier calls transaction
        autoUpdateBaseline := by
  obtain ⟨alert, result⟩ | ⟨baseline, error, found, seen, checked, result⟩ :=
    (reached minBaselineSamples maxSpendDeviationMultiplier calls).evaluateTransaction_cases
      transaction autoUpdateBaseline
  · constructor
    · intro quiet
      rw [result, quiet]
      rfl
    · intro error raised
      rw [result] at raised
      cases raised
  · constructor
    · intro _
      rw [result]
    · intro error raised
      rw [result] at raised ⊢
      cases raised
      rw [get?_reached] at found
      obtain ⟨overflow, large⟩ := rareAlert?_error (sumsUp_of_profileSince found) seen checked
      exact ⟨overflow, rfl, large⟩

/-- Every call returns that is given amounts within the range of doubles, as those before it are;
by induction from the end of the run.
-/
theorem counted_of_small {calls : List Call}
    (small : ∀ call ∈ calls, ∀ amount ∈ call.amounts, |amount| < 2 ^ 1023)
    : counted minBaselineSamples maxSpendDeviationMultiplier calls = calls := by
  induction calls using List.reverseRecOn with
  | nil => rfl
  | append_singleton calls call ih =>
      have before : ∀ call ∈ calls, ∀ amount ∈ call.amounts, |amount| < 2 ^ 1023 :=
        fun call member => small call (List.mem_append_left _ member)
      have here := small call (List.mem_append_right _ List.mem_cons_self)
      rw [counted_concat, ih before, if_pos]
      cases call with
      | recordBaseline tenantId custodianId category amountScaled => rfl
      | bulkLoadBaseline tenantId custodianId history => rfl
      | clearCustodian tenantId custodianId => rfl
      | evaluateTransaction transaction autoUpdateBaseline =>
          have right := evaluatesRight minBaselineSamples maxSpendDeviationMultiplier calls
            transaction autoUpdateBaseline
          simp only [machine]
          cases outcome
              : ((reached minBaselineSamples maxSpendDeviationMultiplier calls).evaluateTransaction
                transaction autoUpdateBaseline).1 with
          | ok alert => rfl
          | error error =>
              obtain ⟨-, -, amount, member, large⟩ := right.raised error outcome
              rw [ih before] at member
              exfalso
              rcases List.mem_cons.mp member with rfl | earlier
              · exact absurd (here _ List.mem_cons_self) (not_lt.mpr large)
              · obtain ⟨call, listed, given⟩ := amount_given earlier
                exact absurd (before call listed amount given) (not_lt.mpr large)

/-- What the profiles are after calls, and what one more call changes. -/
structure ProfilesExact (calls : List Call) : Prop where
  profiles
    : ∀ key,
        (reached minBaselineSamples maxSpendDeviationMultiplier calls).baselines.get? key
        = profileSince key (counted minBaselineSamples maxSpendDeviationMultiplier calls)
  sums
    : ∀ key baseline,
        (reached minBaselineSamples maxSpendDeviationMultiplier calls).baselines.get? key
          = some baseline
        → baseline.SumsUp
            (recordedSince key
              (counted minBaselineSamples maxSpendDeviationMultiplier calls)).flatten
  allCounted
    : (∀ call ∈ calls, ∀ amount ∈ call.amounts, |amount| < 2 ^ 1023)
      → counted minBaselineSamples maxSpendDeviationMultiplier calls = calls
  untouched
    : ∀ call key,
        call.key ≠ key
        → (machine.step (reached minBaselineSamples maxSpendDeviationMultiplier calls)
            call).2.baselines.get? key
          = (reached minBaselineSamples maxSpendDeviationMultiplier calls).baselines.get? key
  evaluations
    : ∀ transaction autoUpdateBaseline,
        EvaluatesRight minBaselineSamples maxSpendDeviationMultiplier calls transaction
          autoUpdateBaseline

/-- In every run each profile is the fold of the transactions that calls which returned recorded
since the last clear. Calls return unless amounts are beyond the doubles: then an evaluation may
raise an overflow, which changes nothing.
-/
theorem profiles_exact (calls : List Call)
    : ProfilesExact minBaselineSamples maxSpendDeviationMultiplier calls where
  profiles := get?_reached minBaselineSamples maxSpendDeviationMultiplier calls
  sums := fun key baseline found => by
    rw [get?_reached] at found
    exact sumsUp_of_profileSince found
  allCounted := counted_of_small minBaselineSamples maxSpendDeviationMultiplier
  untouched := fun call key other => by
    rw [get?_step, after_other other, ite_self]
  evaluations := evaluatesRight minBaselineSamples maxSpendDeviationMultiplier calls

end Reached

/-- Five recorded transactions and an evaluation, each of more than a double can be. -/
def hugeSpending : List Call :=
  .replicate 5 (.recordBaseline "t" "c" "OFFICE" (10 ^ 400))
  ++ [.evaluateTransaction ⟨"t", "c", "x", "OFFICE", 10 ^ 400⟩ true]

/-- The evaluation is to be counted, but raises before it is. -/
theorem huge_spending_uncounted
    : ¬ ∀ key,
        (machine.exec (new 5 (.finite 3)) hugeSpending).baselines.get? key
        = profileSince key hugeSpending := by
  intro all
  have counted := congrArg (Option.map (·.totalTxCount)) (all ("t", "c"))
  revert counted
  decide +kernel

end MerchantCategoryAnomalyDetector

end PettyFlow.Fraud
