import PettyFlow.Foundation.DoubleText
import PettyFlow.Foundation.FloatRoots
import PettyFlow.Fraud.SplitTxDetector

/-! The composite score of a transaction's fraud signals, and what is blocked by it. -/

namespace PettyFlow.Fraud

open Foundation

inductive RiskLevel where
  | low
  | medium
  | high
  | critical
deriving DecidableEq

def RiskLevel.value : RiskLevel → String
  | low => "LOW"
  | medium => "MEDIUM"
  | high => "HIGH"
  | critical => "CRITICAL"

def scoreToLevel (score : Nat) : RiskLevel :=
  if score ≤ 20 then .low
  else if score ≤ 49 then .medium
  else if score ≤ 79 then .high
  else .critical

/-- What is known of a transaction when it is scored. No past amounts are an empty list. -/
structure ScoreRequest where
  transactionId : String
  tenantId : String
  custodianId : String
  amountScaled : Int
  duplicateHammingDistance : Option Int
  splitWindowTotalScaled : Option Int
  splitThresholdScaled : Option Int
  historicalAmountsScaled : List Int
  hourlyTxCount : Int
  categoryAnomaly : Bool
  isSmurfing : Bool

structure RiskScoreResult where
  transactionId : String
  tenantId : String
  custodianId : String
  compositeScore : Nat
  riskLevel : RiskLevel
  duplicateReceiptFlag : Bool
  duplicateHammingDistance : Option Int
  splitTransactionFlag : Bool
  splitWindowTotalScaled : Option Int
  amountAnomalyFlag : Bool
  amountZscore : Option FloatValue
  velocityFlag : Bool
  hourlyTxCount : Int
  categoryAnomalyFlag : Bool
  smurfingFlag : Bool
  triggeredSignals : List String
  evaluatedAt : String

def RiskScoreResult.isBlocked (result : RiskScoreResult) : Bool :=
  result.riskLevel = .high ∨ result.riskLevel = .critical

def weightDuplicate : Nat := 50
def weightSplit : Nat := 30
def weightSmurfing : Nat := 30
def weightCategoryAnomaly : Nat := 15
def weightAmountAnomaly : Nat := 10
def weightVelocity : Nat := 10

structure FraudRiskScorer where
  zscoreThreshold : FloatValue
  velocityThreshold : Int
  duplicateBitThreshold : Int

/-- A signal that fires adds its points and its text. -/
structure Signal where
  points : Nat
  text : String

def pointsOf (signal : Option Signal) : Nat := signal.elim 0 Signal.points

/-- The size of a number. -/
def absolute : FloatValue → FloatValue
  | .finite value => .finite |value|
  | .infinite _ => .infinite false
  | .nan => .nan

def isNegative : FloatValue → Bool
  | .finite value => value < 0
  | .infinite negative => negative
  | .nan => false

/-- What the C library gives for the square of a double unless it overflows, and the interpreter for
the sum of floats, which some versions compensate.
-/
structure FloatMath where
  square : ℚ → Option ℚ
  sum : List FloatValue → FloatValue

namespace FloatMath

variable (math : FloatMath)

/-- The square of how far an amount is from the mean. No amount beyond the doubles has one. -/
def squaredDeviation (mean : ℚ) (x : Int) : Option FloatValue :=
  match FloatValue.ofInt? x with
  | some x =>
      match x.add (.finite (-mean)) with
      | .finite deviation => (math.square deviation).map .finite
      | deviation => some (absolute deviation)
  | none => none

def variance (mean : ℚ) (historicalValues : List Int) : Option FloatValue := do
  let squares ← historicalValues.mapM (math.squaredDeviation mean)
  return (math.sum squares).div (.finite (historicalValues.length - 1))

end FloatMath

/-- The mean of integers, if there is a double near it. -/
def meanOf (historicalValues : List Int) : Option ℚ :=
  match FloatValue.nearest (historicalValues.sum / historicalValues.length) with
  | .finite mean => some mean
  | _ => none

/-- An overflow on the way is raised. Where the past amounts do not vary the amount itself is not
converted.
-/
def computeZscore (math : FloatMath) (value : Int) (historicalValues : List Int)
    : Except FraudError (Option FloatValue) :=
  if historicalValues.length < 2 then
    .ok none
  else do
    let mean ← orRaise (meanOf historicalValues) .overflowError
    let variance ← orRaise (math.variance mean historicalValues) .overflowError
    let std := if variance.isPositive then variance.sqrt else .finite 0
    if std.isZero then
      return some (if value = mean then .finite 0 else .infinite (value < mean))
    else
      let value ← orRaise (FloatValue.ofInt? value) .overflowError
      return some ((value.add (.finite (-mean))).div std)

namespace FraudRiskScorer

def new : FraudRiskScorer := ⟨.finite (5 / 2), 3, 5⟩

variable (scorer : FraudRiskScorer)

def duplicateSignal (distance : Option Int) : Option Signal :=
  match distance with
  | some distance =>
      if distance ≤ scorer.duplicateBitThreshold then
        some ⟨weightDuplicate, s!"DUPLICATE_RECEIPT(hamming={distance})"⟩
      else
        none
  | none => none

/-- A window total that is too large for a double has no text. -/
def splitSignal (total threshold : Option Int) (isSmurfing : Bool)
    : Except FraudError (Option Signal) :=
  match total, threshold with
  | some total, some threshold =>
      if threshold < total then do
        let text ← orRaise (centsText total) .overflowError
        return some
          (if isSmurfing then
            ⟨weightSmurfing, s!"SMURFING_COLLUSION(window_total=${text})"⟩
          else
            ⟨weightSplit, s!"SPLIT_TRANSACTION(window_total=${text})"⟩)
      else
        .ok none
  | _, _ => .ok none

def categorySignal (categoryAnomaly : Bool) : Option Signal :=
  if categoryAnomaly then some ⟨weightCategoryAnomaly, "MERCHANT_CATEGORY_ANOMALY"⟩ else none

def amountSignal (zscore : Option FloatValue) : Option Signal :=
  match zscore with
  | some zscore =>
      if scorer.zscoreThreshold.le (absolute zscore) then
        some ⟨weightAmountAnomaly, s!"AMOUNT_ANOMALY(z={zscore.fixed 2 (isNegative zscore)})"⟩
      else
        none
  | none => none

def velocitySignal (hourlyTxCount : Int) : Option Signal :=
  if scorer.velocityThreshold < hourlyTxCount then
    some ⟨weightVelocity, s!"HIGH_VELOCITY(count={hourlyTxCount}/hr)"⟩
  else
    none

/-- The z-score of the amount, from two past amounts on. -/
def zscoreOf (math : FloatMath) (request : ScoreRequest) : Except FraudError (Option FloatValue) :=
  if 2 ≤ request.historicalAmountsScaled.length then
    computeZscore math request.amountScaled request.historicalAmountsScaled
  else
    .ok none

/-- The signals of a transaction in the order in which they are evaluated. -/
def score (math : FloatMath) (now : Instant) (request : ScoreRequest)
    : Except FraudError RiskScoreResult := do
  let duplicate := scorer.duplicateSignal request.duplicateHammingDistance
  let split ←
    splitSignal request.splitWindowTotalScaled request.splitThresholdScaled request.isSmurfing
  let category := categorySignal request.categoryAnomaly
  let zscore ← zscoreOf math request
  let amount := scorer.amountSignal zscore
  let velocity := scorer.velocitySignal request.hourlyTxCount
  let rawScore :=
    pointsOf duplicate + pointsOf split + pointsOf category + pointsOf amount + pointsOf velocity
  let compositeScore := min rawScore 100
  return {
    transactionId := request.transactionId
    tenantId := request.tenantId
    custodianId := request.custodianId
    compositeScore
    riskLevel := scoreToLevel compositeScore
    duplicateReceiptFlag := duplicate.isSome
    duplicateHammingDistance := request.duplicateHammingDistance
    splitTransactionFlag := split.isSome
    splitWindowTotalScaled := request.splitWindowTotalScaled
    amountAnomalyFlag := amount.isSome
    amountZscore := zscore
    velocityFlag := velocity.isSome
    hourlyTxCount := request.hourlyTxCount
    categoryAnomalyFlag := request.categoryAnomaly
    smurfingFlag := request.isSmurfing
    triggeredSignals :=
      [duplicate, split, category, amount, velocity].filterMap (·.map Signal.text)
    evaluatedAt := now.isoformat
  }

/-! ### Points -/

/-- A signal has the points of its kind if it fires, and none otherwise. -/
def Worth (points : Nat) (signal : Option Signal) : Prop :=
  pointsOf signal = if signal.isSome then points else 0

theorem duplicateSignal_worth (distance : Option Int)
    : Worth 50 (scorer.duplicateSignal distance) := by
  unfold duplicateSignal
  split
  · split <;> rfl
  · rfl

/-- Smurfing is worth as much as a split. -/
theorem splitSignal_worth {total threshold : Option Int} {isSmurfing : Bool}
    {signal : Option Signal} (evaluated : splitSignal total threshold isSmurfing = .ok signal)
    : Worth 30 signal := by
  unfold splitSignal at evaluated
  split at evaluated
  · split at evaluated
    · obtain ⟨text, _, fired⟩ := bind_ok evaluated
      obtain rfl := Except.ok.inj fired
      cases isSmurfing <;> rfl
    · obtain rfl := Except.ok.inj evaluated
      rfl
  · obtain rfl := Except.ok.inj evaluated
    rfl

theorem categorySignal_worth (categoryAnomaly : Bool)
    : Worth 15 (categorySignal categoryAnomaly) := by
  cases categoryAnomaly <;> rfl

theorem amountSignal_worth (zscore : Option FloatValue)
    : Worth 10 (scorer.amountSignal zscore) := by
  unfold amountSignal
  split
  · split <;> rfl
  · rfl

theorem velocitySignal_worth (hourlyTxCount : Int)
    : Worth 10 (scorer.velocitySignal hourlyTxCount) := by
  unfold velocitySignal
  split <;> rfl

theorem categorySignal_isSome (categoryAnomaly : Bool)
    : (categorySignal categoryAnomaly).isSome = categoryAnomaly := by
  cases categoryAnomaly <;> rfl

/-- What the flags of a result say about its score: it is blocked for a duplicate, or for a split
beside which two of the weaker signals fire, and it is critical only for a duplicate beside which
a split or all of the weaker signals fire.
-/
structure Weighed (result : RiskScoreResult) : Prop where
  bounded : result.compositeScore ≤ 100
  blocked
    : result.isBlocked
      ↔ result.duplicateReceiptFlag
        ∨ result.splitTransactionFlag
          ∧ Bool.atLeastTwo result.categoryAnomalyFlag result.amountAnomalyFlag result.velocityFlag
  critical
    : result.riskLevel = .critical
      ↔ result.duplicateReceiptFlag
        ∧ (result.splitTransactionFlag
          ∨ result.categoryAnomalyFlag ∧ result.amountAnomalyFlag ∧ result.velocityFlag)
  signals
    : result.triggeredSignals.length
      = [result.duplicateReceiptFlag, result.splitTransactionFlag, result.categoryAnomalyFlag,
          result.amountAnomalyFlag, result.velocityFlag].count true

/-- A result is weighed by its flags alone. -/
theorem score_weighed {math : FloatMath} {now : Instant} {request : ScoreRequest}
    {result : RiskScoreResult} (scored : scorer.score math now request = .ok result)
    : Weighed result := by
  obtain ⟨split, evaluated, scored⟩ := bind_ok scored
  obtain ⟨zscore, _, scored⟩ := bind_ok scored
  obtain rfl := Except.ok.inj scored
  have duplicateWorth := scorer.duplicateSignal_worth request.duplicateHammingDistance
  have splitWorth := splitSignal_worth evaluated
  have categoryWorth := categorySignal_worth request.categoryAnomaly
  have amountWorth := scorer.amountSignal_worth zscore
  have velocityWorth := scorer.velocitySignal_worth request.hourlyTxCount
  have category := categorySignal_isSome request.categoryAnomaly
  generalize scorer.duplicateSignal request.duplicateHammingDistance = duplicate at *
  generalize categorySignal request.categoryAnomaly = categorySignal at *
  generalize scorer.amountSignal zscore = amount at *
  generalize scorer.velocitySignal request.hourlyTxCount = velocity at *
  unfold Worth at *
  constructor
  · exact min_le_right _ _
  · simp only [duplicateWorth, splitWorth, categoryWorth, amountWorth, velocityWorth, ← category,
      RiskScoreResult.isBlocked, scoreToLevel]
    cases duplicate.isSome <;> cases split.isSome <;> cases categorySignal.isSome <;>
      cases amount.isSome <;> cases velocity.isSome <;> decide
  · simp only [duplicateWorth, splitWorth, categoryWorth, amountWorth, velocityWorth, ← category,
      scoreToLevel]
    cases duplicate.isSome <;> cases split.isSome <;> cases categorySignal.isSome <;>
      cases amount.isSome <;> cases velocity.isSome <;> decide
  · have fires (signal : Option Signal) (rest : List (Option Signal))
        : ((signal :: rest).filterMap (·.map Signal.text)).length
          = (if signal.isSome then 1 else 0) + (rest.filterMap (·.map Signal.text)).length := by
      cases signal with
      | none => simp
      | some signal => simp [Nat.add_comm]
    simp only [fires, List.filterMap_nil, List.length_nil, List.count_cons, List.count_nil,
      ← category]
    cases duplicate.isSome <;> cases split.isSome <;> cases categorySignal.isSome <;>
      cases amount.isSome <;> cases velocity.isSome <;> rfl

end FraudRiskScorer

/-! ### Scores that cannot be computed -/

/-- From two past amounts on a z-score overflows whose mean, one of whose past amounts or squared
deviations is beyond the doubles, or the amount itself where the past ones vary.
-/
def ZscoreOverflows (math : FloatMath) (value : Int) (historicalValues : List Int) : Prop :=
  2 ≤ historicalValues.length
  ∧ (meanOf historicalValues = none
    ∨ ∃ mean ∈ meanOf historicalValues,
        (∃ x ∈ historicalValues, math.squaredDeviation mean x = none)
        ∨ FloatValue.ofInt? value = none
          ∧ ∃ variance ∈ math.variance mean historicalValues, variance.isPositive)

section Zscore

variable {math : FloatMath} {value : Int} {historicalValues : List Int}

theorem variance_eq_none_iff {mean : ℚ}
    : math.variance mean historicalValues = none
      ↔ ∃ x ∈ historicalValues, math.squaredDeviation mean x = none := by
  have mapped : historicalValues.mapM (math.squaredDeviation mean) = none
      ↔ ∃ x ∈ historicalValues, math.squaredDeviation mean x = none := by
    induction historicalValues with
    | nil => simp
    | cons x rest ih =>
        rw [List.mapM_cons, List.exists_mem_cons_iff, ← ih]
        cases math.squaredDeviation mean x with
        | none => simp
        | some square => cases rest.mapM (math.squaredDeviation mean) <;> simp
  rw [← mapped, FloatMath.variance]
  cases historicalValues.mapM (math.squaredDeviation mean) <;> simp

theorem computeZscore_error_iff
    : (∃ error, computeZscore math value historicalValues = .error error)
      ↔ ZscoreOverflows math value historicalValues := by
  unfold computeZscore ZscoreOverflows
  by_cases few : historicalValues.length < 2
  · simp [few]
  · rw [if_neg few, and_iff_right (not_lt.mp few)]
    cases meanOf historicalValues with
    | none => simp [orRaise, bind, Except.bind]
    | some mean =>
        simp only [orRaise, bind, Except.bind, Option.mem_some_iff, exists_eq_left',
          ← variance_eq_none_iff, reduceCtorEq, false_or]
        cases math.variance mean historicalValues with
        | none => simp
        | some variance =>
            cases varies : variance.isPositive with
            | false => simp [varies, FloatValue.isZero, pure, Except.pure]
            | true =>
                have root := FloatValue.sqrt_isZero varies
                cases FloatValue.ofInt? value <;> simp [varies, root, pure, Except.pure]

theorem ofInt?_of_small {x : Int} (small : |x| < 2 ^ 256)
    : ∃ rounded, FloatValue.ofInt? x = some (.finite rounded) ∧ |rounded| < 2 ^ (256 + 1) := by
  have cast : |(x : ℚ)| < 2 ^ 256 := by exact_mod_cast small
  obtain ⟨rounded, finite, size⟩ := FloatValue.nearest_size cast (by norm_num)
  exact ⟨rounded, by rw [FloatValue.ofInt?, finite], size⟩

theorem meanOf_of_small (past : historicalValues ≠ [])
    (small : ∀ x ∈ historicalValues, |x| < 2 ^ 256)
    : ∃ mean, meanOf historicalValues = some mean ∧ |mean| < 2 ^ (256 + 1) := by
  have count : (0 : ℚ) < historicalValues.length := by
    exact_mod_cast List.length_pos_iff.mpr past
  have sum : |historicalValues.sum| < 2 ^ 256 * historicalValues.length := by
    clear count
    induction historicalValues with
    | nil => exact absurd rfl past
    | cons x rest ih =>
        obtain ⟨first, others⟩ := List.forall_mem_cons.mp small
        rw [List.sum_cons, List.length_cons, Nat.cast_succ, mul_add, mul_one, add_comm]
        refine (abs_add_le _ _).trans_lt (add_lt_add_of_le_of_lt ?_ first)
        cases rest with
        | nil => rfl
        | cons _ _ => exact (ih (List.cons_ne_nil _ _) others).le
  have total : |(historicalValues.sum / historicalValues.length : ℚ)| < 2 ^ 256 := by
    rw [abs_div, abs_of_pos count, div_lt_iff₀ count]
    exact_mod_cast sum
  obtain ⟨mean, near, size⟩ := FloatValue.nearest_size total (by norm_num)
  exact ⟨mean, by rw [meanOf, near], size⟩

/-- Amounts of up to 256 bits are far from any overflow. -/
theorem not_zscoreOverflows (squares : ∀ x : ℚ, |x| < 2 ^ 300 → (math.square x).isSome)
    (small : ∀ x ∈ value :: historicalValues, |x| < 2 ^ 256)
    : ¬ ZscoreOverflows math value historicalValues := by
  rintro ⟨two, overflows⟩
  obtain ⟨own, past⟩ := List.forall_mem_cons.mp small
  obtain ⟨mean, middle, meanSize⟩ := meanOf_of_small (List.length_pos_iff.mp (by omega)) past
  rw [middle] at overflows
  simp only [reduceCtorEq, Option.mem_some_iff, exists_eq_left', false_or] at overflows
  rcases overflows with ⟨x, old, overflow⟩ | ⟨overflow, _⟩
  · obtain ⟨rounded, converted, size⟩ := ofInt?_of_small (past x old)
    have far : |rounded + -mean| < 2 ^ (257 + 1) := by
      calc
        |rounded + -mean| ≤ |rounded| + |-mean| := abs_add_le _ _
        _ < 2 ^ 257 + 2 ^ 257 := add_lt_add size (by rwa [abs_neg])
        _ = 2 ^ (257 + 1) := by rw [← two_mul, ← pow_succ']
    obtain ⟨deviation, finite, deviationSize⟩ := FloatValue.nearest_size far (by norm_num)
    have squared := squares deviation
      (deviationSize.trans (pow_lt_pow_right₀ one_lt_two (by norm_num)))
    rw [FloatMath.squaredDeviation, converted] at overflow
    dsimp only [FloatValue.add] at overflow
    rw [finite] at overflow
    rw [Option.map_eq_none_iff.mp overflow] at squared
    cases squared
  · obtain ⟨rounded, converted, _⟩ := ofInt?_of_small own
    rw [converted] at overflow
    cases overflow

end Zscore

end PettyFlow.Fraud
