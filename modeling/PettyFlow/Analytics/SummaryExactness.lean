import PettyFlow.Analytics.AggregateAgreement
import PettyFlow.Foundation.Matching

/-! The executive summary of a tenant. Its rows are exactly what the tenant's records say of each
key, they sum up to the totals, and neither other tenants nor the order of the records matter.
-/

namespace PettyFlow.Analytics

open Foundation

/-- The records of a tenant. -/
def recordsOf (tenantId : String) (records : List SpendRecord) : List SpendRecord :=
  records.filter (fun r => r.tenantId = tenantId)

/-- The amounts of the records with a key. -/
def amountsWith (dimension : SpendRecord → String) (key : String) (records : List SpendRecord)
    : List Int :=
  (records.filter (fun r => dimension r = key)).map SpendRecord.amountScaled

/-- The row of a key says of some amounts what they are. -/
structure RowOf {π : Type} (amounts : List Int) (key : String) (row : AggregatedMetric π)
    : Prop where
  key : row.dimensionKey = key
  total : row.totalSpendScaled = amounts.sum
  count : row.transactionCount = amounts.length
  least : ∃ least, amounts.min? = some least ∧ dollars least = .ok row.minSpendFormatted
  greatest : ∃ greatest, amounts.max? = some greatest ∧ dollars greatest = .ok row.maxSpendFormatted

/-- The rows of a dimension: one for each key of the records, and together all of them. -/
structure RowsOf {π : Type} (dimension : SpendRecord → String) (records : List SpendRecord)
    (rows : List (String × AggregatedMetric π))
    : Prop where
  once : (rows.map Prod.fst).Nodup
  keys : ∀ key, key ∈ rows.map Prod.fst ↔ ∃ r ∈ records, dimension r = key
  each : ∀ entry ∈ rows, RowOf (amountsWith dimension entry.1 records) entry.1 entry.2

/-- The rows sum up to the totals of a summary. -/
structure SumsTo {π : Type} (summary : SpendSummary π) (rows : List (String × AggregatedMetric π))
    : Prop where
  totals : (rows.map (fun entry => entry.2.totalSpendScaled)).sum = summary.totalSpendScaled
  counts : (rows.map (fun entry => entry.2.transactionCount)).sum = summary.totalTransactions

/-- A summary is that of some records, in all dimensions. -/
structure SummaryOf {π : Type} (records : List SpendRecord) (summary : SpendSummary π) : Prop where
  total : summary.totalSpendScaled = (records.map SpendRecord.amountScaled).sum
  transactions : summary.totalTransactions = records.length
  departments : RowsOf SpendRecord.department records summary.byDepartment
  categories : RowsOf SpendRecord.category records summary.byCategory
  locations : RowsOf SpendRecord.location records summary.byLocation
  conserved
    : ∀ rows ∈ [summary.byDepartment, summary.byCategory, summary.byLocation],
        SumsTo summary rows

/-- Two calls both return, and say the same, or both raise an exception. -/
def SameOutcome {π : Type} (left right : Except AnalyticsError (SpendSummary π)) : Prop :=
  match left, right with
  | .ok left, .ok right => SameSummary left right
  | .error _, .error _ => True
  | .ok _, .error _ | .error _, .ok _ => False

section Totals

/-- What a weight of the accumulators sums up to grows with every record by its share. -/
theorem addOrStartAll_total (weight : Accumulator → Int) (share : Int → Int)
    (first : ∀ amount, weight (.first amount) = share amount)
    (add : ∀ e amount, weight (e.add amount) = weight e + share amount)
    (accum : Dict String Accumulator) (entries : List (String × Int))
    : (addOrStartAll accum entries).total (fun _ => weight)
      = accum.total (fun _ => weight) + (entries.map (fun entry => share entry.2)).sum := by
  induction entries generalizing accum with
  | nil => simp [addOrStartAll]
  | cons entry rest ih =>
      have later
          : addOrStartAll accum (entry :: rest)
            = addOrStartAll (addOrStart accum entry.1 entry.2) rest :=
        rfl
      have step
          : (addOrStart accum entry.1 entry.2).total (fun _ => weight)
            = accum.total (fun _ => weight) + share entry.2 := by
        unfold addOrStart
        cases found : accum.get? entry.1 with
        | none =>
            dsimp only
            have changed := accum.total_set entry.1 (.first entry.2) (fun _ => weight)
            rw [found, Option.elim_none, add_zero, first] at changed
            exact changed
        | some e =>
            dsimp only
            have changed := accum.total_set entry.1 (e.add entry.2) (fun _ => weight)
            rw [found, Option.elim_some, add] at changed
            omega
      rw [later, ih, step, List.map_cons, List.sum_cons, add_assoc]

/-- The accumulator of some amounts holds their sum, number, minimum and maximum. -/
theorem startWith_eq_some {amounts : List Int} {e : Accumulator}
    (started : startWith amounts = some e)
    : e.totalSpend = amounts.sum ∧ e.transactionCount = amounts.length
      ∧ amounts.min? = some e.minSpend ∧ amounts.max? = some e.maxSpend := by
  cases amounts with
  | nil => cases started
  | cons amount rest =>
      cases started
      rw [Accumulator.addAll_eq]
      simp only [Accumulator.first, List.sum_cons, List.length_cons, List.min?_cons',
        List.max?_cons', Nat.cast_add, Nat.cast_one, true_and, and_true]
      exact add_comm _ _

theorem startWith_eq_none {amounts : List Int} : startWith amounts = none ↔ amounts = [] := by
  cases amounts <;> simp [startWith]

/-- The accumulator of some amounts does not depend on their order. -/
theorem startWith_perm {amounts more : List Int} (perm : amounts.Perm more)
    : startWith amounts = startWith more := by
  cases left : startWith amounts with
  | none =>
      rw [startWith_eq_none.mp left] at perm
      exact (startWith_eq_none.mpr perm.symm.eq_nil).symm
  | some e =>
      cases right : startWith more with
      | none =>
          rw [startWith_eq_none.mp right] at perm
          rw [startWith_eq_none.mpr perm.eq_nil] at left
          exact left.symm
      | some e' =>
          obtain ⟨total, count, least, greatest⟩ := startWith_eq_some left
          obtain ⟨total', count', least', greatest'⟩ := startWith_eq_some right
          -- Minimum and maximum are determined by membership, which does not depend on the order
          obtain ⟨leastMem, isLeast⟩ := List.min?_eq_some_iff.mp least
          obtain ⟨leastMem', isLeast'⟩ := List.min?_eq_some_iff.mp least'
          obtain ⟨greatestMem, isGreatest⟩ := List.max?_eq_some_iff.mp greatest
          obtain ⟨greatestMem', isGreatest'⟩ := List.max?_eq_some_iff.mp greatest'
          have sameTotal : e.totalSpend = e'.totalSpend := by rw [total, total', perm.sum_eq]
          have sameCount : e.transactionCount = e'.transactionCount := by
            rw [count, count', perm.length_eq]
          have sameLeast : e.minSpend = e'.minSpend :=
            le_antisymm (isLeast _ (perm.mem_iff.mpr leastMem'))
              (isLeast' _ (perm.mem_iff.mp leastMem))
          have sameGreatest : e.maxSpend = e'.maxSpend :=
            le_antisymm (isGreatest' _ (perm.mem_iff.mp greatestMem))
              (isGreatest _ (perm.mem_iff.mpr greatestMem'))
          cases e
          cases e'
          exact congrArg some
            (Accumulator.mk.injEq .. ▸ ⟨sameTotal, sameCount, sameLeast, sameGreatest⟩)

theorem amountsOf_entriesOf (dimension : SpendRecord → String) (key : String)
    (records : List SpendRecord)
    : amountsOf (entriesOf dimension records) key = amountsWith dimension key records := by
  simp only [amountsOf, entriesOf, amountsWith, List.filter_map, List.map_map]
  rfl

/-- What the loop collects for a key are the amounts of the records with that key. -/
theorem collected_get? (dimension : SpendRecord → String) (records : List SpendRecord)
    (key : String)
    : (addOrStartAll .empty (entriesOf dimension records)).get? key
      = startWith (amountsWith dimension key records) := by
  rw [addOrStartAll_get?, Dict.get?_empty, amountsOf_entriesOf]

end Totals

section Rows

variable {π : Type} {percentage : Int → Int → π} {totalSpend : Int}

/-- What a row of an accumulator says. -/
theorem metricRow_ok {key : String} {e : Accumulator} {row : AggregatedMetric π}
    (made : metricRow percentage totalSpend key e = .ok row)
    : row.dimensionKey = key ∧ row.totalSpendScaled = e.totalSpend
      ∧ row.transactionCount = e.transactionCount
      ∧ dollars e.minSpend = .ok row.minSpendFormatted
      ∧ dollars e.maxSpend = .ok row.maxSpendFormatted := by
  obtain ⟨totalText, _, made⟩ := bind_ok made
  obtain ⟨averageText, _, made⟩ := bind_ok made
  obtain ⟨minText, least, made⟩ := bind_ok made
  obtain ⟨maxText, greatest, made⟩ := bind_ok made
  cases made
  exact ⟨rfl, rfl, rfl, least, greatest⟩

/-- The rows of a list are those of its entries, one by one. -/
theorem metricRows_forall₂ {l : List (String × Accumulator)}
    {rows : List (String × AggregatedMetric π)}
    (made : metricRows percentage totalSpend l = .ok rows)
    : List.Forall₂
        (fun entry row =>
          entry.1 = row.1 ∧ metricRow percentage totalSpend entry.1 entry.2 = .ok row.2)
        l rows := by
  induction l generalizing rows with
  | nil =>
      obtain rfl := Except.ok.inj made
      exact .nil
  | cons entry rest ih =>
      obtain ⟨row, madeRow, made⟩ := bind_ok made
      obtain ⟨others, madeOthers, made⟩ := bind_ok made
      cases made
      exact .cons ⟨rfl, madeRow⟩ (ih madeOthers)

theorem metricRows_isOk {l : List (String × Accumulator)}
    (each : ∀ entry ∈ l, ∃ row, metricRow percentage totalSpend entry.1 entry.2 = .ok row)
    : ∃ rows, metricRows percentage totalSpend l = .ok rows := by
  induction l with
  | nil => exact ⟨[], rfl⟩
  | cons entry rest ih =>
      obtain ⟨row, madeRow⟩ := each entry List.mem_cons_self
      obtain ⟨rows, madeRows⟩ := ih (fun other later => each other (List.mem_cons_of_mem _ later))
      refine ⟨(entry.1, row) :: rows, ?_⟩
      simp only [metricRows, madeRow, madeRows, bind, Except.bind, pure, Except.pure]

/-- The rows of what the loop collected from some records. -/
theorem rows_collected (dimension : SpendRecord → String) (records : List SpendRecord)
    {rows : List (String × AggregatedMetric π)}
    (made
      : metricRows percentage totalSpend
          (addOrStartAll .empty (entriesOf dimension records)).entries
        = .ok rows)
    : RowsOf dimension records rows
      ∧ (rows.map (fun entry => entry.2.totalSpendScaled)).sum
        = (records.map SpendRecord.amountScaled).sum
      ∧ (rows.map (fun entry => entry.2.transactionCount)).sum = records.length := by
  have matching := metricRows_forall₂ made
  have keys
      : (addOrStartAll .empty (entriesOf dimension records)).entries.map Prod.fst
        = rows.map Prod.fst :=
    Matching.map_eq matching (fun _ _ both => both.1)
  -- An accumulator is listed exactly when its key has amounts, and it holds all of them
  have listed (key : String) (e : Accumulator)
      : (key, e) ∈ (addOrStartAll .empty (entriesOf dimension records)).entries
        ↔ startWith (amountsWith dimension key records) = some e := by
    rw [Dict.mem_entries_iff, collected_get?]
  refine ⟨⟨keys ▸ Dict.keysUnique _, fun key => ?_, fun entry member => ?_⟩, ?_, ?_⟩
  · have some_ : (∃ e, startWith (amountsWith dimension key records) = some e)
        ↔ amountsWith dimension key records ≠ [] := by
      cases amountsWith dimension key records <;> simp [startWith]
    simp only [← keys, List.mem_map, Prod.exists, exists_and_right, exists_eq_right, listed, some_]
    simp [amountsWith, List.filter_eq_nil_iff]
  · obtain ⟨⟨key, e⟩, found, rfl, madeRow⟩ := Matching.exists_left matching member
    obtain ⟨total, count, least, greatest⟩ := startWith_eq_some ((listed _ e).mp found)
    obtain ⟨named, rowTotal, rowCount, minText, maxText⟩ := metricRow_ok madeRow
    exact {
      key := named
      total := rowTotal.trans total
      count := rowCount.trans count
      least := ⟨e.minSpend, least, minText⟩
      greatest := ⟨e.maxSpend, greatest, maxText⟩
    }
  · have same
        : (addOrStartAll .empty (entriesOf dimension records)).entries.map (·.2.totalSpend)
          = rows.map (·.2.totalSpendScaled) :=
      Matching.map_eq matching (fun _ _ both => (metricRow_ok both.2).2.1.symm)
    -- Collecting an amount adds it to the total of all accumulators
    have grown :=
      addOrStartAll_total Accumulator.totalSpend id (fun _ => rfl) (fun _ _ => rfl) .empty
        (entriesOf dimension records)
    rw [Dict.total, same, Dict.total_empty, zero_add] at grown
    rw [grown, entriesOf, List.map_map]
    rfl
  · have same
        : (addOrStartAll .empty (entriesOf dimension records)).entries.map (·.2.transactionCount)
          = rows.map (·.2.transactionCount) :=
      Matching.map_eq matching (fun _ _ both => (metricRow_ok both.2).2.2.1.symm)
    have grown :=
      addOrStartAll_total Accumulator.transactionCount (fun _ => 1) (fun _ => rfl)
        (fun _ _ => rfl) .empty (entriesOf dimension records)
    rw [Dict.total, same, Dict.total_empty, zero_add] at grown
    rw [grown]
    simp [entriesOf, Function.comp_def]

/-- Accumulators with the same lookups give rows that read the same. -/
theorem metricRows_congr {d d' : Dict String Accumulator}
    (same : ∀ key, d.get? key = d'.get? key) {rows : List (String × AggregatedMetric π)}
    (made : metricRows percentage totalSpend d.entries = .ok rows)
    : ∃ rows', metricRows percentage totalSpend d'.entries = .ok rows' ∧ SameRows rows rows' := by
  have made' : ∃ rows', metricRows percentage totalSpend d'.entries = .ok rows' := by
    -- A row is made from its own key and accumulator, which the first dictionary has as well
    apply metricRows_isOk
    rintro ⟨key, e⟩ member
    have found : d.get? key = some e := (same key).trans ((Dict.mem_entries_iff _ _ _).mp member)
    have row := metricRows_find made key
    rw [← Dict.get?, found] at row
    obtain ⟨row, madeRow, _⟩ := row
    exact ⟨row, madeRow⟩
  obtain ⟨rows', made'⟩ := made'
  refine ⟨rows', made', fun key => ?_⟩
  have left := metricRows_find made key
  have right := metricRows_find made' key
  rw [← Dict.get?, same] at left
  rw [← Dict.get?] at right
  cases found : d'.get? key with
  | none =>
      rw [found] at left right
      exact left.trans right.symm
  | some e =>
      rw [found] at left right
      obtain ⟨row, madeRow, listed⟩ := left
      obtain ⟨row', madeRow', listed'⟩ := right
      obtain rfl := Except.ok.inj (madeRow.symm.trans madeRow')
      exact listed.trans listed'.symm

end Rows

section Summaries

variable {π : Type} {percentage : Int → Int → π} {tenantId : String} {records : List SpendRecord}

/-- What the loop collects from the records of one tenant. -/
def collected (own : List SpendRecord) : Accumulators where
  departments := addOrStartAll .empty (entriesOf SpendRecord.department own)
  categories := addOrStartAll .empty (entriesOf SpendRecord.category own)
  locations := addOrStartAll .empty (entriesOf SpendRecord.location own)

/-- The loop skips all records of other tenants. -/
theorem getExecutiveSummary_eq (percentage : Int → Int → π) (records : List SpendRecord)
    (tenantId : String)
    : getExecutiveSummary percentage records tenantId
      = summarize percentage id tenantId
          ((recordsOf tenantId records).map SpendRecord.amountScaled).sum
          (recordsOf tenantId records).length (collected (recordsOf tenantId records)) := by
  have skipped (t : PlainTotals)
      : records.foldl (addRecord tenantId) t
        = (recordsOf tenantId records).foldl (addRecord tenantId) t := by
    rw [recordsOf, List.foldl_filter]
    congr 1
    funext t r
    by_cases own : r.tenantId = tenantId <;> simp [addRecord, own]
  have own : ∀ r ∈ recordsOf tenantId records, r.tenantId = tenantId :=
    fun r member => of_decide_eq_true (List.mem_filter.mp member).2
  unfold getExecutiveSummary
  simp only [skipped, foldl_addRecord own, PlainTotals.start, Accumulators.empty, zero_add]
  rfl

theorem recordsOf_recordsOf
    : recordsOf tenantId (recordsOf tenantId records) = recordsOf tenantId records := by
  unfold recordsOf
  rw [List.filter_filter]
  exact List.filter_congr (by simp)

/-- A summary that is made of some records is theirs. -/
theorem summarize_summaryOf {own : List SpendRecord} {summary : SpendSummary π}
    (made
      : summarize percentage id tenantId (own.map SpendRecord.amountScaled).sum own.length
          (collected own)
        = .ok summary)
    : SummaryOf own summary := by
  obtain ⟨byDepartment, rowsDepartment, made⟩ := bind_ok made
  obtain ⟨byCategory, rowsCategory, made⟩ := bind_ok made
  obtain ⟨byLocation, rowsLocation, made⟩ := bind_ok made
  obtain ⟨totalText, _, made⟩ := bind_ok made
  obtain ⟨averageText, _, made⟩ := bind_ok made
  cases made
  simp only [id_eq, Prod.mk.eta, List.map_id'] at rowsDepartment rowsCategory rowsLocation
  obtain ⟨departments, departmentTotals, departmentCounts⟩ := rows_collected _ _ rowsDepartment
  obtain ⟨categories, categoryTotals, categoryCounts⟩ := rows_collected _ _ rowsCategory
  obtain ⟨locations, locationTotals, locationCounts⟩ := rows_collected _ _ rowsLocation
  refine ⟨rfl, rfl, departments, categories, locations, fun rows listed => ?_⟩
  simp only [List.mem_cons, List.not_mem_nil, or_false] at listed
  rcases listed with rfl | rfl | rfl
  · exact ⟨departmentTotals, departmentCounts⟩
  · exact ⟨categoryTotals, categoryCounts⟩
  · exact ⟨locationTotals, locationCounts⟩

/-- A summary does not depend on how its accumulators are listed. -/
theorem summarize_congr {totalSpend count : Int} {acc acc' : Accumulators}
    (departments : ∀ key, acc.departments.get? key = acc'.departments.get? key)
    (categories : ∀ key, acc.categories.get? key = acc'.categories.get? key)
    (locations : ∀ key, acc.locations.get? key = acc'.locations.get? key)
    {summary : SpendSummary π}
    (made : summarize percentage id tenantId totalSpend count acc = .ok summary)
    : ∃ other,
        summarize percentage id tenantId totalSpend count acc' = .ok other
        ∧ SameSummary summary other := by
  obtain ⟨byDepartment, rowsDepartment, made⟩ := bind_ok made
  obtain ⟨byCategory, rowsCategory, made⟩ := bind_ok made
  obtain ⟨byLocation, rowsLocation, made⟩ := bind_ok made
  obtain ⟨totalText, total, made⟩ := bind_ok made
  obtain ⟨averageText, average, made⟩ := bind_ok made
  cases made
  simp only [id_eq, Prod.mk.eta, List.map_id'] at rowsDepartment rowsCategory rowsLocation
  obtain ⟨departmentRows, madeDepartment, sameDepartment⟩ :=
    metricRows_congr departments rowsDepartment
  obtain ⟨categoryRows, madeCategory, sameCategory⟩ := metricRows_congr categories rowsCategory
  obtain ⟨locationRows, madeLocation, sameLocation⟩ := metricRows_congr locations rowsLocation
  refine ⟨⟨tenantId, totalSpend, totalText, count, averageText, departmentRows, categoryRows,
    locationRows⟩, ?_, rfl, rfl, rfl, rfl, rfl, sameDepartment, sameCategory, sameLocation⟩
  simp only [summarize, id_eq, Prod.mk.eta, List.map_id', madeDepartment, madeCategory,
    madeLocation, total, average, bind, Except.bind, pure, Except.pure]

/-- In whatever order records come, each key collects the same amounts. -/
theorem collected_perm (dimension : SpendRecord → String) {own other : List SpendRecord}
    (perm : own.Perm other) (key : String)
    : (addOrStartAll .empty (entriesOf dimension own)).get? key
      = (addOrStartAll .empty (entriesOf dimension other)).get? key := by
  rw [collected_get?, collected_get?]
  exact startWith_perm ((perm.filter _).map _)

theorem getExecutiveSummary_perm {own other : List SpendRecord} (perm : own.Perm other)
    {summary : SpendSummary π} (made : getExecutiveSummary percentage own tenantId = .ok summary)
    : ∃ again,
        getExecutiveSummary percentage other tenantId = .ok again
        ∧ SameSummary summary again := by
  have filtered : (recordsOf tenantId own).Perm (recordsOf tenantId other) := perm.filter _
  rw [getExecutiveSummary_eq] at made ⊢
  rw [← (filtered.map SpendRecord.amountScaled).sum_eq, ← filtered.length_eq]
  exact summarize_congr (collected_perm _ filtered) (collected_perm _ filtered)
    (collected_perm _ filtered) made

end Summaries

section Returning

variable {π : Type} {percentage : Int → Int → π} {tenantId : String}

/-- The sum of the magnitudes of some amounts. -/
def magnitude (amounts : List Int) : Nat := (amounts.map Int.natAbs).sum

theorem natAbs_sum_le (amounts : List Int) : amounts.sum.natAbs ≤ magnitude amounts := by
  unfold magnitude
  induction amounts with
  | nil => exact le_rfl
  | cons amount rest ih =>
      rw [List.sum_cons, List.map_cons, List.sum_cons]
      have split := Int.natAbs_add_le amount rest.sum
      omega

theorem natAbs_le_magnitude {amount : Int} {amounts : List Int} (member : amount ∈ amounts)
    : amount.natAbs ≤ magnitude amounts :=
  List.single_le_sum (fun _ _ => Nat.zero_le _) _ (List.mem_map_of_mem member)

theorem magnitude_with_le (dimension : SpendRecord → String) (key : String)
    (own : List SpendRecord)
    : magnitude (amountsWith dimension key own) ≤ magnitude (own.map SpendRecord.amountScaled) :=
  ((List.filter_sublist.map SpendRecord.amountScaled).map Int.natAbs).sum_le_sum
    (fun _ _ => Nat.zero_le _)

/-- Amounts far below the largest double have texts. -/
theorem dollars_isOk {amount : Int} (small : amount.natAbs < 2 ^ 256)
    : (∃ text, dollars amount = .ok text) ∧ ∃ text, floatDollars amount = .ok text := by
  obtain ⟨converted, divided⟩ := texts_isSome small
  obtain ⟨floatText, floatFound⟩ := Option.isSome_iff_exists.mp converted
  obtain ⟨text, found⟩ := Option.isSome_iff_exists.mp divided
  constructor
  · exact ⟨_, by rw [dollars, found, orRaise, Except.map]⟩
  · exact ⟨_, by rw [floatDollars, floatFound, orRaise, Except.map]⟩

theorem metricRow_isOk {totalSpend : Int} (key : String) {amounts : List Int} {e : Accumulator}
    (started : startWith amounts = some e) (small : magnitude amounts < 2 ^ 256)
    : ∃ row, metricRow percentage totalSpend key e = .ok row := by
  obtain ⟨total, _, least, greatest⟩ := startWith_eq_some started
  have totalSmall : e.totalSpend.natAbs < 2 ^ 256 :=
    total ▸ (natAbs_sum_le amounts).trans_lt small
  have averageSmall
      : (averageTicketScaled e.totalSpend e.transactionCount).natAbs < 2 ^ 256 := by
    unfold averageTicketScaled
    split
    · exact (Int.natAbs_ediv_le_natAbs _ _).trans_lt totalSmall
    · decide
  have leastSmall := (natAbs_le_magnitude (List.min?_eq_some_iff.mp least).1).trans_lt small
  have greatestSmall := (natAbs_le_magnitude (List.max?_eq_some_iff.mp greatest).1).trans_lt small
  obtain ⟨totalText, first⟩ := (dollars_isOk totalSmall).2
  obtain ⟨averageText, second⟩ := (dollars_isOk averageSmall).2
  obtain ⟨minText, third⟩ := (dollars_isOk leastSmall).1
  obtain ⟨maxText, fourth⟩ := (dollars_isOk greatestSmall).1
  simp only [metricRow, first, second, third, fourth, bind, Except.bind]
  exact ⟨_, rfl⟩

theorem collected_isOk (percentage : Int → Int → π) (totalSpend : Int)
    (dimension : SpendRecord → String) {own : List SpendRecord}
    (small : magnitude (own.map SpendRecord.amountScaled) < 2 ^ 256)
    : ∃ rows : List (String × AggregatedMetric π),
        metricRows percentage totalSpend
          (addOrStartAll .empty (entriesOf dimension own)).entries
        = .ok rows := by
  apply metricRows_isOk
  rintro ⟨key, e⟩ member
  have started : startWith (amountsWith dimension key own) = some e := by
    rw [← collected_get?]
    exact (Dict.mem_entries_iff _ _ _).mp member
  exact metricRow_isOk key started ((magnitude_with_le dimension key own).trans_lt small)

/-- A summary of amounts that are far below the largest double together is returned. -/
theorem getExecutiveSummary_isOk (percentage : Int → Int → π) {records : List SpendRecord}
    (small : magnitude ((recordsOf tenantId records).map SpendRecord.amountScaled) < 2 ^ 256)
    : ∃ summary, getExecutiveSummary percentage records tenantId = .ok summary := by
  rw [getExecutiveSummary_eq]
  generalize recordsOf tenantId records = own at small
  have totalSmall := (natAbs_sum_le (own.map SpendRecord.amountScaled)).trans_lt small
  generalize (own.map SpendRecord.amountScaled).sum = total at totalSmall
  obtain ⟨byDepartment, first⟩ := collected_isOk percentage total SpendRecord.department small
  obtain ⟨byCategory, second⟩ := collected_isOk percentage total SpendRecord.category small
  obtain ⟨byLocation, third⟩ := collected_isOk percentage total SpendRecord.location small
  obtain ⟨totalText, fourth⟩ := (dollars_isOk totalSmall).1
  have average
      : ∃ text, overallAverage total own.length = .ok text := by
    unfold overallAverage
    split
    · exact (dollars_isOk ((Int.natAbs_ediv_le_natAbs _ _).trans_lt totalSmall)).1
    · exact ⟨_, rfl⟩
  obtain ⟨averageText, fifth⟩ := average
  simp only [summarize, collected, id_eq, Prod.mk.eta, List.map_id', first, second, third, fourth,
    fifth, bind, Except.bind]
  exact ⟨_, rfl⟩

end Returning

/-- The summary of a tenant is that of the tenant's records, in every dimension, whatever other
tenants' records come between them. In any other order it is the same, or raises an exception
just as well. It is returned unless some amount is too large for a double.
-/
theorem executive_summary_exact {π : Type} (percentage : Int → Int → π)
    (records : List SpendRecord) (tenantId : String)
    : let outcome := getExecutiveSummary percentage records tenantId
      let own := recordsOf tenantId records
      (∀ summary, outcome = .ok summary → SummaryOf own summary)
        ∧ outcome = getExecutiveSummary percentage own tenantId
        ∧ (∀ other, other.Perm records →
            SameOutcome outcome (getExecutiveSummary percentage other tenantId))
        ∧ (magnitude (own.map SpendRecord.amountScaled) < 2 ^ 256 →
            ∃ summary, outcome = .ok summary) := by
  intro outcome own
  refine ⟨fun summary made => ?_, ?_, fun other perm => ?_, getExecutiveSummary_isOk percentage⟩
  · exact summarize_summaryOf ((getExecutiveSummary_eq percentage records tenantId).symm.trans made)
  · simp only [outcome, own, getExecutiveSummary_eq, recordsOf_recordsOf]
  · unfold SameOutcome outcome
    cases left : getExecutiveSummary percentage records tenantId with
    | ok summary =>
        obtain ⟨again, right, same⟩ := getExecutiveSummary_perm perm.symm left
        rw [right]
        exact same
    | error error =>
        cases right : getExecutiveSummary percentage other tenantId with
        | ok summary =>
            obtain ⟨_, returned, _⟩ := getExecutiveSummary_perm perm right
            cases left.symm.trans returned
        | error _ => trivial

end PettyFlow.Analytics
