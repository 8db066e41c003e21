import PettyFlow.Analytics.SpendAggregator

/-! The columnar and the plain path against the same reading of the records: for each key the
sum, the number, the least and the greatest of its amounts.
-/

namespace PettyFlow.Analytics

open Foundation

/-- The amounts of one key, in order. -/
def amountsOf (entries : List (String × Int)) (key : String) : List Int :=
  (entries.filter (fun entry => entry.1 = key)).map Prod.snd

@[simp] theorem amountsOf_nil (key : String) : amountsOf [] key = [] := rfl

theorem amountsOf_cons (entry : String × Int) (rest : List (String × Int)) (key : String)
    : amountsOf (entry :: rest) key
      = if entry.1 = key then entry.2 :: amountsOf rest key else amountsOf rest key := by
  by_cases same : entry.1 = key <;> simp [amountsOf, same]

theorem amountsOf_eq_nil {entries : List (String × Int)} {key : String}
    : amountsOf entries key = [] ↔ key ∉ entries.map Prod.fst := by
  simp only [amountsOf, List.map_eq_nil_iff, List.filter_eq_nil_iff, decide_eq_true_eq,
    List.mem_map, not_exists, not_and]

namespace Accumulator

def addAll (e : Accumulator) (amounts : List Int) : Accumulator := amounts.foldl add e

/-- An accumulator is the sum, the number, the least and the greatest of what was added, by
induction over the amounts.
-/
theorem addAll_eq (e : Accumulator) (amounts : List Int)
    : e.addAll amounts
      = ⟨e.totalSpend + amounts.sum, e.transactionCount + amounts.length,
          amounts.foldl min e.minSpend, amounts.foldl max e.maxSpend⟩ := by
  induction amounts generalizing e with
  | nil => simp [addAll]
  | cons amount rest ih =>
      have later : e.addAll (amount :: rest) = (e.add amount).addAll rest := rfl
      rw [later, ih]
      have least : (e.add amount).minSpend = min e.minSpend amount := by
        simp only [add]
        split <;> omega
      have greatest : (e.add amount).maxSpend = max e.maxSpend amount := by
        simp only [add]
        split <;> omega
      simp only [least, greatest, List.foldl_cons, List.sum_cons, List.length_cons, mk.injEq,
        and_self, and_true]
      simp only [add]
      omega

end Accumulator

/-- Looking up an initialised key, by induction over the keys. -/
theorem initialise_get? (column : List String) (key : String)
    : (initialise column).get? key
      = if key ∈ column then some Accumulator.initial else none := by
  have fold (keys : List String) (accum : Dict String Accumulator)
      : (keys.foldl (fun accum key => accum.set key .initial) accum).get? key
        = if key ∈ keys then some Accumulator.initial else accum.get? key := by
    induction keys generalizing accum with
    | nil => simp
    | cons head rest ih =>
        rw [List.foldl_cons, ih, Dict.get?_set]
        by_cases same : head = key
        · simp [same]
        · by_cases later : key ∈ rest <;> simp [same, later, Ne.symm same]
  simp [initialise, fold]

/-- The columnar updates of one dimension, apart from the others. -/
def addExistingAll (accum : Dict String Accumulator)
    : List (String × Int) → Except AnalyticsError (Dict String Accumulator)
  | [] => .ok accum
  | (key, amount) :: rest => do
      let accum ← addExisting accum key amount
      addExistingAll accum rest

/-- Each key collects its own amounts, by induction over the rows. -/
theorem addExistingAll_get? {accum result : Dict String Accumulator}
    {entries : List (String × Int)} (passed : addExistingAll accum entries = .ok result)
    (key : String)
    : result.get? key
      = (accum.get? key).map (fun e => e.addAll (amountsOf entries key)) := by
  induction entries generalizing accum with
  | nil =>
      obtain rfl := Except.ok.inj passed
      cases found : accum.get? key <;> simp [Accumulator.addAll]
  | cons entry rest ih =>
      obtain ⟨head, amount⟩ := entry
      obtain ⟨next, added, passed⟩ := bind_ok passed
      obtain ⟨e, found, added⟩ := bind_ok added
      cases added
      rw [ih passed, Dict.get?_set, amountsOf_cons]
      by_cases same : head = key
      · subst same
        rw [orRaise_ok found]
        simp [Accumulator.addAll]
      · simp [same]

/-- A key that is there stays there, so that no row raises. -/
theorem addExistingAll_ok {accum : Dict String Accumulator} {entries : List (String × Int)}
    (present : ∀ entry ∈ entries, ∃ e, accum.get? entry.1 = some e)
    : ∃ result, addExistingAll accum entries = .ok result := by
  induction entries generalizing accum with
  | nil => exact ⟨accum, rfl⟩
  | cons entry rest ih =>
      obtain ⟨e, found⟩ := present entry List.mem_cons_self
      have kept
          : ∀ other ∈ rest, ∃ e', (accum.set entry.1 (e.add entry.2)).get? other.1 = some e' := by
        intro other member
        rw [Dict.get?_set]
        split
        · exact ⟨_, rfl⟩
        · exact present other (List.mem_cons_of_mem _ member)
      obtain ⟨result, passed⟩ := ih kept
      refine ⟨result, ?_⟩
      simpa [addExistingAll, addExisting, found, orRaise, bind, Except.bind, pure, Except.pure]
        using passed

/-- The dimensions of the columnar path do not depend on each other. -/
theorem addColumnarRows_ok {acc result : Accumulators} {rows : List ColumnarRow}
    (passed : addColumnarRows acc rows = .ok result)
    : addExistingAll acc.departments (rows.map (fun r => (r.1, r.2.2.2)))
        = .ok result.departments
      ∧ addExistingAll acc.categories (rows.map (fun r => (r.2.1, r.2.2.2)))
        = .ok result.categories
      ∧ addExistingAll acc.locations (rows.map (fun r => (r.2.2.1, r.2.2.2)))
        = .ok result.locations := by
  induction rows generalizing acc with
  | nil =>
      cases passed
      exact ⟨rfl, rfl, rfl⟩
  | cons row rest ih =>
      obtain ⟨department, category, location, amount⟩ := row
      obtain ⟨next, added, passed⟩ := bind_ok passed
      obtain ⟨departments, addedDepartment, added⟩ := bind_ok added
      obtain ⟨categories, addedCategory, added⟩ := bind_ok added
      obtain ⟨locations, addedLocation, added⟩ := bind_ok added
      cases added
      obtain ⟨first, second, third⟩ := ih passed
      simp only [List.map_cons, addExistingAll, addedDepartment, addedCategory, addedLocation]
      exact ⟨first, second, third⟩

/-- Where every dimension passes alone, the rows pass. -/
theorem addColumnarRows_of_ok {acc : Accumulators} {rows : List ColumnarRow}
    {departments categories locations : Dict String Accumulator}
    (first
      : addExistingAll acc.departments (rows.map (fun r => (r.1, r.2.2.2))) = .ok departments)
    (second
      : addExistingAll acc.categories (rows.map (fun r => (r.2.1, r.2.2.2))) = .ok categories)
    (third
      : addExistingAll acc.locations (rows.map (fun r => (r.2.2.1, r.2.2.2))) = .ok locations)
    : addColumnarRows acc rows = .ok ⟨departments, categories, locations⟩ := by
  induction rows generalizing acc with
  | nil =>
      cases first
      cases second
      cases third
      rfl
  | cons row rest ih =>
      obtain ⟨_, addedDepartment, first⟩ := bind_ok first
      obtain ⟨_, addedCategory, second⟩ := bind_ok second
      obtain ⟨_, addedLocation, third⟩ := bind_ok third
      have later := @ih ⟨_, _, _⟩ first second third
      simpa [addColumnarRows, addColumnarRow, addedDepartment, addedCategory, addedLocation,
        bind, Except.bind, pure, Except.pure] using later

/-- The plain updates of one dimension, apart from the others. -/
def addOrStartAll (accum : Dict String Accumulator) (entries : List (String × Int))
    : Dict String Accumulator :=
  entries.foldl (fun accum entry => addOrStart accum entry.1 entry.2) accum

/-- What a key without accumulator gets from its amounts. -/
def startWith : List Int → Option Accumulator
  | [] => none
  | amount :: rest => some ((Accumulator.first amount).addAll rest)

/-- Each key collects its own amounts and starts at the first one, by induction over the
records.
-/
theorem addOrStartAll_get? (accum : Dict String Accumulator) (entries : List (String × Int))
    (key : String)
    : (addOrStartAll accum entries).get? key
      = match accum.get? key with
        | some e => some (e.addAll (amountsOf entries key))
        | none => startWith (amountsOf entries key) := by
  induction entries generalizing accum with
  | nil => cases found : accum.get? key <;> simp [addOrStartAll, found, startWith, Accumulator.addAll]
  | cons entry rest ih =>
      obtain ⟨head, amount⟩ := entry
      have later
          : addOrStartAll accum ((head, amount) :: rest)
            = addOrStartAll (addOrStart accum head amount) rest :=
        rfl
      rw [later, ih, amountsOf_cons]
      by_cases same : head = key
      · subst same
        cases found : accum.get? head <;> simp [addOrStart, found, startWith, Accumulator.addAll]
      · have kept : (addOrStart accum head amount).get? key = accum.get? key := by
          cases found : accum.get? head <;> simp [addOrStart, found, Dict.get?_set_ne, same]
        simp only [kept, same, if_false]

/-- The records of one dimension, as keys and amounts. -/
def entriesOf (key : SpendRecord → String) (records : List SpendRecord)
    : List (String × Int) :=
  records.map (fun r => (key r, r.amountScaled))

/-- The dimensions of the plain path do not depend on each other. -/
theorem foldl_addRecord {tenantId : String} {records : List SpendRecord}
    (own : ∀ r ∈ records, r.tenantId = tenantId) (t : PlainTotals)
    : records.foldl (addRecord tenantId) t
      = {
        totalSpend := t.totalSpend + (records.map SpendRecord.amountScaled).sum
        totalTx := t.totalTx + records.length
        acc := {
          departments :=
            addOrStartAll t.acc.departments (entriesOf SpendRecord.department records)
          categories := addOrStartAll t.acc.categories (entriesOf SpendRecord.category records)
          locations := addOrStartAll t.acc.locations (entriesOf SpendRecord.location records)
        }
      } := by
  induction records generalizing t with
  | nil => simp [entriesOf, addOrStartAll]
  | cons r rest ih =>
      have mine := own r List.mem_cons_self
      rw [List.foldl_cons, ih (fun other member => own other (List.mem_cons_of_mem _ member))]
      simp only [addRecord, mine, ne_eq, not_true_eq_false, if_false, entriesOf, List.map_cons,
        List.sum_cons, List.length_cons, addOrStartAll, List.foldl_cons, PlainTotals.mk.injEq,
        and_true]
      omega

/-- A key of one list of rows is listed in the other with the same row. -/
def SameRows {π : Type} (left right : List (String × AggregatedMetric π)) : Prop :=
  ∀ key, Dict.find key left = Dict.find key right

/-- Two summaries that say the same; the order of their rows does not count. -/
structure SameSummary {π : Type} (left right : SpendSummary π) : Prop where
  tenantId : left.tenantId = right.tenantId
  totalSpend : left.totalSpendScaled = right.totalSpendScaled
  totalText : left.totalSpendFormatted = right.totalSpendFormatted
  transactions : left.totalTransactions = right.totalTransactions
  averageText : left.averageTicketFormatted = right.averageTicketFormatted
  byDepartment : SameRows left.byDepartment right.byDepartment
  byCategory : SameRows left.byCategory right.byCategory
  byLocation : SameRows left.byLocation right.byLocation

/-- The least amount of every key is not above the sentinel, or reads like it. -/
def LeastVisible (entries : List (String × Int)) : Prop :=
  ∀ key least,
    (amountsOf entries key).min? = some least
    → least ≤ minSentinel ∨ dollars least = dollars minSentinel

section Rows

variable {π : Type} {percentage : Int → Int → π} {totalSpend : Int}

theorem metricRows_find {l : List (String × Accumulator)}
    {rows : List (String × AggregatedMetric π)}
    (passed : metricRows percentage totalSpend l = .ok rows) (key : String)
    : match Dict.find key l with
      | some e =>
          ∃ row,
            metricRow percentage totalSpend key e = .ok row ∧ Dict.find key rows = some row
      | none => Dict.find key rows = none := by
  induction l generalizing rows with
  | nil =>
      obtain rfl := Except.ok.inj passed
      rfl
  | cons entry rest ih =>
      obtain ⟨head, e⟩ := entry
      obtain ⟨row, made, passed⟩ := bind_ok passed
      obtain ⟨others, madeOthers, passed⟩ := bind_ok passed
      cases passed
      by_cases same : head = key
      · subst same
        simp only [Dict.find, if_true]
        exact ⟨row, made, rfl⟩
      · simpa only [Dict.find, same, if_false] using ih madeOthers

/-- Rows that differ in their minimum at most are equal when the minima read alike. -/
theorem metricRow_eq_iff {key : String} {e : Accumulator} {other : Int}
    {left right : AggregatedMetric π} (madeLeft : metricRow percentage totalSpend key e = .ok left)
    (madeRight
      : metricRow percentage totalSpend key { e with minSpend := other } = .ok right)
    : left = right ↔ dollars e.minSpend = dollars other := by
  obtain ⟨totalText, total, madeLeft⟩ := bind_ok madeLeft
  obtain ⟨averageText, average, madeLeft⟩ := bind_ok madeLeft
  obtain ⟨minText, least, madeLeft⟩ := bind_ok madeLeft
  obtain ⟨maxText, greatest, madeLeft⟩ := bind_ok madeLeft
  obtain ⟨totalText', total', madeRight⟩ := bind_ok madeRight
  obtain ⟨averageText', average', madeRight⟩ := bind_ok madeRight
  obtain ⟨minText', least', madeRight⟩ := bind_ok madeRight
  obtain ⟨maxText', greatest', madeRight⟩ := bind_ok madeRight
  obtain rfl := Except.ok.inj (total.symm.trans total')
  obtain rfl := Except.ok.inj (average.symm.trans average')
  obtain rfl := Except.ok.inj (greatest.symm.trans greatest')
  cases madeLeft
  cases madeRight
  simp only [least, least', AggregatedMetric.mk.injEq, Except.ok.injEq, true_and, and_true]

theorem find_map_entries (d : Dict String Accumulator) (shown : Accumulator → Accumulator)
    (key : String)
    : Dict.find key (d.entries.map (fun entry => (entry.1, shown entry.2)))
      = (d.get? key).map shown := by
  have listed (entries : List (String × Accumulator))
      : Dict.find key (entries.map (fun entry => (entry.1, shown entry.2)))
        = (Dict.find key entries).map shown := by
    induction entries with
    | nil => rfl
    | cons head rest ih => by_cases same : head.1 = key <;> simp [Dict.find, same, ih]
  exact listed d.entries

/-- What the two paths show of a key with positive amounts differs in the minimum at most. -/
theorem shown_eq {amount : Int} {rest : List Int} (positive : 0 < amount)
    : (Accumulator.initial.addAll (amount :: rest)).columnarShown
      = {
        (Accumulator.first amount).addAll rest with
        minSpend := min minSentinel (rest.foldl min amount)
      } := by
  have least : rest.foldl min (min minSentinel amount) = min minSentinel (rest.foldl min amount) :=
    List.foldl_assoc
  simp only [Accumulator.addAll_eq, Accumulator.columnarShown, Accumulator.initial,
    Accumulator.first, List.sum_cons, List.length_cons, List.foldl_cons, least,
    max_eq_right (le_of_lt positive), Accumulator.mk.injEq]
  push_cast
  refine ⟨by omega, by omega, ?_, trivial⟩
  rw [if_pos (by omega)]

/-- One dimension reads the same on both paths exactly when every least amount is visible.
The keys are compared one by one; a key without amounts is listed on neither path.
-/
theorem sameRows_iff {entries : List (String × Int)} {columnar : Dict String Accumulator}
    (positive : ∀ entry ∈ entries, 0 < entry.2)
    (collected : addExistingAll (initialise (entries.map Prod.fst)) entries = .ok columnar)
    {left right : List (String × AggregatedMetric π)}
    (madeLeft
      : metricRows percentage totalSpend
          (columnar.entries.map (fun entry => (entry.1, entry.2.columnarShown)))
        = .ok left)
    (madeRight
      : metricRows percentage totalSpend
          ((addOrStartAll .empty entries).entries.map (fun entry => (entry.1, id entry.2)))
        = .ok right)
    : SameRows left right ↔ LeastVisible entries := by
  apply forall_congr'
  intro key
  have onLeft := metricRows_find madeLeft key
  have onRight := metricRows_find madeRight key
  rw [find_map_entries, addExistingAll_get? collected, initialise_get?] at onLeft
  rw [find_map_entries, addOrStartAll_get?, Dict.get?_empty] at onRight
  cases amounts : amountsOf entries key with
  | nil =>
      -- No entry has the key, and neither side has a row for it
      have absent := amountsOf_eq_nil.mp amounts
      simp only [absent, if_false, Option.map_none] at onLeft
      simp only [amounts, startWith, Option.map_none] at onRight
      simp [onLeft, onRight]
  | cons amount rest =>
      have present : key ∈ entries.map Prod.fst := by
        by_contra absent
        rw [amountsOf_eq_nil.mpr absent] at amounts
        cases amounts
      have amountPositive : 0 < amount := by
        have member : amount ∈ amountsOf entries key := by
          rw [amounts]
          exact List.mem_cons_self
        obtain ⟨entry, kept, rfl⟩ := List.mem_map.mp member
        exact positive entry (List.mem_filter.mp kept).1
      simp only [present, if_true, Option.map_some, amounts, shown_eq amountPositive] at onLeft
      simp only [amounts, startWith, Option.map_some, id_eq] at onRight
      obtain ⟨rowLeft, madeRowLeft, foundLeft⟩ := onLeft
      obtain ⟨rowRight, madeRowRight, foundRight⟩ := onRight
      -- The rows differ at most in their least amounts: one starts from the sentinel
      have rows := metricRow_eq_iff madeRowRight madeRowLeft
      rw [foundLeft, foundRight, Option.some.injEq, eq_comm, rows]
      simp only [List.min?_cons', Option.some.injEq, forall_eq', Accumulator.addAll_eq,
        Accumulator.first]
      by_cases low : rest.foldl min amount ≤ minSentinel
      · simp [low]
      · simp only [low, false_or, min_eq_left (le_of_lt (not_le.mp low))]

end Rows

/-- The columns of a list of records. -/
def columnsOf (tenantId : String) (records : List SpendRecord) : SpendColumnarBatch where
  tenantId
  departments := records.map SpendRecord.department
  locations := records.map SpendRecord.location
  categories := records.map SpendRecord.category
  amountsScaled := records.map SpendRecord.amountScaled

/-- The rows that the columnar path zips together are those of the records. -/
theorem columnsOf_rows (records : List SpendRecord)
    : (records.map SpendRecord.department).zip
        ((records.map SpendRecord.category).zip
          ((records.map SpendRecord.location).zip (records.map SpendRecord.amountScaled)))
      = records.map (fun r => (r.department, r.category, r.location, r.amountScaled)) := by
  simp only [List.zip_map']

/-- Every key of a row is initialised, so that no row of a batch of records raises. -/
theorem columnsOf_collected (records : List SpendRecord)
    : ∃ acc,
        addColumnarRows
          ⟨initialise (records.map SpendRecord.department),
            initialise (records.map SpendRecord.category),
            initialise (records.map SpendRecord.location)⟩
          (records.map (fun r => (r.department, r.category, r.location, r.amountScaled)))
        = .ok acc := by
  have each (key : SpendRecord → String)
      : ∃ result,
          addExistingAll (initialise (records.map key)) (entriesOf key records) = .ok result := by
    apply addExistingAll_ok
    intro entry member
    obtain ⟨r, listed, rfl⟩ := List.mem_map.mp member
    exact ⟨.initial, by rw [initialise_get?, if_pos (List.mem_map_of_mem listed)]⟩
  obtain ⟨departments, first⟩ := each SpendRecord.department
  obtain ⟨categories, second⟩ := each SpendRecord.category
  obtain ⟨locations, third⟩ := each SpendRecord.location
  refine ⟨⟨departments, categories, locations⟩, ?_⟩
  apply addColumnarRows_of_ok <;> simpa only [List.map_map, Function.comp_def]

/-- Whenever both paths produce a summary of a tenant's records, the summaries are the same
exactly when no least amount of a department, category or location hides behind the sentinel.
-/
theorem summaries_agree_iff {π : Type} (percentage : Int → Int → π) (tenantId : String)
    (records : List SpendRecord)
    (valid : ∀ r ∈ records, r.tenantId = tenantId ∧ 0 < r.amountScaled)
    (columnar plain : SpendSummary π)
    (producedColumnar
      : aggregateColumnar percentage (columnsOf tenantId records) = .ok columnar)
    (producedPlain : getExecutiveSummary percentage records tenantId = .ok plain)
    : SameSummary columnar plain
      ↔ LeastVisible (entriesOf SpendRecord.department records)
        ∧ LeastVisible (entriesOf SpendRecord.category records)
        ∧ LeastVisible (entriesOf SpendRecord.location records) := by
  have positive (key : SpendRecord → String) : ∀ entry ∈ entriesOf key records, 0 < entry.2 := by
    intro entry member
    obtain ⟨r, listed, rfl⟩ := List.mem_map.mp member
    exact (valid r listed).2
  -- The plain path: three dimensions, then the texts of the total and of the average
  simp only [getExecutiveSummary, foldl_addRecord (fun r member => (valid r member).1),
    PlainTotals.start, Accumulators.empty, zero_add] at producedPlain
  obtain ⟨byDepartment', rowsDepartment', producedPlain⟩ := bind_ok producedPlain
  obtain ⟨byCategory', rowsCategory', producedPlain⟩ := bind_ok producedPlain
  obtain ⟨byLocation', rowsLocation', producedPlain⟩ := bind_ok producedPlain
  obtain ⟨totalText', total', producedPlain⟩ := bind_ok producedPlain
  obtain ⟨averageText', average', producedPlain⟩ := bind_ok producedPlain
  cases producedPlain
  -- The columnar path comes to the same five parts, from tables with all keys
  simp only [aggregateColumnar, columnsOf, columnsOf_rows] at producedColumnar
  obtain ⟨acc, collected, producedColumnar⟩ := bind_ok producedColumnar
  obtain ⟨byDepartment, rowsDepartment, producedColumnar⟩ := bind_ok producedColumnar
  obtain ⟨byCategory, rowsCategory, producedColumnar⟩ := bind_ok producedColumnar
  obtain ⟨byLocation, rowsLocation, producedColumnar⟩ := bind_ok producedColumnar
  obtain ⟨totalText, total, producedColumnar⟩ := bind_ok producedColumnar
  obtain ⟨averageText, average, producedColumnar⟩ := bind_ok producedColumnar
  cases producedColumnar
  obtain ⟨departments, categories, locations⟩ := addColumnarRows_ok collected
  simp only [List.map_map, Function.comp_def] at departments categories locations
  have keys (key : SpendRecord → String)
      : records.map key = (entriesOf key records).map Prod.fst := by
    simp [entriesOf]
  rw [keys SpendRecord.department] at departments
  rw [keys SpendRecord.category] at categories
  rw [keys SpendRecord.location] at locations
  -- Each dimension agrees on a condition of its own
  have first := sameRows_iff (positive _) departments rowsDepartment rowsDepartment'
  have second := sameRows_iff (positive _) categories rowsCategory rowsCategory'
  have third := sameRows_iff (positive _) locations rowsLocation rowsLocation'
  rw [← first, ← second, ← third]
  simp only [List.length_map] at average
  obtain rfl := Except.ok.inj (total.symm.trans total')
  obtain rfl := Except.ok.inj (average.symm.trans average')
  constructor
  · exact fun same => ⟨same.byDepartment, same.byCategory, same.byLocation⟩
  · rintro ⟨sameDepartment, sameCategory, sameLocation⟩
    exact ⟨rfl, rfl, rfl, by simp, rfl, sameDepartment, sameCategory, sameLocation⟩

section Sample

/-- One purchase for two hundred million dollars. -/
def largeSpend : List SpendRecord := [⟨"T1", "Engineering", "Berlin", "Travel", 2000000000000⟩]

/-- Whole percents. -/
def wholePercent (part total : Int) : Int := if total > 0 then part * 100 / total else 0

/-- A summary of the purchase, by the text that its minimum has. -/
def largeSummary (minText : String) : SpendSummary Int :=
  let row (key : String) : AggregatedMetric Int :=
    ⟨key, 2000000000000, "$200000000.00", 1, "$200000000.00", minText, "$200000000.00", 100⟩
  ⟨"T1", 2000000000000, "$200000000.00", 1, "$200000000.00", [("Engineering", row "Engineering")],
    [("Travel", row "Travel")], [("Berlin", row "Berlin")]⟩

theorem largeSpend_columnar
    : aggregateColumnar wholePercent (columnsOf "T1" largeSpend)
      = .ok (largeSummary "$100000000.00") := by
  decide +kernel

theorem largeSpend_plain
    : getExecutiveSummary wholePercent largeSpend "T1"
      = .ok (largeSummary "$200000000.00") := by
  decide +kernel

theorem summaries_agree_iff_sample
    : SameSummary (largeSummary "$100000000.00") (largeSummary "$200000000.00")
      ↔ LeastVisible (entriesOf SpendRecord.department largeSpend)
        ∧ LeastVisible (entriesOf SpendRecord.category largeSpend)
        ∧ LeastVisible (entriesOf SpendRecord.location largeSpend) :=
  summaries_agree_iff wholePercent "T1" largeSpend (by decide) _ _ largeSpend_columnar
    largeSpend_plain

/-- The columnar path reports the sentinel as the minimum of a greater purchase. -/
theorem large_spend_minimum_differs
    : ∃ columnar plain,
        aggregateColumnar wholePercent (columnsOf "T1" largeSpend) = .ok columnar
        ∧ getExecutiveSummary wholePercent largeSpend "T1" = .ok plain
        ∧ ¬ SameSummary columnar plain := by
  refine ⟨_, _, largeSpend_columnar, largeSpend_plain, ?_⟩
  intro same
  have rows := same.byDepartment "Engineering"
  revert rows
  decide +kernel

end Sample

end PettyFlow.Analytics
