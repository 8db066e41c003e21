import PettyFlow.Api.ReportsRouter

/-! Statements are read back: whatever characters are in the records of a tenant, an exported table
spells them again, and exactly those tenants get a table whose amounts can be divided.
-/

namespace PettyFlow.Api

open Foundation PettyFlow.Analytics

variable {π : Type} (runtime : ReportsRuntime π)

/-! ### Reading rows -/

/-- The record that a row of a statement spells. -/
def StatementRecord.ofRow (row : Csv.Row) : Option StatementRecord :=
  match row.map String.ofList with
  | [transactionId, tenantId, timestamp, department, location, category, amount, _, currency] => do
      let amountScaled ← amount.toInt?
      return {
        transactionId
        tenantId
        department
        location
        category
        amountScaled
        currency
        timestamp
      }
  | _ => none

/-- The records of rows below the header of statements. -/
def readBelow : List Csv.Row → Option (List StatementRecord)
  | header :: rows => if header = statementHeader then rows.mapM StatementRecord.ofRow else none
  | [] => none

def readStatement (content : String) : Option (List StatementRecord) :=
  Csv.read content.toList >>= readBelow

theorem statementRow_ok {r : ReceivedRecord} {row : Csv.Row}
    (made : statementRow runtime r = .ok row)
    : row ≠ []
      ∧ ∀ record : StatementRecord,
          r = record.received → StatementRecord.ofRow row = some record := by
  obtain ⟨amount, _, made⟩ := bind_ok made
  cases made
  refine ⟨by simp, ?_⟩
  rintro record rfl
  simp [StatementRecord.ofRow, StatementRecord.received, ReportsRuntime.cell]

/-- The rows of some records spell these records, by induction over them. -/
theorem mapM_statementRow {records : List StatementRecord} {rows : List Csv.Row}
    (made : (records.map StatementRecord.received).mapM (statementRow runtime) = .ok rows)
    : (∀ row ∈ rows, row ≠ []) ∧ rows.mapM StatementRecord.ofRow = some records := by
  induction records generalizing rows with
  | nil =>
      cases made
      exact ⟨List.forall_mem_nil _, rfl⟩
  | cons r records ih =>
      rw [List.map_cons, List.mapM_cons] at made
      obtain ⟨row, here, made⟩ := bind_ok made
      obtain ⟨rest, later, made⟩ := bind_ok made
      cases made
      obtain ⟨some, read⟩ := statementRow_ok runtime here
      obtain ⟨allSome, allRead⟩ := ih later
      refine ⟨List.forall_mem_cons.mpr ⟨some, allSome⟩, ?_⟩
      rw [List.mapM_cons, read r rfl, allRead]
      rfl

theorem mapM_statementRow_isOk_iff {records : List ReceivedRecord}
    : (∃ rows, records.mapM (statementRow runtime) = .ok rows)
      ↔ ∀ r ∈ records, ∃ text, amountDollars r.amountScaled = .ok text := by
  induction records with
  | nil => exact iff_of_true ⟨[], rfl⟩ (List.forall_mem_nil _)
  | cons r records ih =>
      rw [List.forall_mem_cons, ← ih, List.mapM_cons, statementRow]
      cases amountDollars r.amountScaled with
      | error error => simp [bind, Except.bind]
      | ok text =>
          cases records.mapM (statementRow runtime) with
          | error error => simp [bind, Except.bind, pure, Except.pure]
          | ok rows => simp [bind, Except.bind, pure, Except.pure]

theorem isLatinOne_append (a b : String)
    : isLatinOne (a ++ b) = (isLatinOne a && isLatinOne b) := by
  rw [isLatinOne, String.toList_append, List.all_append]
  rfl

theorem isLatinOne_contentDisposition (tenantId today : String)
    : isLatinOne (contentDisposition tenantId today "csv") = true
      ↔ isLatinOne tenantId = true ∧ isLatinOne today = true := by
  have before : isLatinOne "attachment; filename=pettyflow_statement_" = true := by decide +kernel
  have line : isLatinOne "_" = true := by decide +kernel
  have dot : isLatinOne "." = true := by decide +kernel
  have extension : isLatinOne "csv" = true := by decide +kernel
  unfold contentDisposition
  simp only [isLatinOne_append, before, line, dot, extension, Bool.true_and, Bool.and_true,
    Bool.and_eq_true]

theorem statementResponse_content {χ : Type} {content : χ}
    {mediaType tenantId today extension : String} {response : StatementResponse χ}
    (made : statementResponse content mediaType tenantId today extension = .ok response)
    : response.content = content := by
  rw [statementResponse] at made
  split at made
  · exact congrArg StatementResponse.content (Except.ok.inj made).symm
  · cases made

theorem exportCsvStatement_ok {s : ReportsRouter} {tenantId today : String}
    {response : StatementResponse String} {records : List StatementRecord}
    (declared : s.tenantRecs tenantId = records.map StatementRecord.received)
    (made : s.exportCsvStatement runtime tenantId today = .ok response)
    : readStatement response.content = some records := by
  obtain ⟨rows, mapped, made⟩ := bind_ok made
  rw [declared] at mapped
  obtain ⟨allSome, read⟩ := mapM_statementRow runtime mapped
  have table : ∀ row ∈ statementHeader :: rows, row ≠ [] :=
    List.forall_mem_cons.mpr ⟨List.cons_ne_nil _ _, allSome⟩
  have below : readBelow (statementHeader :: rows) = some records := by
    rw [readBelow, if_pos rfl, read]
  rw [readStatement, statementResponse_content made, String.toList_ofList, Csv.read_write table,
    ← below]
  exact Option.bind_some ..

/-- A table is exported exactly if its header can be sent and all amounts of the tenant can be
divided.
-/
theorem exportCsvStatement_isOk_iff {s : ReportsRouter} {tenantId today : String}
    : (∃ response, s.exportCsvStatement runtime tenantId today = .ok response)
      ↔ (isLatinOne tenantId ∧ isLatinOne today)
        ∧ ∀ r ∈ s.tenantRecs tenantId, ∃ text, amountDollars r.amountScaled = .ok text := by
  rw [← mapM_statementRow_isOk_iff runtime, ← isLatinOne_contentDisposition,
    ReportsRouter.exportCsvStatement]
  cases (s.tenantRecs tenantId).mapM (statementRow runtime) with
  | error error => simp [bind, Except.bind]
  | ok rows =>
      by_cases latin : isLatinOne (contentDisposition tenantId today "csv") = true
      · simp [bind, Except.bind, statementResponse, latin]
      · simp [bind, Except.bind, statementResponse, latin]

/-! ### Summaries -/

/-- What the summary reads of a record of the declared types. -/
def StatementRecord.spend (r : StatementRecord) : SpendRecord :=
  ⟨r.tenantId, r.department, r.location, r.category, r.amountScaled⟩

theorem mapM_spend? (records : List StatementRecord)
    : (records.map StatementRecord.received).mapM ReceivedRecord.spend?
      = some (records.map StatementRecord.spend) := by
  induction records with
  | nil => rfl
  | cons r records ih =>
      rw [List.map_cons, List.mapM_cons, ih]
      rfl

/-- The summary of records of the declared types is the typed one. -/
theorem getSpendSummary_declared {s : ReportsRouter} {tenantId : String}
    {records : List StatementRecord} {summary : ReportedSummary π}
    (declared : s.tenantRecs tenantId = records.map StatementRecord.received)
    (made : s.getSpendSummary runtime tenantId = .ok summary)
    : ∃ typed,
        summary = .declared typed
        ∧ typed.totalSpendScaled = (records.map StatementRecord.amountScaled).sum
        ∧ typed.totalTransactions = records.length := by
  have own : recordsOf tenantId (records.map StatementRecord.spend)
      = records.map StatementRecord.spend := by
    refine List.filter_eq_self.mpr (List.forall_mem_map.mpr (fun r member => ?_))
    have kept : r.received ∈ s.tenantRecs tenantId := declared ▸ List.mem_map_of_mem member
    exact decide_eq_true (Option.some.inj (of_decide_eq_true (List.mem_filter.mp kept).2))
  rw [ReportsRouter.getSpendSummary, declared, mapM_spend?] at made
  obtain ⟨typed, summed, same⟩ := map_ok (mapError_ok made)
  rw [getExecutiveSummary_eq, own] at summed
  have whole := summarize_summaryOf summed
  refine ⟨typed, same.symm, whole.total.trans ?_, whole.transactions.trans ?_⟩
  · rw [List.map_map]
    rfl
  · rw [List.length_map]

/-! ### Runs -/

/-- The records that calls add, in order. -/
def addedRecords (calls : List ReportsCall) : List ReceivedRecord :=
  calls.filterMap (fun
    | .addSpendRecord record now => (ReceivedRecord.ofBody record now).toOption
    | _ => none)

theorem addSpendRecord_records (s : ReportsRouter) (record : Dict String Json) (now : String)
    : (s.addSpendRecord record now).2.records
      = s.records ++ addedRecords [.addSpendRecord record now] := by
  cases checked : ReceivedRecord.ofBody record now with
  | error error =>
      simp [ReportsRouter.addSpendRecord, attempt, addedRecords, checked, Except.toOption]
  | ok r => simp [ReportsRouter.addSpendRecord, attempt, addedRecords, checked, Except.toOption]

/-- The records are those that were there and those that were added, by induction over the run. -/
theorem exec_records (s : ReportsRouter) (calls : List ReportsCall)
    : ((reportsMachine runtime).exec s calls).records = s.records ++ addedRecords calls := by
  induction calls generalizing s with
  | nil => exact (List.append_nil _).symm
  | cons call rest ih =>
      have split : addedRecords (call :: rest) = addedRecords [call] ++ addedRecords rest :=
        List.filterMap_append (l := [call])
      rw [Machine.exec, ih, split, ← List.append_assoc]
      cases call with
      | addSpendRecord record now =>
          exact congrArg (· ++ _) (addSpendRecord_records s record now)
      | getSpendSummary tenantId => exact congrArg (· ++ _) (List.append_nil _).symm
      | exportCsvStatement tenantId today => exact congrArg (· ++ _) (List.append_nil _).symm
      | exportPdfStatement tenantId today named =>
          exact congrArg (· ++ _) (List.append_nil _).symm

/-- In every run a tenant's statement is exported exactly if its header is in Latin-1 and each of
its amounts is a number whose dollars are not beyond the doubles. Where all records of the tenant
have the declared types, the statement reads back as these records in the order in which they came,
whatever characters are in them, and the summary's total is the sum of their amounts.
-/
theorem statements_read_back (initial : List ReceivedRecord) (calls : List ReportsCall)
    (tenantId today : String)
    : let s := (reportsMachine runtime).exec ⟨initial⟩ calls
      let own := (initial ++ addedRecords calls).filter (·.IsOf tenantId)
      ((∃ response,
          ((reportsMachine runtime).step s (.exportCsvStatement tenantId today)).1
            = .ok (.statement response))
        ↔ (isLatinOne tenantId ∧ isLatinOne today)
          ∧ ∀ r ∈ own, ∃ text, amountDollars r.amountScaled = .ok text)
      ∧ ∀ records : List StatementRecord,
          own = records.map StatementRecord.received
          → (∀ response,
              ((reportsMachine runtime).step s (.exportCsvStatement tenantId today)).1
                = .ok (.statement response)
              → readStatement response.content = some records)
            ∧ (∀ summary,
                ((reportsMachine runtime).step s (.getSpendSummary tenantId)).1
                  = .ok (.summary summary)
                → ∃ typed,
                    summary = .declared typed
                    ∧ typed.totalSpendScaled = (records.map StatementRecord.amountScaled).sum
                    ∧ typed.totalTransactions = records.length) := by
  intro s own
  have same : s.tenantRecs tenantId = own := by
    rw [ReportsRouter.tenantRecs, exec_records]
  have exported (response : StatementResponse String)
      : ((reportsMachine runtime).step s (.exportCsvStatement tenantId today)).1
          = .ok (.statement response)
        ↔ s.exportCsvStatement runtime tenantId today = .ok response := by
    simp only [reportsMachine]
    cases s.exportCsvStatement runtime tenantId today <;> simp [Except.map]
  refine ⟨?_, fun records declared => ⟨fun response made => ?_, fun summary answered => ?_⟩⟩
  · simp only [exported, exportCsvStatement_isOk_iff, same]
  · exact exportCsvStatement_ok runtime (same.trans declared) ((exported response).mp made)
  · refine getSpendSummary_declared runtime (same.trans declared) ?_
    simp only [reportsMachine] at answered
    cases made : s.getSpendSummary runtime tenantId with
    | error error => simp [made, Except.map] at answered
    | ok found =>
        simp only [made, Except.map, Except.ok.injEq, ReportsAnswer.summary.injEq] at answered
        rw [answered]

section Sample

/-- Shares in whole percents, and a library that takes every document. -/
def plainRuntime : ReportsRuntime Int where
  percentage spend total := if 0 < total then 100 * spend / total else 0
  str _ := ""
  mixedSummary _ := .error (.typeError "unsupported operand type(s) for +=: 'int' and 'str'")
  paragraph _ := .ok ()
  build _ := .ok []

/-- A record with quotes, a comma and a line break in its fields, and its body. -/
def lunch : StatementRecord :=
  ⟨"TX-1", "acme", "R&D, \"lab\"", "Berlin\nMitte", "Meals", 125000, "USD", "2026-01-01"⟩

def lunchBody : Dict String Json :=
  Dict.empty.set "transaction_id" (.str lunch.transactionId)
    |>.set "tenant_id" (.str lunch.tenantId)
    |>.set "department" (.str lunch.department)
    |>.set "location" (.str lunch.location)
    |>.set "category" (.str lunch.category)
    |>.set "amount_scaled" (.int lunch.amountScaled)

theorem lunch_added
    : ([] ++ addedRecords [.addSpendRecord lunchBody "2026-01-01"]).filter (·.IsOf "acme")
      = [lunch].map StatementRecord.received := by
  rfl

theorem statements_read_back_sample
    : ∃ response,
        ((reportsMachine plainRuntime).step
            ((reportsMachine plainRuntime).exec ⟨[]⟩ [.addSpendRecord lunchBody "2026-01-01"])
            (.exportCsvStatement "acme" "2026-01-02")).1
          = .ok (.statement response)
        ∧ readStatement response.content = some [lunch] := by
  obtain ⟨exported, declared⟩ :=
    statements_read_back plainRuntime [] [.addSpendRecord lunchBody "2026-01-01"] "acme"
      "2026-01-02"
  obtain ⟨response, made⟩ := exported.mpr ⟨by decide +kernel, by
    rw [lunch_added]
    exact List.forall_mem_singleton.mpr ⟨"12.50", by rfl⟩⟩
  exact ⟨response, made, (declared [lunch] lunch_added).1 response made⟩

end Sample

end PettyFlow.Api
