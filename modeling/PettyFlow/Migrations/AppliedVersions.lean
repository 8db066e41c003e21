import PettyFlow.Migrations.Tracking

/-! The table of applied migrations over runs of the engine: it lists what has succeeded, unless a
commit is refused while an earlier call has left its transaction open.
-/

namespace PettyFlow.Migrations

open Foundation

section Tracked

variable {δ : Type} {engine : MigrationEngine δ} {queries : SqlQueries δ}
  {tracking : δ → Option TrackingTable} (keeps : KeepsTracking engine.db queries tracking)
  {start : TrackingTable} {c : Connection δ} {past : MigrationHistory δ}

/-- Data whose table lists the versions with the checksums that it should. -/
def ListedIn (engine : MigrationEngine δ) (tracking : δ → Option TrackingTable)
    (start : TrackingTable) (past : MigrationHistory δ) (data : δ)
    : Prop :=
  ∃ table,
    tracking data = some table
    ∧ table.appliedChecksum = expectedChecksum engine start past

include keeps in
theorem getAppliedVersions_eq {table : TrackingTable} (kept : tracking c.current = some table)
    : getAppliedVersions queries c = .ok (table.appliedVersions.map .integer) := by
  rw [getAppliedVersions, keeps.selected _ _ kept]
  simp [Except.mapError, Except.map, List.filterMap_map, Function.comp_def]

theorem TrackingTable.appliedChecksum_row {table : TrackingTable} {version : Int}
    {row : TrackingRow} (found : table.get? version = some row)
    (listed : version ∈ table.appliedVersions)
    : table.appliedChecksum version = some row.checksum := by
  have isSome := mem_appliedVersions.mp listed
  unfold appliedChecksum at isSome ⊢
  rw [found, Option.filter_some] at isSome ⊢
  split_ifs at isSome ⊢
  · rfl
  · cases isSome

theorem TrackingTable.row_of_appliedChecksum {table : TrackingTable} {version : Int}
    {checksum : String} (listed : table.appliedChecksum version = some checksum)
    : ∃ row, table.get? version = some row ∧ row.checksum = checksum := by
  obtain ⟨row, kept, same⟩ := Option.map_eq_some_iff.mp listed
  exact ⟨row, (Option.filter_eq_some_iff.mp kept).1, same⟩

include keeps in
/-- What the query shows and the checksums of the rows determine the listed part of the table. -/
theorem tracked_iff
    : Tracked engine queries tracking start past c
      ↔ ListedIn engine tracking start past c.current := by
  constructor
  · rintro ⟨table, versions, kept, answered, _, listed, checksums⟩
    have same : table.appliedVersions = versions := by
      have answers := Except.ok.inj ((getAppliedVersions_eq keeps kept).symm.trans answered)
      exact List.map_injective_iff.mpr (fun _ _ => SqlValue.integer.inj) answers
    subst same
    refine ⟨table, kept, funext fun version => ?_⟩
    cases expected : expectedChecksum engine start past version with
    | none =>
        have unlisted : version ∉ table.appliedVersions := by simp [listed, expected]
        simpa [TrackingTable.mem_appliedVersions] using unlisted
    | some checksum =>
        obtain ⟨row, found, rfl⟩ := checksums version checksum expected
        exact TrackingTable.appliedChecksum_row found ((listed version).mpr (by simp [expected]))
  · rintro ⟨table, kept, same⟩
    refine ⟨table, table.appliedVersions, kept, getAppliedVersions_eq keeps kept,
      table.appliedVersions_ascending, fun version => ?_, fun version checksum expected => ?_⟩
    · rw [TrackingTable.mem_appliedVersions, same]
    · exact TrackingTable.row_of_appliedChecksum (by rw [same, expected])

/-- One more step changes what should be listed as the change that it makes. -/
theorem expectedChecksum_step
    (event : MigrationEvent δ) (version : Int)
    : expectedChecksum engine start (past ++ [event]) version
      = match changeOf engine event with
        | none => expectedChecksum engine start past version
        | some (changed, .applied checksum) =>
            if changed = version then some checksum else expectedChecksum engine start past version
        | some (changed, .rolledBack) =>
            if changed = version then none else expectedChecksum engine start past version := by
  unfold expectedChecksum latestChange
  rw [List.filterMap_append, List.reverse_append]
  cases made : changeOf engine event with
  | none => simp [made]
  | some change =>
      obtain ⟨changed, change⟩ := change
      by_cases same : changed = version <;> cases change <;> simp [made, Dict.find, same]

/-- A step that makes no change leaves what should be listed. -/
theorem expectedChecksum_unchanged
    {event : MigrationEvent δ}
    (unchanged : changeOf engine event = none)
    : expectedChecksum engine start (past ++ [event]) = expectedChecksum engine start past := by
  funext version
  rw [expectedChecksum_step, unchanged]

theorem readUp_checksum {files : Files} {m : Migration} {checksum script : String}
    (read : engine.readUp files m = .ok (checksum, script))
    : engine.computeFileChecksum files m.upScriptPath = .ok checksum := by
  obtain ⟨summed, same, rest⟩ := bind_ok read
  obtain ⟨text, _, result⟩ := bind_ok rest
  cases result
  exact same

/-- A step that makes its planned change. -/
theorem expectedChecksum_planned {call : MigrationCall} {change : PlannedChange}
    {report : MigrationReport} {after : Connection δ}
    (planned : call.plannedChange engine = some change) (version : Int)
    : expectedChecksum engine start (past ++ [⟨c, call, .ok report, after⟩]) version
      = if change.version = version then
          change.checksum
        else
          expectedChecksum engine start past version := by
  rw [expectedChecksum_step]
  cases call with
  | applyMigration files now m =>
      obtain ⟨⟨checksum, script⟩, read, rfl⟩ := Option.map_eq_some_iff.mp planned
      have summed := readUp_checksum (ok_of_toOption read)
      simp only [changeOf, summed, Except.toOption, Option.map_some]
  | rollbackMigration files m =>
      obtain ⟨script, read, rfl⟩ := Option.map_eq_some_iff.mp planned
      rfl
  | dryRunMigration files m => cases planned
  | execute statement => cases planned
  | commit => cases planned
  | rollback => cases planned

/-- Statements that leave the table alone one by one leave it alone together. -/
theorem runAll_tracking {statements : List SqlStatement}
    (untouched
      : ∀ statement ∈ statements,
          ∀ data, tracking (engine.db.run statement data).2 = tracking data)
    (data : δ)
    : tracking (runAll engine.db statements data).2 = tracking data := by
  induction statements generalizing data with
  | nil => rfl
  | cons statement rest ih =>
      obtain ⟨first, later⟩ := List.forall_mem_cons.mp untouched
      have here := first data
      rw [runAll]
      cases ran : engine.db.run statement data with
      | mk error next =>
          rw [ran] at here
          cases error with
          | some error => exact here
          | none => exact (ih later next).trans here

include keeps in
/-- What the record of a change says about its version. -/
theorem record_effect {call : MigrationCall} {change : PlannedChange} {data recorded : δ}
    (planned : call.plannedChange engine = some change)
    (ran : engine.db.run change.record data = (none, recorded))
    : ∃ table after,
        tracking data = some table
        ∧ tracking recorded = some after
        ∧ ∀ version,
            after.appliedChecksum version
            = if change.version = version then
                change.checksum
              else
                table.appliedChecksum version := by
  cases call with
  | applyMigration files now m =>
      obtain ⟨⟨checksum, script⟩, _, rfl⟩ := Option.map_eq_some_iff.mp planned
      obtain ⟨table, before, after⟩ := keeps.inserted _ _ _ _ _ ran
      exact ⟨table, _, before, after, table.appliedChecksum_recordApplied m now checksum⟩
  | rollbackMigration files m =>
      obtain ⟨script, _, rfl⟩ := Option.map_eq_some_iff.mp planned
      obtain ⟨table, before, after⟩ := keeps.updated _ _ _ ran
      exact ⟨table, _, before, after, table.appliedChecksum_recordRolledBack m⟩
  | dryRunMigration files m => cases planned
  | execute statement => cases planned
  | commit => cases planned
  | rollback => cases planned

include keeps in
/-- The same of a script that leaves the table alone together with the record. -/
theorem change_effect {call : MigrationCall} {change : PlannedChange} {data recorded : δ}
    (leaves : call.LeavesTracking engine tracking)
    (planned : call.plannedChange engine = some change)
    (ran
      : runAll engine.db (scriptOf change.script ++ [change.record]) data = (none, recorded))
    : ∃ table after,
        tracking data = some table
        ∧ tracking recorded = some after
        ∧ ∀ version,
            after.appliedChecksum version
            = if change.version = version then
                change.checksum
              else
                table.appliedChecksum version := by
  have untouched
      : ∀ statement ∈ scriptOf change.script,
          ∀ data, tracking (engine.db.run statement data).2 = tracking data := by
    cases call with
    | applyMigration files now m => exact leaves change planned
    | rollbackMigration files m => exact leaves change planned
    | dryRunMigration files m => cases planned
    | execute statement => cases planned
    | commit => cases planned
    | rollback => cases planned
  -- The script leaves the table alone, and only the record that follows it writes there
  have kept := runAll_tracking untouched data
  rw [runAll_append] at ran
  cases scripted : runAll engine.db (scriptOf change.script) data with
  | mk error middle =>
      rw [scripted] at kept ran
      cases error with
      | some error => cases ran
      | none =>
          rw [← show tracking middle = tracking data from kept]
          have recordRan : engine.db.run change.record middle = (none, recorded) := by
            simp only [runAll] at ran
            cases last : engine.db.run change.record middle with
            | mk error after =>
                cases error with
                | some error => simp [last] at ran
                | none => simpa [last] using ran
          exact record_effect keeps planned recordRan

theorem step_planned {call : MigrationCall} {change : PlannedChange}
    (planned : call.plannedChange engine = some change)
    : ∃ answer : String → MigrationFailure,
        (migrationMachine engine).step c call
        = ((changeAtomically engine.db change.name change.script change.record
              (fun error => .error (answer error)) c).1.map (fun _ => .done),
            (changeAtomically engine.db change.name change.script change.record
              (fun error => .error (answer error)) c).2) := by
  cases call with
  | applyMigration files now m =>
      obtain ⟨⟨checksum, script⟩, read, rfl⟩ := Option.map_eq_some_iff.mp planned
      refine ⟨fun error =>
        .migrationError s!"Failed applying migration {m.versionTag}: {error}", ?_⟩
      simp only [migrationMachine, MigrationEngine.applyMigration, ok_of_toOption read]
  | rollbackMigration files m =>
      obtain ⟨script, read, rfl⟩ := Option.map_eq_some_iff.mp planned
      refine ⟨fun error =>
        .migrationError s!"Failed rolling back {m.versionTag}: {error}", ?_⟩
      simp only [migrationMachine, MigrationEngine.rollbackMigration, ok_of_toOption read]
  | dryRunMigration files m => cases planned
  | execute statement => cases planned
  | commit => cases planned
  | rollback => cases planned

/-- A planned change succeeds, goes back to its own savepoint, goes back to an older one, or stays
where there is none.
-/
theorem planned_cases {call : MigrationCall} {change : PlannedChange}
    (planned : call.plannedChange engine = some change)
    : (∃ data,
        runAll engine.db (scriptOf change.script ++ [change.record]) c.current = (none, data)
        ∧ (migrationMachine engine).step c call = (.ok .done, .start data))
      ∨ (∃ failure,
        (migrationMachine engine).step c call = (.error failure, c.savepoint change.name))
      ∨ (∃ failure restored,
        c.rollbackTo change.name = some restored
        ∧ (migrationMachine engine).step c call = (.error failure, restored))
      ∨ ∃ failure data,
        c.Open
        ∧ c.rollbackTo change.name = none
        ∧ runAll engine.db (scriptOf change.script ++ [change.record]) c.current = (none, data)
        ∧ engine.db.refuses data ≠ none
        ∧ (migrationMachine engine).step c call = (.error failure, c.write data) := by
  obtain ⟨answer, step⟩ := @step_planned _ engine c _ _ planned
  rw [changeAtomically_eq] at step
  cases ran : runAll engine.db (scriptOf change.script ++ [change.record]) c.current with
  | mk error data =>
      rw [ran] at step
      cases error with
      | some error => exact .inr (.inl ⟨_, step⟩)
      | none =>
          cases refused : engine.db.refuses data with
          | none =>
              simp only [refused] at step
              exact .inl ⟨data, rfl, step⟩
          | some error =>
              -- The refused commit ends nothing inside an outer transaction
              by_cases outer : c.Open
              · simp only [refused, if_pos outer, abandon, Transactions.rollbackTo_write outer]
                  at step
                cases found : c.rollbackTo change.name with
                | none =>
                    rw [found] at step
                    exact .inr (.inr (.inr ⟨_, data, outer, rfl, rfl, by simp [refused], step⟩))
                | some restored =>
                    rw [found] at step
                    exact .inr (.inr (.inl ⟨_, restored, rfl, step⟩))
              · simp only [refused, if_neg outer] at step
                exact .inr (.inl ⟨_, step⟩)

/-- A call without a planned change sees no other data than before, and changes nothing. -/
theorem unplanned_step {call : MigrationCall} (leaves : call.LeavesTracking engine tracking)
    (unplanned : call.plannedChange engine = none)
    : changeOf engine ((migrationMachine engine).event c call) = none
      ∧ ((migrationMachine engine).step c call).2.remembered ⊆ c.remembered := by
  cases call with
  | dryRunMigration files m =>
      refine ⟨rfl, ?_⟩
      dsimp only [migrationMachine]
      cases read : engine.readScript files m.upScriptPath with
      | error error =>
          rw [(dryRun_leaves_iff files m).mpr ⟨error, read⟩]
          exact List.Subset.refl _
      | ok script =>
          -- A dry run leaves its savepoint behind, which remembers the same data
          rw [dryRun_connection read]
          exact List.cons_subset.mpr ⟨List.mem_cons_self, List.Subset.refl _⟩
  | applyMigration files now m =>
      cases read : engine.readUp files m with
      | ok result => simp [MigrationCall.plannedChange, read, Except.toOption] at unplanned
      | error error =>
          simp [Machine.event, migrationMachine, MigrationEngine.applyMigration, read, changeOf,
            Except.map]
  | rollbackMigration files m =>
      cases read : engine.readDown files m with
      | ok result => simp [MigrationCall.plannedChange, read, Except.toOption] at unplanned
      | error error =>
          simp [Machine.event, migrationMachine, MigrationEngine.rollbackMigration, read, changeOf,
            Except.map]
  | execute statement => cases leaves
  | commit => cases leaves
  | rollback => cases leaves

theorem changeOf_error {call : MigrationCall} {failure : MigrationFailure} {after : Connection δ}
    : changeOf engine ⟨c, call, .error failure, after⟩ = none := by
  cases call <;> rfl

/-- All data that can be seen, now or after going back to a savepoint, list what they should. -/
def RemembersListed (engine : MigrationEngine δ) (tracking : δ → Option TrackingTable)
    (start : TrackingTable) (past : MigrationHistory δ) (c : Connection δ)
    : Prop :=
  ∀ data ∈ c.remembered, ListedIn engine tracking start past data

/-- A step that makes no change and shows no other data keeps the listing. -/
theorem RemembersListed.unchanged (listed : RemembersListed engine tracking start past c)
    {event : MigrationEvent δ} {after : Connection δ} (unchanged : changeOf engine event = none)
    (seen : after.remembered ⊆ c.remembered)
    : RemembersListed engine tracking start (past ++ [event]) after := by
  intro data member
  obtain ⟨table, kept, same⟩ := listed data (seen member)
  exact ⟨table, kept, same.trans (expectedChecksum_unchanged unchanged).symm⟩

include keeps in
/-- Every call keeps the listing but one that leaves its record behind. -/
theorem RemembersListed.step (listed : RemembersListed engine tracking start past c)
    {call : MigrationCall} (leaves : call.LeavesTracking engine tracking)
    (undone : ¬ call.LeftRecorded engine tracking c)
    : RemembersListed engine tracking start (past ++ [(migrationMachine engine).event c call])
        ((migrationMachine engine).step c call).2 := by
  cases planned : call.plannedChange engine with
  | none =>
      obtain ⟨unchanged, seen⟩ := unplanned_step leaves planned
      exact listed.unchanged unchanged seen
  | some change =>
      obtain ⟨table, kept, same⟩ := listed c.current List.mem_cons_self
      rcases @planned_cases _ engine c _ _ planned with ⟨data, ran, step⟩ | ⟨failure, step⟩
        | ⟨failure, restored, found, step⟩ | ⟨failure, data, isOpen, missing, ran, refused, step⟩
      · -- The record stands
        obtain ⟨other, after, before, recorded, effect⟩ := change_effect keeps leaves planned ran
        obtain rfl : other = table := Option.some.inj (before.symm.trans kept)
        rw [Machine.event_of_step _ step, step]
        intro seen member
        obtain rfl := List.mem_singleton.mp member
        refine ⟨after, recorded, funext fun version => ?_⟩
        rw [effect, expectedChecksum_planned planned, same]
      · rw [Machine.event_of_step _ step, step]
        exact listed.unchanged changeOf_error
          (List.cons_subset.mpr ⟨List.mem_cons_self, List.Subset.refl _⟩)
      · rw [Machine.event_of_step _ step, step]
        exact listed.unchanged changeOf_error
          (List.subset_cons_of_subset _ (Transactions.remembered_rollbackTo found))
      · -- The record stays although the call has failed, so it must have said nothing new
        obtain ⟨other, after, before, recorded, effect⟩ := change_effect keeps leaves planned ran
        obtain rfl : other = table := Option.some.inj (before.symm.trans kept)
        have nothingNew : other.appliedChecksum change.version = change.checksum := by
          by_contra new
          exact undone ⟨change, data, other, planned, isOpen, missing, ran, refused, kept, new⟩
        rw [Machine.event_of_step _ step, step]
        intro seen member
        rcases List.mem_cons.mp member with rfl | older
        · refine ⟨after, recorded, ?_⟩
          rw [expectedChecksum_unchanged changeOf_error, ← same]
          funext version
          rw [effect]
          split_ifs with hit
          · rw [← hit, nothingNew]
          · rfl
        · exact listed.unchanged changeOf_error (List.Subset.refl _) seen
            (List.mem_cons_of_mem _ older)

/-- The step of a call that leaves its record behind. -/
theorem left_step {call : MigrationCall} {change : PlannedChange} {data : δ}
    (planned : call.plannedChange engine = some change) (isOpen : c.Open)
    (missing : c.rollbackTo change.name = none)
    (ran
      : runAll engine.db (scriptOf change.script ++ [change.record]) c.current = (none, data))
    (refused : engine.db.refuses data ≠ none)
    : ∃ failure, (migrationMachine engine).step c call = (.error failure, c.write data) := by
  obtain ⟨answer, step⟩ := @step_planned _ engine c _ _ planned
  obtain ⟨error, reason⟩ := Option.ne_none_iff_exists'.mp refused
  rw [changeAtomically_eq, ran] at step
  simp only [reason, if_pos isOpen, abandon, Transactions.rollbackTo_write isOpen, missing] at step
  exact ⟨_, step⟩

include keeps in
/-- A call that leaves its record behind lists what it should not. -/
theorem RemembersListed.tight (listed : RemembersListed engine tracking start past c)
    {call : MigrationCall} (leaves : call.LeavesTracking engine tracking)
    (after
      : ListedIn engine tracking start (past ++ [(migrationMachine engine).event c call])
          ((migrationMachine engine).step c call).2.current)
    : ¬ call.LeftRecorded engine tracking c := by
  rintro ⟨change, data, table, planned, isOpen, missing, ran, refused, kept, new⟩
  obtain ⟨failure, step⟩ := left_step planned isOpen missing ran refused
  rw [Machine.event_of_step _ step, step] at after
  obtain ⟨recorded, found, same⟩ := after
  obtain ⟨other, changed, before, written, effect⟩ := change_effect keeps leaves planned ran
  obtain rfl : other = table := Option.some.inj (before.symm.trans kept)
  obtain rfl : changed = recorded := Option.some.inj (written.symm.trans found)
  obtain ⟨current, seen, expected⟩ := listed c.current List.mem_cons_self
  obtain rfl : current = other := Option.some.inj (seen.symm.trans kept)
  apply new
  calc current.appliedChecksum change.version
      = expectedChecksum engine start past change.version := by rw [expected]
    _ = changed.appliedChecksum change.version := by
          rw [same, expectedChecksum_unchanged changeOf_error]
    _ = change.checksum := by rw [effect, if_pos rfl]

/-- A statement that succeeds leaves what it makes of the data. -/
theorem execute_current {db : SqlDatabase δ} {statement : SqlStatement} {after : Connection δ}
    (executed : execute db statement c = (none, after))
    : db.run statement c.current = (none, after.current) := by
  have same : (if db.isDml statement.sql then c.begin else c).current = c.current := by
    split
    · exact Transactions.begin_current
    · rfl
  unfold execute at executed
  dsimp only at executed
  rw [same] at executed
  cases ran : db.run statement c.current with
  | mk error data =>
      rw [ran] at executed
      cases error with
      | some error => cases executed
      | none =>
          dsimp only at executed
          split at executed
          · cases executed
          · cases executed
            rfl

include keeps in
/-- The constructor leaves one state of the data to be seen, with the table it has found or made. -/
theorem remembersListed_init {before : Connection δ}
    (opened : engine.initSchemaMigrationsTable before = (.ok (), c))
    : RemembersListed engine tracking ((tracking before.current).getD .empty) [] c := by
  unfold MigrationEngine.initSchemaMigrationsTable at opened
  split at opened
  · cases opened
  · rename_i created executed
    split at opened
    · cases opened
    · rename_i committed done
      cases opened
      have made := keeps.created _ _ (execute_current executed)
      intro seen member
      rw [Transactions.remembered_commit done, List.mem_singleton] at member
      exact ⟨_, member ▸ made, rfl⟩

/-- In a run of applications, rollbacks and dry runs whose scripts leave the table alone, the
applied versions are at every point those whose last successful application or rollback was an
application, in ascending order and with the checksum of its script file, exactly when no call
leaves its record behind after a refused commit.
-/
theorem applied_versions_iff (engine : MigrationEngine δ) (queries : SqlQueries δ)
    (tracking : δ → Option TrackingTable) (keeps : KeepsTracking engine.db queries tracking)
    (before c : Connection δ) (opened : engine.initSchemaMigrationsTable before = (.ok (), c))
    (calls : List MigrationCall) (leave : ∀ call ∈ calls, call.LeavesTracking engine tracking)
    : (∀ done,
        done <+: calls
        → Tracked engine queries tracking ((tracking before.current).getD .empty)
            ((migrationMachine engine).history c done) ((migrationMachine engine).exec c done))
      ↔ (migrationMachine engine).Admits (fun c call => ¬ call.LeftRecorded engine tracking c)
          c calls := by
  simp only [tracked_iff keeps]
  exact (migrationMachine engine).throughout_iff_among
    (fun past c =>
      ListedIn engine tracking ((tracking before.current).getD .empty) past c.current)
    (RemembersListed engine tracking ((tracking before.current).getD .empty))
    (MigrationCall.LeavesTracking engine tracking)
    (fun past c listed => listed c.current List.mem_cons_self)
    (fun past c call leaves listed undone => listed.step keeps leaves undone)
    (fun past c call leaves listed after => listed.tight keeps leaves after)
    (remembersListed_init keeps opened) leave

end Tracked

section Sample

/-- A database with the table, and some lines that refer to missing entries. Such a reference is
deferred, so that only a commit refuses it.
-/
structure LedgerData where
  table : Option TrackingTable
  orphans : Nat

/-- The statements without parameters: a line that refers to an entry, the entry, and the table. -/
def runPlain (sql : String) (data : LedgerData) : Option String × LedgerData :=
  if sql = "INSERT INTO lines VALUES (7)" then
    (none, { data with orphans := data.orphans + 1 })
  else if sql = "INSERT INTO entries VALUES (7)" then
    (none, { data with orphans := 0 })
  else if sql = createTrackingTable.sql then
    (none, { data with table := some (data.table.getD .empty) })
  else
    (some "syntax error", data)

def ledgerDatabase : SqlDatabase LedgerData where
  run statement data :=
    match statement.parameters with
    | [.integer version, .text name, .text now, .text checksum] =>
        match data.table with
        | none => (some "no such table: schema_migrations", data)
        | some table =>
            (none, { data with
              table := some (table.recordApplied ⟨version.toNat, name, "", none⟩ now checksum) })
    | [.integer version] =>
        match data.table with
        | none => (some "no such table: schema_migrations", data)
        | some table =>
            (none, { data with
              table := some (table.recordRolledBack ⟨version.toNat, "", "", none⟩) })
    | _ => runPlain statement.sql data
  isDml sql := sql.startsWith "INSERT" || sql.startsWith "UPDATE"
  refuses data := if data.orphans = 0 then none else some "FOREIGN KEY constraint failed"

def ledgerQueries : SqlQueries LedgerData := fun _ data =>
  match data.table with
  | none => .error "no such table: schema_migrations"
  | some table => .ok (table.appliedVersions.map (fun version => [.integer version]))

/-- The digest of a file is here its length. -/
def ledgerEngine : MigrationEngine LedgerData :=
  ⟨ledgerDatabase, id, fun bytes => toString bytes.length⟩

theorem head_append {first : String} {c : Char} (later : String)
    (head : first.toList.head? = some c)
    : (first ++ later).toList.head? = some c := by
  simp [head]

theorem createTrackingTable_ne {sql : String} (insert : sql.toList.head? = some 'I')
    : createTrackingTable.sql ≠ sql := by
  rintro rfl
  have create : createTrackingTable.sql.toList.head? = some 'C' :=
    head_append _ (head_append _ (by decide +kernel))
  exact absurd (Option.some.inj (create.symm.trans insert)) (by decide)

theorem run_plain (sql : String) (data : LedgerData)
    : ledgerDatabase.run ⟨sql, []⟩ data = runPlain sql data :=
  rfl

theorem runPlain_create (data : LedgerData)
    : runPlain createTrackingTable.sql data
      = (none, { data with table := some (data.table.getD .empty) }) := by
  rw [runPlain, if_neg (createTrackingTable_ne (by decide +kernel)),
    if_neg (createTrackingTable_ne (by decide +kernel)), if_pos rfl]

theorem ledger_keepsTracking
    : KeepsTracking ledgerDatabase ledgerQueries LedgerData.table where
  created data created ran := by
    have made := (run_plain createTrackingTable.sql data).symm.trans ran
    rw [runPlain_create] at made
    cases made
    rfl
  inserted m now checksum data inserted ran := by
    obtain ⟨table, orphans⟩ := data
    cases table with
    | none => cases ran
    | some table =>
        cases ran
        exact ⟨table, rfl, rfl⟩
  updated m data updated ran := by
    obtain ⟨table, orphans⟩ := data
    cases table with
    | none => cases ran
    | some table =>
        cases ran
        exact ⟨table, rfl, rfl⟩
  selected data table kept := by
    rw [ledgerQueries, kept]

/-- A directory whose scripts have one text. -/
def ledgerFiles (script : String) : Files :=
  ⟨fun _ => .ok (utf8 script), fun _ => .ok script, fun _ => true⟩

/-- A connection on which the constructor has made the table. -/
def ledgerConnection : Connection LedgerData := .start ⟨some .empty, 0⟩

theorem ledger_opened
    : ledgerEngine.initSchemaMigrationsTable (.start ⟨none, 0⟩) = (.ok (), ledgerConnection) := by
  have created
      : ledgerDatabase.run createTrackingTable ⟨none, 0⟩ = (none, ⟨some .empty, 0⟩) :=
    (run_plain createTrackingTable.sql ⟨none, 0⟩).trans (runPlain_create _)
  -- Whether the driver begins a transaction makes no difference after the commit
  unfold MigrationEngine.initSchemaMigrationsTable execute ledgerConnection
  cases ledgerEngine.db.isDml createTrackingTable.sql with
  | false =>
      simp only [Bool.false_eq_true, if_false]
      rw [show ledgerEngine.db.run createTrackingTable (Transactions.start ⟨none, 0⟩).current
        = _ from created]
      rfl
  | true =>
      simp only [if_true]
      rw [show ledgerEngine.db.run createTrackingTable (Transactions.start ⟨none, 0⟩).begin.current
        = _ from created]
      rfl

/-- A line that refers to a missing entry. -/
def orphanFiles : Files := ledgerFiles "INSERT INTO lines VALUES (7);"

theorem orphan_script
    : scriptOf "INSERT INTO lines VALUES (7);" = [⟨"INSERT INTO lines VALUES (7)", []⟩] := by
  rfl

/-- The script and a record, on data with the table. -/
theorem orphan_recorded (m : Migration) (now checksum : String) (table : TrackingTable)
    (orphans : Nat)
    : runAll ledgerDatabase
        (scriptOf "INSERT INTO lines VALUES (7);" ++ [insertMigration m now checksum])
        ⟨some table, orphans⟩
      = (none, ⟨some (table.recordApplied m now checksum), orphans + 1⟩) := by
  have inserted
      : ledgerDatabase.run ⟨"INSERT INTO lines VALUES (7)", []⟩ ⟨some table, orphans⟩
        = (none, ⟨some table, orphans + 1⟩) :=
    (run_plain _ _).trans (if_pos rfl)
  rw [orphan_script, List.singleton_append, runAll, inserted]
  rfl

/-- The entry that such lines refer to. -/
def entryFiles : Files := ledgerFiles "INSERT INTO entries VALUES (7);"

def undoableMigration : Migration := ⟨1, "init", "V001__init.sql", some "U001__init.sql"⟩

theorem entry_script
    : scriptOf "INSERT INTO entries VALUES (7);" = [⟨"INSERT INTO entries VALUES (7)", []⟩] := by
  rfl

theorem run_entry (data : LedgerData)
    : ledgerDatabase.run ⟨"INSERT INTO entries VALUES (7)", []⟩ data
      = (none, { data with orphans := 0 }) := by
  rw [run_plain, runPlain, if_neg (by decide +kernel), if_pos rfl]

/-- Once the entry is there, nothing refers to a missing one, so that no commit is refused. -/
theorem entry_settles {record : SqlStatement} {start data : LedgerData}
    (kept : ∀ data, (ledgerDatabase.run record data).2.orphans = data.orphans)
    (ran
      : runAll ledgerDatabase (scriptOf "INSERT INTO entries VALUES (7);" ++ [record]) start
        = (none, data))
    : ledgerDatabase.refuses data = none := by
  rw [entry_script, List.singleton_append, runAll, run_entry] at ran
  have after := kept { start with orphans := 0 }
  dsimp only [runAll] at ran
  cases recorded : ledgerDatabase.run record { start with orphans := 0 } with
  | mk error left =>
      rw [recorded] at ran after
      cases error with
      | some error => cases ran
      | none =>
          cases ran
          exact if_pos after

theorem entry_leaves {call : MigrationCall}
    (planned
      : ∀ change ∈ call.plannedChange ledgerEngine,
          change.script = "INSERT INTO entries VALUES (7);")
    : ∀ change,
        call.plannedChange ledgerEngine = some change
        → ∀ statement ∈ scriptOf change.script,
            ∀ data, (ledgerEngine.db.run statement data).2.table = data.table := by
  intro change made statement member data
  rw [planned change made, entry_script] at member
  rw [List.mem_singleton.mp member]
  exact congrArg (fun ran => ran.2.table) (run_entry data)

def entryApplication : MigrationCall := .applyMigration entryFiles "2025-01-01" undoableMigration

def entryRollback : MigrationCall := .rollbackMigration entryFiles undoableMigration

/-- Neither is left recorded by a refused commit: with the entry no commit is refused. -/
theorem entry_undone {call : MigrationCall}
    (planned
      : ∀ change ∈ call.plannedChange ledgerEngine,
          change.script = "INSERT INTO entries VALUES (7);"
          ∧ ∀ data, (ledgerDatabase.run change.record data).2.orphans = data.orphans)
    (c : Connection LedgerData)
    : ¬ call.LeftRecorded ledgerEngine LedgerData.table c := by
  rintro ⟨change, data, table, made, _, _, ran, refused, _⟩
  obtain ⟨script, kept⟩ := planned change made
  rw [script] at ran
  exact refused (entry_settles kept ran)

theorem entryApplication_undone (c : Connection LedgerData)
    : ¬ entryApplication.LeftRecorded ledgerEngine LedgerData.table c := by
  apply entry_undone
  rintro change ⟨⟩
  refine ⟨rfl, ?_⟩
  rintro ⟨none | table, orphans⟩ <;> rfl

theorem entryRollback_undone (c : Connection LedgerData)
    : ¬ entryRollback.LeftRecorded ledgerEngine LedgerData.table c := by
  apply entry_undone
  rintro change ⟨⟩
  refine ⟨rfl, ?_⟩
  rintro ⟨none | table, orphans⟩ <;> rfl

/-- A dry run of a line, then the entry is applied and rolled back within the transaction that the
dry run has left open.
-/
theorem applied_versions_iff_sample
    : let calls :=
        [.dryRunMigration orphanFiles undoableMigration, entryApplication, entryRollback]
      ∀ done,
        done <+: calls
        → Tracked ledgerEngine ledgerQueries LedgerData.table .empty
            ((migrationMachine ledgerEngine).history ledgerConnection done)
            ((migrationMachine ledgerEngine).exec ledgerConnection done) := by
  refine (applied_versions_iff ledgerEngine ledgerQueries LedgerData.table ledger_keepsTracking
    (.start ⟨none, 0⟩) ledgerConnection ledger_opened _ ?_).mpr ?_
  · rintro call member
    simp only [List.mem_cons, List.not_mem_nil, or_false] at member
    rcases member with rfl | rfl | rfl
    · trivial
    · exact entry_leaves (by rintro change ⟨⟩; rfl)
    · exact entry_leaves (by rintro change ⟨⟩; rfl)
  · refine ⟨?_, entryApplication_undone _, entryRollback_undone _, trivial⟩
    rintro ⟨change, _, _, planned, _⟩
    cases planned

/-- The calls of a dry run, and of an application of the same script. -/
def orphanDryRun : MigrationCall := .dryRunMigration orphanFiles firstMigration

def orphanApplication : MigrationCall := .applyMigration orphanFiles "2025-01-01" firstMigration

/-- The application after the dry run fails, and leaves its record. -/
theorem orphanApplication_left
    : ∃ failure data,
        (migrationMachine ledgerEngine).step
            ((migrationMachine ledgerEngine).exec ledgerConnection [orphanDryRun])
            orphanApplication
          = (.error failure, (ledgerConnection.savepoint "dry_run_migration").write data)
        ∧ getAppliedVersions ledgerQueries
            ((ledgerConnection.savepoint "dry_run_migration").write data)
          = .ok [.integer 1] := by
  have dryRun
      : (ledgerEngine.dryRunMigration orphanFiles firstMigration ledgerConnection).2
        = ledgerConnection.savepoint "dry_run_migration" :=
    @dryRun_connection _ ledgerEngine ledgerConnection orphanFiles firstMigration
      "INSERT INTO lines VALUES (7);" rfl
  have dry
      : (migrationMachine ledgerEngine).exec ledgerConnection [orphanDryRun]
        = ledgerConnection.savepoint "dry_run_migration" :=
    dryRun
  let checksum := ledgerEngine.sha256 (utf8 "INSERT INTO lines VALUES (7);")
  let record := insertMigration firstMigration "2025-01-01" checksum
  obtain ⟨failure, step⟩ := @left_step _ ledgerEngine
    (ledgerConnection.savepoint "dry_run_migration") orphanApplication
    ⟨"apply_tx", "INSERT INTO lines VALUES (7);", record, 1, some checksum⟩ _
    rfl Transactions.open_savepoint rfl
    (orphan_recorded firstMigration "2025-01-01" checksum .empty 0) nofun
  rw [dry]
  exact ⟨failure, _, step, rfl⟩

/-- A dry run leaves its transaction open. In it an application fails with its commit, but its
version is listed.
-/
theorem failed_application_listed
    : (∃ failure,
        ((migrationMachine ledgerEngine).step
          ((migrationMachine ledgerEngine).exec ledgerConnection [orphanDryRun])
          orphanApplication).1
        = .error failure)
      ∧ getAppliedVersions ledgerQueries
          ((migrationMachine ledgerEngine).exec ledgerConnection
            ([orphanDryRun] ++ [orphanApplication]))
        = .ok [.integer 1]
      ∧ ¬ Tracked ledgerEngine ledgerQueries LedgerData.table .empty
          ((migrationMachine ledgerEngine).history ledgerConnection
            ([orphanDryRun] ++ [orphanApplication]))
          ((migrationMachine ledgerEngine).exec ledgerConnection
            ([orphanDryRun] ++ [orphanApplication])) := by
  obtain ⟨failure, data, step, listing⟩ := orphanApplication_left
  rw [Machine.exec_concat, Machine.history_concat, Machine.event_of_step _ step, step]
  refine ⟨⟨failure, rfl⟩, listing, ?_⟩
  rintro ⟨table, versions, _, answered, _, exact, _⟩
  have one : (1 : Int) ∈ versions := by
    have same := Except.ok.inj (answered.symm.trans listing)
    obtain ⟨version, member, integer⟩ := List.mem_map.mp (same ▸ List.mem_singleton.mpr rfl)
    exact SqlValue.integer.inj integer ▸ member
  -- Neither call has changed what should be listed
  have expected := (exact 1).mp one
  rw [expectedChecksum_unchanged changeOf_error] at expected
  cases expected

end Sample

end PettyFlow.Migrations
