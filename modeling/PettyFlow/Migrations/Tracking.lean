import PettyFlow.Foundation.Dict
import PettyFlow.Migrations.Probes

/-! The table of applied migrations. What it lists is compared with the applications and
rollbacks that have succeeded.
-/

namespace PettyFlow.Migrations

open Foundation

structure TrackingRow where
  name : String
  appliedAt : String
  checksum : String
  status : String
deriving DecidableEq

/-- The rows of `schema_migrations` under their primary key. -/
abbrev TrackingTable := Dict Int TrackingRow

namespace TrackingTable

/-- Insert a row; one that is there already keeps its name. -/
def recordApplied (table : TrackingTable) (m : Migration) (now checksum : String)
    : TrackingTable :=
  table.set m.version
    (match table.get? m.version with
      | none => ⟨m.name, now, checksum, "APPLIED"⟩
      | some row => { row with status := "APPLIED", appliedAt := now, checksum := checksum })

/-- Change the status of the row, if there is one. -/
def recordRolledBack (table : TrackingTable) (m : Migration) : TrackingTable :=
  match table.get? m.version with
  | none => table
  | some row => table.set m.version { row with status := "ROLLED_BACK" }

/-- The versions of the applied rows in ascending order. -/
def appliedVersions (table : TrackingTable) : List Int :=
  ((table.filter (fun _ row => row.status = "APPLIED")).entries.map Prod.fst).insertionSort (· ≤ ·)

/-- The checksum of a version that is listed as applied. -/
def appliedChecksum (table : TrackingTable) (version : Int) : Option String :=
  ((table.get? version).filter (fun row => row.status = "APPLIED")).map TrackingRow.checksum

theorem appliedVersions_ascending (table : TrackingTable)
    : table.appliedVersions.Pairwise (· < ·) := by
  let applied := table.filter (fun _ row => row.status = "APPLIED")
  have sorted : table.appliedVersions.Pairwise (· ≤ ·) := List.pairwise_insertionSort (· ≤ ·) _
  have distinct : table.appliedVersions.Nodup :=
    (List.perm_insertionSort _ _).nodup_iff.mpr applied.keysUnique
  exact (sorted.and distinct).imp (fun both => lt_of_le_of_ne both.1 both.2)

theorem mem_appliedVersions {table : TrackingTable} {version : Int}
    : version ∈ table.appliedVersions ↔ (table.appliedChecksum version).isSome := by
  let applied := table.filter (fun _ row => row.status = "APPLIED")
  have found : applied.get? version
      = (table.get? version).filter (fun row => row.status = "APPLIED") :=
    table.get?_filter _ version
  rw [appliedVersions, List.mem_insertionSort, appliedChecksum, Option.isSome_map, ← found]
  constructor
  · intro member
    obtain ⟨⟨key, row⟩, listed, rfl⟩ := List.mem_map.mp member
    rw [(applied.mem_entries_iff key row).mp listed]
    rfl
  · intro isSome
    obtain ⟨row, same⟩ := Option.isSome_iff_exists.mp isSome
    exact List.mem_map.mpr ⟨(version, row), (applied.mem_entries_iff _ _).mpr same, rfl⟩

theorem appliedChecksum_recordApplied (table : TrackingTable) (m : Migration)
    (now checksum : String) (version : Int)
    : (table.recordApplied m now checksum).appliedChecksum version
      = if (m.version : Int) = version then some checksum else table.appliedChecksum version := by
  unfold recordApplied appliedChecksum
  rw [Dict.get?_set]
  split_ifs with same
  · -- A new row and one that was there both get the checksum
    cases table.get? m.version <;> simp [Option.filter_some]
  · rfl

theorem appliedChecksum_recordRolledBack (table : TrackingTable) (m : Migration) (version : Int)
    : (table.recordRolledBack m).appliedChecksum version
      = if (m.version : Int) = version then none else table.appliedChecksum version := by
  unfold recordRolledBack appliedChecksum
  split
  · rename_i missing
    split_ifs with same
    · rw [← same, missing]
      rfl
    · rfl
  · rename_i row _
    rw [Dict.get?_set]
    split_ifs with same
    · simp [Option.filter_some]
    · rfl

end TrackingTable

/-! ### The statements of the engine on the table -/

def createTrackingTable : SqlStatement where
  sql :=
    "CREATE TABLE IF NOT EXISTS schema_migrations (version INTEGER PRIMARY KEY, "
      ++ "name TEXT NOT NULL, applied_at TEXT NOT NULL, checksum TEXT NOT NULL, "
      ++ "status TEXT NOT NULL)"
  parameters := []

def selectAppliedVersions : SqlStatement where
  sql := "SELECT version FROM schema_migrations WHERE status = 'APPLIED' ORDER BY version ASC"
  parameters := []

/-- What the database answers to queries, row by row. A row has at least one column. -/
abbrev SqlQueries (δ : Type) := SqlStatement → δ → Except String (List (List SqlValue))

/-- What the statements mean in a database, for the rows of the table where there is one: the
statements that succeed, and the query.
-/
structure KeepsTracking {δ : Type} (db : SqlDatabase δ) (queries : SqlQueries δ)
    (tracking : δ → Option TrackingTable)
    : Prop where
  created
    : ∀ data created,
        db.run createTrackingTable data = (none, created)
        → tracking created = some ((tracking data).getD .empty)
  inserted
    : ∀ m now checksum data inserted,
        db.run (insertMigration m now checksum) data = (none, inserted)
        → ∃ table,
            tracking data = some table
            ∧ tracking inserted = some (table.recordApplied m now checksum)
  updated
    : ∀ m data updated,
        db.run (markRolledBack m) data = (none, updated)
        → ∃ table, tracking data = some table ∧ tracking updated = some (table.recordRolledBack m)
  selected
    : ∀ data table,
        tracking data = some table
        → queries selectAppliedVersions data
          = .ok (table.appliedVersions.map (fun version => [.integer version]))

namespace MigrationEngine

variable {δ : Type} (engine : MigrationEngine δ)

/-- What the constructor does with its connection. -/
def initSchemaMigrationsTable (c : Connection δ) : Except MigrationFailure Unit × Connection δ :=
  match execute engine.db createTrackingTable c with
  | (some error, c) => (.error (.databaseError error), c)
  | (none, c) =>
      match c.commit engine.db.refuses with
      | .error error => (.error (.databaseError error), c)
      | .ok c => (.ok (), c)

end MigrationEngine

/-- The first column of every row. -/
def getAppliedVersions {δ : Type} (queries : SqlQueries δ) (c : Connection δ)
    : Except MigrationFailure (List SqlValue) :=
  ((queries selectAppliedVersions c.current).mapError .databaseError).map
    (·.filterMap List.head?)

/-! ### What a run has changed -/

abbrev MigrationEvent (δ : Type) :=
  Event (Connection δ) MigrationCall (Except MigrationFailure MigrationReport)

abbrev MigrationHistory (δ : Type) := List (MigrationEvent δ)

section Runs

variable {δ : Type} (engine : MigrationEngine δ)

/-- An application records the checksum of its script file. -/
inductive TrackedChange where
  | applied (checksum : String)
  | rolledBack

/-- The change that a call has made, if it is an application or a rollback that succeeded. -/
def changeOf : MigrationEvent δ → Option (Int × TrackedChange)
  | ⟨_, .applyMigration files _ m, .ok _, _⟩ =>
      (engine.computeFileChecksum files m.upScriptPath).toOption.map
        (fun checksum => (m.version, .applied checksum))
  | ⟨_, .rollbackMigration _ m, .ok _, _⟩ => some (m.version, .rolledBack)
  | _ => none

/-- The most recent change of a version. -/
def latestChange (past : MigrationHistory δ) (version : Int) : Option TrackedChange :=
  Dict.find version (past.filterMap (changeOf engine)).reverse

/-- The checksum that a version should be listed with, if at all: that of its last change where
this is an application, and what the table began with where there is no change.
-/
def expectedChecksum (start : TrackingTable) (past : MigrationHistory δ) (version : Int)
    : Option String :=
  match latestChange engine past version with
  | none => start.appliedChecksum version
  | some .rolledBack => none
  | some (.applied checksum) => some checksum

/-- The versions that are listed, and their checksums, are those of the applications that no
later change of the version has undone.
-/
def Tracked (queries : SqlQueries δ) (tracking : δ → Option TrackingTable) (start : TrackingTable)
    (past : MigrationHistory δ) (c : Connection δ)
    : Prop :=
  ∃ (table : TrackingTable) (versions : List Int),
    tracking c.current = some table
    ∧ getAppliedVersions queries c = .ok (versions.map .integer)
    ∧ versions.Pairwise (· < ·)
    ∧ (∀ version, version ∈ versions ↔ (expectedChecksum engine start past version).isSome)
    ∧ ∀ version checksum,
        expectedChecksum engine start past version = some checksum
        → ∃ row, table.get? version = some row ∧ row.checksum = checksum

/-- An application or a rollback after its files have been read: its savepoint, its statements,
and with which checksum the version is listed after it.
-/
structure PlannedChange where
  name : String
  script : String
  record : SqlStatement
  version : Int
  checksum : Option String

def MigrationCall.plannedChange : MigrationCall → Option PlannedChange
  | .applyMigration files now m =>
      (engine.readUp files m).toOption.map (fun (checksum, script) =>
        ⟨"apply_tx", script, insertMigration m now checksum, m.version, some checksum⟩)
  | .rollbackMigration files m =>
      (engine.readDown files m).toOption.map (fun script =>
        ⟨"rollback_tx", script, markRolledBack m, m.version, none⟩)
  | .dryRunMigration _ _ | .execute _ | .commit | .rollback => none

/-- A call of the engine whose script leaves the table alone. What a dry run does is undone. -/
def MigrationCall.LeavesTracking (tracking : δ → Option TrackingTable) : MigrationCall → Prop
  | .execute _ | .commit | .rollback => False
  | .dryRunMigration _ _ => True
  | call =>
      ∀ change,
        call.plannedChange engine = some change
        → ∀ statement ∈ scriptOf change.script,
            ∀ data, tracking (engine.db.run statement data).2 = tracking data

/-- The change has been recorded when its commit is refused, within a transaction that was open
before and has no savepoint of the same name to go back to; and the record says something new.
-/
def MigrationCall.LeftRecorded (tracking : δ → Option TrackingTable) (c : Connection δ)
    (call : MigrationCall)
    : Prop :=
  ∃ change data table,
    call.plannedChange engine = some change
    ∧ c.Open
    ∧ c.rollbackTo change.name = none
    ∧ runAll engine.db (scriptOf change.script ++ [change.record]) c.current = (none, data)
    ∧ engine.db.refuses data ≠ none
    ∧ tracking c.current = some table
    ∧ table.appliedChecksum change.version ≠ change.checksum

end Runs

end PettyFlow.Migrations
