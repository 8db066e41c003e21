import PettyFlow.Migrations.Engine

/-! Calls of the migration engine that should leave no trace: dry runs, and applications and
rollbacks that fail. They restore the data and leave their savepoint open.
-/

namespace PettyFlow.Migrations

open Foundation

section Execution

variable {δ : Type} (db : SqlDatabase δ)

/-- What statements do to the data of an open transaction, up to the first one that fails. -/
def runAll : List SqlStatement → δ → Option String × δ
  | [], data => (none, data)
  | statement :: rest, data =>
      match db.run statement data with
      | (some error, data) => (some error, data)
      | (none, data) => runAll rest data

variable {db} {c : Connection δ}

theorem execute_open (isOpen : c.Open) (statement : SqlStatement)
    : execute db statement c
      = ((db.run statement c.current).1, c.write (db.run statement c.current).2) := by
  have opened : (if db.isDml statement.sql then c.begin else c) = c := by
    rw [Transactions.begin_open isOpen, ite_self]
  unfold execute
  rw [opened]
  cases ran : db.run statement c.current with
  | mk error data =>
      cases error with
      | some error => simp only [ran]
      | none => simp only [ran, if_pos isOpen]

/-- Within a transaction statements change the data only, by induction over the statements. -/
theorem executeAll_open (isOpen : c.Open) (statements : List SqlStatement)
    : executeAll db statements c
      = ((runAll db statements c.current).1, c.write (runAll db statements c.current).2) := by
  induction statements generalizing c with
  | nil => exact Prod.ext rfl Transactions.write_self.symm
  | cons statement rest ih =>
      rw [executeAll, execute_open isOpen, runAll]
      cases ran : db.run statement c.current with
      | mk error data =>
          cases error with
          | some error => rfl
          | none =>
              have next := @ih (c.write data) isOpen
              rw [Transactions.write_current] at next
              simp only [next, Transactions.write_write]

theorem runAll_append (first later : List SqlStatement) (data : δ)
    : runAll db (first ++ later) data
      = match runAll db first data with
        | (some error, data) => (some error, data)
        | (none, data) => runAll db later data := by
  induction first generalizing data with
  | nil => rfl
  | cons statement rest ih =>
      simp only [List.cons_append, runAll]
      cases db.run statement data with
      | mk error data =>
          cases error with
          | some error => rfl
          | none => exact ih data

/-- The connection as it was, although a commit within its transaction has been refused: there is no
older savepoint of the name and the statements have left the data unchanged, or the innermost
savepoint is one of the name and holds the current data.
-/
def RefusedUnnoticed (db : SqlDatabase δ) (name : String) (statements : List SqlStatement)
    (c : Connection δ)
    : Prop :=
  c.Open
  ∧ ∃ data,
      runAll db statements c.current = (none, data)
      ∧ db.refuses data ≠ none
      ∧ ((∀ mark ∈ c.savepoints, mark.1 ≠ name) ∧ data = c.current
        ∨ c.savepoints.head? = some (name, c.current))

/-- Going back after a failure, to a savepoint that was set before. -/
theorem abandon_savepoint {α : Type} {name : String} {data : δ}
    {answer : String → Except MigrationFailure α} {error : String}
    : abandon name answer error ((c.savepoint name).write data)
      = (answer error, c.savepoint name) := by
  rw [abandon, Transactions.rollbackTo_savepoint]

theorem abandon_connection {α : Type} (name : String)
    (answer : String → Except MigrationFailure α) (error : String)
    : (abandon name answer error c).2 = (c.rollbackTo name).getD c := by
  unfold abandon
  cases c.rollbackTo name <;> rfl

/-- A change in terms of what its statements do to the data. A commit that is refused has
something to go back to only where it belongs to the savepoint itself.
-/
theorem changeAtomically_eq (name script : String) (record : SqlStatement)
    (answer : String → Except MigrationFailure Unit)
    : changeAtomically db name script record answer c
      = match runAll db (scriptOf script ++ [record]) c.current with
        | (some error, _) => (answer error, c.savepoint name)
        | (none, data) =>
            match db.refuses data with
            | none => (.ok (), .start data)
            | some error =>
                if c.Open then
                  abandon name answer error (c.write data)
                else
                  (answer error, c.savepoint name) := by
  have isOpen : (c.savepoint name).Open := Transactions.open_savepoint
  have start : (c.savepoint name).current = c.current := rfl
  rw [changeAtomically, executeScriptAtomically, executeAll_open isOpen, start, runAll_append]
  cases scripted : runAll db (scriptOf script) c.current with
  | mk error data =>
      cases error with
      | some error =>
          -- A statement of the script fails, so its savepoint is gone back to
          exact abandon_savepoint
      | none =>
          have stillOpen : ((c.savepoint name).write data).Open := isOpen
          dsimp only
          rw [execute_open stillOpen, Transactions.write_current, Transactions.write_write]
          simp only [runAll]
          cases recorded : db.run record data with
          | mk error data =>
              cases error with
              | some error => exact abandon_savepoint
              | none =>
                  dsimp only
                  by_cases outer : c.Open
                  · -- The savepoint is inside a transaction, which the commit then ends
                    have outerOpen : (c.write data).Open := outer
                    rw [Transactions.release_savepoint_open outer]
                    dsimp only
                    rw [Transactions.commit, if_pos outerOpen, Transactions.write_current]
                    cases db.refuses data with
                    | none => rfl
                    | some error => exact (if_pos outer).symm
                  · -- Giving up the savepoint is the commit
                    have committing : ((c.savepoint name).write data).Open := isOpen
                    rw [Transactions.release_savepoint_closed outer, Transactions.commit,
                      if_pos committing, Transactions.write_current]
                    cases refused : db.refuses data with
                    | none => simp only [Transactions.commit_start]
                    | some error => simp only [if_neg outer, abandon_savepoint]

/-- A change that fails leaves its savepoint behind, except where its commit was refused. -/
theorem changeAtomically_failed {name script : String} {record : SqlStatement}
    {answer : String → Except MigrationFailure Unit} {failure : MigrationFailure}
    (failed : (changeAtomically db name script record answer c).1 = .error failure)
    : (changeAtomically db name script record answer c).2 = c
      ↔ RefusedUnnoticed db name (scriptOf script ++ [record]) c := by
  rw [changeAtomically_eq] at failed ⊢
  unfold RefusedUnnoticed
  cases ran : runAll db (scriptOf script ++ [record]) c.current with
  | mk error data =>
      rw [ran] at failed
      cases error with
      | some error =>
          refine iff_of_false Transactions.savepoint_ne ?_
          rintro ⟨_, other, same, _⟩
          cases same
      | none =>
          cases refused : db.refuses data with
          | none => simp [refused] at failed
          | some error =>
              by_cases outer : c.Open
              · simp [refused, outer, abandon_connection, Transactions.getD_rollbackTo_write_iff]
              · simpa [outer, refused] using Transactions.savepoint_ne

end Execution

/-- The calls that a connection meets: those of the engine, and the host's own statements,
commits and rollbacks.
-/
inductive MigrationCall where
  | dryRunMigration (files : Files) (m : Migration)
  | applyMigration (files : Files) (now : String) (m : Migration)
  | rollbackMigration (files : Files) (m : Migration)
  | execute (statement : SqlStatement)
  | commit
  | rollback

inductive MigrationReport where
  | simulated (success : Bool) (message : String)
  | done
deriving DecidableEq

/-- The connection under the calls of an engine and of its host. -/
def migrationMachine {δ : Type} (engine : MigrationEngine δ)
    : Machine (Connection δ) MigrationCall (Except MigrationFailure MigrationReport) where
  step c call :=
    match call with
    | .dryRunMigration files m =>
        let (outcome, c) := engine.dryRunMigration files m c
        (outcome.map (fun (success, message) => .simulated success message), c)
    | .applyMigration files now m =>
        let (outcome, c) := engine.applyMigration files now m c
        (outcome.map (fun _ => .done), c)
    | .rollbackMigration files m =>
        let (outcome, c) := engine.rollbackMigration files m c
        (outcome.map (fun _ => .done), c)
    | .execute statement =>
        match PettyFlow.Migrations.execute engine.db statement c with
        | (some error, c) => (.error (.databaseError error), c)
        | (none, c) => (.ok .done, c)
    | .commit =>
        match c.commit engine.db.refuses with
        | .error error => (.error (.databaseError error), c)
        | .ok c => (.ok .done, c)
    | .rollback => (.ok .done, c.rollback)

namespace MigrationCall

/-- A call that should leave no trace: a dry run, or another call of the engine that fails. -/
def Probes : MigrationCall → Except MigrationFailure MigrationReport → Prop
  | .dryRunMigration _ _, _ => True
  | .applyMigration _ _ _, .error _ | .rollbackMigration _ _, .error _ => True
  | .applyMigration _ _ _, .ok _ | .rollbackMigration _ _, .ok _ => False
  | .execute _, _ | .commit, _ | .rollback, _ => False

variable {δ : Type} (engine : MigrationEngine δ) (c : Connection δ)

/-- The files of the migration cannot be read, or there is no undo script. -/
def Unreadable : MigrationCall → Prop
  | .dryRunMigration files m => ∃ error, engine.readScript files m.upScriptPath = .error error
  | .applyMigration files _ m => ∃ error, engine.readUp files m = .error error
  | .rollbackMigration files m => ∃ error, engine.readDown files m = .error error
  | .execute _ | .commit | .rollback => False

/-- The commit of the migration was refused, with no difference to the connection. -/
def CommitRefused : MigrationCall → Prop
  | .applyMigration files now m =>
      ∃ checksum script,
        engine.readUp files m = .ok (checksum, script)
        ∧ RefusedUnnoticed engine.db "apply_tx"
            (scriptOf script ++ [insertMigration m now checksum]) c
  | .rollbackMigration files m =>
      ∃ script,
        engine.readDown files m = .ok script
        ∧ RefusedUnnoticed engine.db "rollback_tx" (scriptOf script ++ [markRolledBack m]) c
  | .dryRunMigration _ _ | .execute _ | .commit | .rollback => False

end MigrationCall

section Probes

variable {δ : Type} {engine : MigrationEngine δ} {c : Connection δ}

/-- A dry run that reads its script restores the data and leaves its savepoint. -/
theorem dryRun_connection {files : Files} {m : Migration} {script : String}
    (read : engine.readScript files m.upScriptPath = .ok script)
    : (engine.dryRunMigration files m c).2 = c.savepoint "dry_run_migration" := by
  unfold MigrationEngine.dryRunMigration executeScriptAtomically
  rw [read]
  dsimp only
  rw [executeAll_open Transactions.open_savepoint]
  cases runAll engine.db (scriptOf script) (c.savepoint "dry_run_migration").current with
  | mk error data =>
      cases error with
      | some error => exact congrArg Prod.snd abandon_savepoint
      | none => simp only [Transactions.rollbackTo_savepoint]

theorem dryRun_leaves_iff (files : Files) (m : Migration)
    : (engine.dryRunMigration files m c).2 = c
      ↔ ∃ error, engine.readScript files m.upScriptPath = .error error := by
  cases read : engine.readScript files m.upScriptPath with
  | error error =>
      refine iff_of_true ?_ ⟨error, rfl⟩
      simp only [MigrationEngine.dryRunMigration, read]
  | ok script =>
      rw [dryRun_connection read]
      exact iff_of_false Transactions.savepoint_ne nofun

/-- An application that fails leaves the connection as it was in two cases. -/
theorem apply_leaves_iff {files : Files} {now : String} {m : Migration}
    {failure : MigrationFailure}
    (failed : (engine.applyMigration files now m c).1 = .error failure)
    : (engine.applyMigration files now m c).2 = c
      ↔ MigrationCall.Unreadable engine (.applyMigration files now m)
        ∨ MigrationCall.CommitRefused engine c (.applyMigration files now m) := by
  unfold MigrationEngine.applyMigration at failed ⊢
  unfold MigrationCall.Unreadable MigrationCall.CommitRefused
  cases read : engine.readUp files m with
  | error error => exact iff_of_true rfl (.inl ⟨error, read⟩)
  | ok result =>
      obtain ⟨checksum, script⟩ := result
      rw [read] at failed
      refine (changeAtomically_failed failed).trans ?_
      simp [read]

theorem rollback_leaves_iff {files : Files} {m : Migration} {failure : MigrationFailure}
    (failed : (engine.rollbackMigration files m c).1 = .error failure)
    : (engine.rollbackMigration files m c).2 = c
      ↔ MigrationCall.Unreadable engine (.rollbackMigration files m)
        ∨ MigrationCall.CommitRefused engine c (.rollbackMigration files m) := by
  unfold MigrationEngine.rollbackMigration at failed ⊢
  unfold MigrationCall.Unreadable MigrationCall.CommitRefused
  cases read : engine.readDown files m with
  | error error => exact iff_of_true rfl (.inl ⟨error, read⟩)
  | ok script =>
      rw [read] at failed
      refine (changeAtomically_failed failed).trans ?_
      simp [read]

end Probes

section Sample

/-- A database that lists its tables. -/
def tableList : SqlDatabase (List String) where
  run statement tables :=
    if statement.sql = "INVALID" then
      (some "syntax error", tables)
    else
      (none, tables ++ [statement.sql])
  isDml _ := false
  refuses _ := none

def sampleEngine : MigrationEngine (List String) := ⟨tableList, id, fun _ => ""⟩

def firstMigration : Migration := ⟨1, "init", "V001__init.sql", none⟩

/-- A directory whose scripts have one text. -/
def scriptFiles (script : String) : Files := ⟨fun _ => .ok [], fun _ => .ok script, fun _ => true⟩

/-- A directory without the script. -/
def missingFiles : Files :=
  ⟨fun _ => .error "No such file", fun _ => .error "No such file", fun _ => false⟩

end Sample

end PettyFlow.Migrations
