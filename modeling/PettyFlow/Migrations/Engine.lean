import PettyFlow.Foundation.Bytes
import PettyFlow.Foundation.Clock
import PettyFlow.Foundation.Machine
import PettyFlow.Foundation.Savepoints
import PettyFlow.Foundation.Values

/-! The migration engine over a connection to a database. Scripts run statement by statement
within a savepoint.
-/

namespace PettyFlow.Migrations

open Foundation

structure Migration where
  version : Nat
  name : String
  upScriptPath : String
  downScriptPath : Option String
deriving DecidableEq

def Migration.versionTag (m : Migration) : String := s!"V{zeroPadded 3 m.version}"

/-- The exceptions of the engine: those of the file system, its own, and those of the database
that it lets pass.
-/
inductive MigrationFailure where
  | fileError (message : String)
  | migrationError (message : String)
  | databaseError (message : String)
deriving DecidableEq

/-- The file system as a call finds it. Reading a text decodes it. -/
structure Files where
  readBytes : String → Except String Bytes
  readText : String → Except String String
  exists? : String → Bool

inductive SqlValue where
  | integer (value : Int)
  | text (value : String)
deriving DecidableEq

structure SqlStatement where
  sql : String
  parameters : List SqlValue
deriving DecidableEq

/-- What the database does with statements that do not control transactions: an error if there
is one, and the data that the statement leaves; before which statements the driver begins a
transaction; and why a commit of some data is refused.
-/
structure SqlDatabase (δ : Type) where
  run : SqlStatement → δ → Option String × δ
  isDml : String → Bool
  refuses : δ → Option String

/-- The names of savepoints are in small letters. -/
abbrev Connection (δ : Type) := Transactions String δ

/-! ### Statements of a script -/

/-- The characters that end a line. -/
def isLineBreak (c : Char) : Bool :=
  [0x0A, 0x0B, 0x0C, 0x0D, 0x1C, 0x1D, 0x1E, 0x85, 0x2028, 0x2029].contains c.toNat

/-- The lines of a text, without the breaks between them. -/
def splitLinesFrom (line : List Char) : List Char → List String
  | [] => if line = [] then [] else [String.ofList line.reverse]
  | '\r' :: '\n' :: rest => String.ofList line.reverse :: splitLinesFrom [] rest
  | c :: rest =>
      if isLineBreak c then
        String.ofList line.reverse :: splitLinesFrom [] rest
      else
        splitLinesFrom (c :: line) rest

def splitLines (text : String) : List String := splitLinesFrom [] text.toList

/-- The stripped text of some lines. -/
def joinedLines (lines : List String) : String := strip ("\n".intercalate lines)

/-- The statements among lines, some of which may have been read for the first one. Blank lines
and lines that begin as comments are dropped, a semicolon at the end of a line ends a statement.
-/
def statementsFrom (current : List String) : List String → List String
  | [] => if current = [] then [] else [joinedLines current]
  | line :: rest =>
      let stripped := (strip line).toList
      if "--".toList.isPrefixOf stripped ∨ stripped = [] then
        statementsFrom current rest
      else if stripped.getLast? = some ';' then
        joinedLines (current ++ [line]) :: statementsFrom [] rest
      else
        statementsFrom (current ++ [line]) rest

/-- A statement without the semicolons at its end. -/
def cleanStatement (statement : String) : String :=
  strip (String.ofList (statement.toList.reverse.dropWhile (· = ';')).reverse)

/-- The statements of a script as they are executed. -/
def scriptStatements (script : String) : List String :=
  (((statementsFrom [] (splitLines script)).filter (· ≠ "")).map cleanStatement).filter (· ≠ "")

/-! ### Execution -/

section Execution

variable {δ : Type} (db : SqlDatabase δ)

/-- Execute a statement, in a transaction if it is one that changes rows. Outside of one the
change is committed at once, unless it is refused.
-/
def execute (statement : SqlStatement) (c : Connection δ) : Option String × Connection δ :=
  let c := if db.isDml statement.sql then c.begin else c
  match db.run statement c.current with
  | (some error, data) => (some error, c.write data)
  | (none, data) =>
      match if c.Open then none else db.refuses data with
      | some error => (some error, c)
      | none => (none, c.write data)

/-- Execute statements up to the first one that fails. -/
def executeAll : List SqlStatement → Connection δ → Option String × Connection δ
  | [], c => (none, c)
  | statement :: rest, c =>
      match execute db statement c with
      | (some error, c) => (some error, c)
      | (none, c) => executeAll rest c

/-- The statements of a script, which have no parameters. -/
def scriptOf (script : String) : List SqlStatement := (scriptStatements script).map (⟨·, []⟩)

def executeScriptAtomically (script : String) (c : Connection δ) : Option String × Connection δ :=
  executeAll db (scriptOf script) c

def noSuchSavepoint (name : String) : String := s!"no such savepoint: {name}"

/-- After a failure, go back to the savepoint and answer with the text of the failure; going
back may itself fail.
-/
def abandon {α : Type} (name : String) (answer : String → Except MigrationFailure α)
    (error : String) (c : Connection δ)
    : Except MigrationFailure α × Connection δ :=
  match c.rollbackTo name with
  | some restored => (answer error, restored)
  | none => (.error (.databaseError (noSuchSavepoint name)), c)

/-- Execute a script and the statement that records it within a savepoint, give this up and
commit.
-/
def changeAtomically (name script : String) (record : SqlStatement)
    (answer : String → Except MigrationFailure Unit) (c : Connection δ)
    : Except MigrationFailure Unit × Connection δ :=
  match executeScriptAtomically db script (c.savepoint name) with
  | (some error, worked) => abandon name answer error worked
  | (none, worked) =>
      match execute db record worked with
      | (some error, worked) => abandon name answer error worked
      | (none, worked) =>
          match worked.release db.refuses (noSuchSavepoint name) name with
          | .error error => abandon name answer error worked
          | .ok released =>
              match released.commit db.refuses with
              | .error error => abandon name answer error released
              | .ok committed => (.ok (), committed)

end Execution

/-- A database, the rewriting of scripts for it, and the digest of script files. -/
structure MigrationEngine (δ : Type) where
  db : SqlDatabase δ
  adaptPostgresScriptToSqlite : String → String
  sha256 : Bytes → String

def insertMigration (m : Migration) (now checksum : String) : SqlStatement where
  sql :=
    "INSERT INTO schema_migrations (version, name, applied_at, checksum, status) "
      ++ "VALUES (?, ?, ?, ?, 'APPLIED') "
      ++ "ON CONFLICT(version) DO UPDATE SET "
      ++ "status = 'APPLIED', applied_at = excluded.applied_at, checksum = excluded.checksum"
  parameters := [.integer m.version, .text m.name, .text now, .text checksum]

def markRolledBack (m : Migration) : SqlStatement where
  sql := "UPDATE schema_migrations SET status = 'ROLLED_BACK' WHERE version = ?"
  parameters := [.integer m.version]

namespace MigrationEngine

variable {δ : Type} (engine : MigrationEngine δ)

/-- The script at a path, rewritten. -/
def readScript (files : Files) (path : String) : Except MigrationFailure String :=
  ((files.readText path).mapError .fileError).map engine.adaptPostgresScriptToSqlite

def computeFileChecksum (files : Files) (path : String) : Except MigrationFailure String :=
  ((files.readBytes path).mapError .fileError).map engine.sha256

/-- Whether a migration would succeed, and a message. -/
def dryRunMigration (files : Files) (m : Migration) (c : Connection δ)
    : Except MigrationFailure (Bool × String) × Connection δ :=
  match engine.readScript files m.upScriptPath with
  | .error error => (.error error, c)
  | .ok script =>
      let name := "dry_run_migration"
      let failed error := .ok (false, s!"Dry-run for {m.versionTag} failed: {error}")
      match executeScriptAtomically engine.db script (c.savepoint name) with
      | (some error, worked) => abandon name failed error worked
      | (none, worked) =>
          match worked.rollbackTo name with
          | some restored => (.ok (true, s!"Dry-run for {m.versionTag} succeeded."), restored)
          | none => abandon name failed (noSuchSavepoint name) worked

/-- The checksum and the script of a migration. -/
def readUp (files : Files) (m : Migration) : Except MigrationFailure (String × String) := do
  let checksum ← engine.computeFileChecksum files m.upScriptPath
  let script ← engine.readScript files m.upScriptPath
  return (checksum, script)

def applyMigration (files : Files) (now : String) (m : Migration) (c : Connection δ)
    : Except MigrationFailure Unit × Connection δ :=
  match engine.readUp files m with
  | .error error => (.error error, c)
  | .ok (checksum, script) =>
      changeAtomically engine.db "apply_tx" script (insertMigration m now checksum)
        (fun error =>
          .error (.migrationError s!"Failed applying migration {m.versionTag}: {error}"))
        c

/-- The undo script of a migration, which may be missing. -/
def readDown (files : Files) (m : Migration) : Except MigrationFailure String :=
  match m.downScriptPath.filter files.exists? with
  | none =>
      .error (.migrationError s!"Cannot rollback {m.versionTag}: No undo script found.")
  | some path => engine.readScript files path

def rollbackMigration (files : Files) (m : Migration) (c : Connection δ)
    : Except MigrationFailure Unit × Connection δ :=
  match engine.readDown files m with
  | .error error => (.error error, c)
  | .ok script =>
      changeAtomically engine.db "rollback_tx" script (markRolledBack m)
        (fun error => .error (.migrationError s!"Failed rolling back {m.versionTag}: {error}"))
        c

end MigrationEngine

end PettyFlow.Migrations
