import PettyFlow.Foundation.CharTables
import PettyFlow.Foundation.Dict
import PettyFlow.Foundation.Patterns
import PettyFlow.Migrations.Engine

/-! Discovery of the migrations in a directory from the names of its files. -/

namespace PettyFlow.Migrations

open Foundation

/-- What discovery raises when a version has more digits than a number may be read from. -/
inductive DiscoveryFailure where
  | valueError (message : String)
deriving DecidableEq

section Names

variable (tables : CharTables)

/-- The pattern of the names of scripts: a letter, the digits of a version, and a name. -/
def scriptPattern (letter : Char) : Pattern :=
  .sequence
    [
      .atStart,
      .one (· = letter),
      .group (.run tables.isDecimal 1 none),
      .word "__".toList,
      .group (.run (· ≠ '\n') 1 none),
      .word ".sql".toList,
      .atEnd
    ]

/-- The digits and the name in the name of a file, if it matches the pattern. -/
def scriptName? (letter : Char) (file : String) : Option (List Char × String) :=
  match (scriptPattern tables letter).matchAt (.start file.toList) with
  | some (_, [digits, name]) => some (digits, String.ofList name)
  | _ => none

def tooManyDigits (count : Nat) : String :=
  s!"Exceeds the limit ({maxStrDigits} digits) for integer string conversion: "
    ++ s!"value has {count} digits; use sys.set_int_max_str_digits() to increase the limit"

def readVersion (digits : List Char) : Except DiscoveryFailure Nat :=
  if digits.length ≤ maxStrDigits then
    .ok (tables.number digits)
  else
    .error (.valueError (tooManyDigits digits.length))

end Names

/-- The path of a file in a directory, whose own path has been brought into normal form. -/
def scriptPath (migrationsDir file : String) : String :=
  if migrationsDir = "." then
    file
  else if migrationsDir.toList.getLast? = some '/' then
    migrationsDir ++ file
  else
    migrationsDir ++ "/" ++ file

/-- A name that the search for scripts lists. -/
def isSqlFile (file : String) : Bool := ".sql".toList.isSuffixOf file.toList

structure ScriptFiles where
  upFiles : Dict Nat (String × String)
  downFiles : Dict Nat String

section Discovery

variable (tables : CharTables) (migrationsDir : String)

/-- File the scripts under their versions, a later one over an earlier one. -/
def collectFiles : List String → ScriptFiles → Except DiscoveryFailure ScriptFiles
  | [], found => .ok found
  | file :: rest, found =>
      match scriptName? tables 'V' file with
      | some (digits, name) => do
          let version ← readVersion tables digits
          let entry := (name, scriptPath migrationsDir file)
          collectFiles rest { found with upFiles := found.upFiles.set version entry }
      | none =>
          match scriptName? tables 'U' file with
          | some (digits, _) => do
              let version ← readVersion tables digits
              let path := scriptPath migrationsDir file
              collectFiles rest { found with downFiles := found.downFiles.set version path }
          | none => collectFiles rest found

def ScriptFiles.migration? (found : ScriptFiles) (version : Nat) : Option Migration :=
  (found.upFiles.get? version).map (fun entry =>
    {
      version
      name := entry.1
      upScriptPath := entry.2
      downScriptPath := found.downFiles.get? version
    })

/-- The migrations of a directory, given the names of its files as they are listed, or nothing
if there is no directory.
-/
def discoverMigrations : Option (List String) → Except DiscoveryFailure (List Migration)
  | none => .ok []
  | some listing => do
      let found ← collectFiles tables migrationsDir (listing.filter isSqlFile) ⟨.empty, .empty⟩
      let versions := (found.upFiles.entries.map Prod.fst).mergeSort
      return versions.filterMap found.migration?

end Discovery

end PettyFlow.Migrations
