import DoubleEntry.Config.Settings
import DoubleEntry.Coordinator
import DoubleEntry.Schema.Migration
import DoubleEntry.Store.Relational

/-!
# The data directory

A data directory holds the settings file and the database of the ledger, in the file that the
settings name.  Opening the ledger reads the settings, makes the database if it is missing, and
brings its schema up to date.  Closing it saves what was committed.  The sequences are saved along
with that, and only with that: if nothing was written, the numbers drawn meanwhile are drawn again.
-/

namespace DoubleEntry

/-- A database file. -/
structure Database where
  catalog : Schema.Catalog
  tables : Relational.Tables
  sequences : Relational.Sequences
  deriving DecidableEq, Repr

/-- A new database file. -/
def Database.empty : Database := ⟨.empty, .empty, .fresh⟩

/-- A data directory: its settings file, and its other files by name.  A file that is no database is
known by its name only. -/
structure Directory where
  settings : SettingsFile
  files : List (String × Option Database)

namespace Directory

/-- The name of the settings file. -/
def settingsName : String := "settings.json"

/-- A directory without files. -/
def empty : Directory := ⟨.absent, []⟩

/-- The database in a file, which is empty if the file is missing. -/
def database? (d : Directory) (name : String) : Option Database :=
  match d.files.lookup name with
  | some found => found
  | none => some .empty

/-- Put a database into a file. -/
def withDatabase (d : Directory) (name : String) (db : Database) : Directory :=
  { d with files := (name, some db) :: d.files.filter (·.1 ≠ name) }

/-- The names of all files, in alphabetical order. -/
def fileNames (d : Directory) : List String :=
  let settings := match d.settings with
    | .absent => []
    | _ => [settingsName]
  (settings ++ d.files.map Prod.fst).mergeSort fun a b => decide (a ≤ b)

/-- The file of this directory that a path names.  Paths that lead out of it or into a directory
name none, and neither does the settings file. -/
def fileOf? (path : String) : Option String :=
  match (path.toList.splitOn '/').reverse with
  | [] => none
  | last :: before =>
    let name := String.ofList last
    if before.all (· = ['.']) ∧ name ∉ ["", ".", "..", settingsName] ∧
        name.utf8ByteSize ≤ 255 ∧ '\x00' ∉ last then some name
    else none

/-- An open ledger: its settings, the file of its database, and whether opening it changed the
schema. -/
structure Opened where
  config : Config
  file : String
  migrated : Bool
  deriving DecidableEq, Repr

/-- The failure of a file that cannot be opened as a database. -/
def cannotOpen : Error := .database "the database file cannot be opened"

/-- Open the ledger of a directory. -/
def openLedger (d : Directory) (env : Config.Environment) : Except Error Opened × Directory :=
  match Config.load d.settings env with
  | .error e => (.error e, d)
  | .ok config =>
    match fileOf? config.databaseFile with
    | none => (.error cannotOpen, d)
    | some file =>
      match d.database? file with
      | none => (.error cannotOpen, d)
      | some db =>
        let (outcome, catalog) := Schema.Migration.onCatalog Schema.Migration.runPending db.catalog
        let d := d.withDatabase file { db with catalog }
        match outcome with
        | .ok done => (.ok ⟨config, file, !done.applied.isEmpty⟩, d)
        | .error failure => (.error (.database failure.message), d)

/-- The state of the database when the ledger is opened. -/
def records (d : Directory) (ledger : Opened) : Relational.State :=
  let db := (d.database? ledger.file).getD .empty
  ⟨db.tables, db.sequences, ledger.migrated⟩

/-- Close a ledger in this state. -/
def close (d : Directory) (ledger : Opened) (state : Relational.State) : Directory :=
  if state.written then
    let db := (d.database? ledger.file).getD .empty
    d.withDatabase ledger.file { db with tables := state.tables, sequences := state.sequences }
  else d

end Directory

end DoubleEntry
