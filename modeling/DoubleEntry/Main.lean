import DoubleEntry.CommandLine.Run
import DoubleEntry.Directory.Snapshot

/-!
# The program

Reads the data directory, runs the command line on it, writes what has changed and prints the
output.
-/

namespace DoubleEntry.Main

/-- The contents of a file, or nothing if there is none. -/
def contents? (path : String) : IO (Option ByteArray) := do
  try
    return some (← IO.FS.readBinFile path)
  catch
    | .noFileOrDirectory .. => return none
    | e => throw e

/-- The settings file. -/
def readSettings (path : String) : IO SettingsFile := do
  try
    match ← contents? path with
    | none => return .absent
    | some bytes => match String.fromUTF8? bytes with
      | some text => return .text text
      | none => return .unreadable
  catch _ => return .unreadable

/-- A database file. -/
def readDatabase (path : String) : IO (Option (Option Database)) := do
  try
    match ← contents? path with
    | none => return none
    | some bytes => return some (String.fromUTF8? bytes >>= Database.ofText?)
  catch _ => return some none

/-- The environment variables that the program looks at. -/
def environment : IO Config.Environment := do
  let names := ["TALLY_USER", "TALLY_MAX_ATTEMPTS", "TALLY_TX_TIMEOUT_MS"]
  let values ← names.mapM fun name => do return (name, ← IO.getEnv name)
  return fun name => (values.lookup name).join

/-- The clock in nanoseconds, as the file system shows it. -/
def clock : IO Nat := do
  let (_, path) ← IO.FS.createTempFile
  let ⟨seconds, nanos⟩ := (← path.metadata).modified
  IO.FS.removeFile path
  return seconds.toNat * 1000000000 + nanos.toNat

/-- Numbers drawn at random. -/
def draws : IO (Nat → Nat) := do
  let start := mkStdGen (← IO.rand 0 4294967295)
  return fun n => ((List.range n).foldl (fun drawn _ => stdNext drawn.2) (stdNext start)).1

/-- The data directory: where the environment says, or in the home directory. -/
def directoryPath? : IO (Option String) := do
  match ← IO.getEnv "TALLY_DIR" with
  | some path => return some path
  | none => return (← IO.getEnv "HOME").map (· ++ "/.tally")

/-- The parts of a data directory that a command can touch. -/
def readDirectory (path : String) (env : Config.Environment) : IO Directory := do
  let settings ← readSettings (path ++ "/" ++ Directory.settingsName)
  let file := match Config.load settings env with
    | .ok config => Directory.fileOf? config.databaseFile
    | .error _ => none
  match file with
  | none => return ⟨settings, []⟩
  | some name =>
    let found ← readDatabase (path ++ "/" ++ name)
    return ⟨settings, found.toList.map fun db => (name, db)⟩

/-- Write the databases that have changed. -/
def writeDirectory (path : String) (before after : Directory) : IO Unit := do
  for (name, db) in after.files do
    match db with
    | some db =>
      if before.files.lookup name ≠ some (some db) then
        IO.FS.createDirAll path
        IO.FS.writeFile (path ++ "/" ++ name) db.toText
    | none => pure ()

/-- Run the program. -/
def run (args : List String) : IO UInt32 := do
  match ← directoryPath? with
  | none =>
    IO.eprintln "Could not find home directory; set TALLY_DIR"
    return 1
  | some path =>
    let env ← environment
    let before ← readDirectory path env
    let (output, after) := CommandLine.run ⟨env, ← clock, ← draws⟩ before args
    writeDirectory path before after
    IO.print output.out
    IO.eprint output.err
    return output.code.toUInt32

end DoubleEntry.Main

/-- The command line of the program. -/
def main (args : List String) : IO UInt32 :=
  DoubleEntry.Main.run args
