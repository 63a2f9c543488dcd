import DoubleEntry.Config
import DoubleEntry.Json.Printer
import DoubleEntry.Json.Reader
import DoubleEntry.Text.Quoted

/-!
# The settings file

Settings are kept in a JSON object next to the ledger.  The file may leave out any setting, and may
hold fields that are not settings: saving keeps those.

* `Settings.ofJson` and `Settings.toJson` are the form of the file;
* `Config.load` takes each setting from the environment, the file or the standard settings, in this
  order, and checks the outcome;
* `Config.save` gives the new state of the file.
-/

namespace DoubleEntry

open Json (Reader Record)
open Json.Record (fieldOr)

/-! ## The contents of the file -/

/-- The settings for retrying, and the other fields next to them. -/
structure RetrySettings where
  maxAttempts : Option Nat
  baseDelayMs : Option Nat
  maxDelayMs : Option Nat
  others : List (String × Json)

/-- The settings in a file, and its other fields. -/
structure Settings where
  retry : RetrySettings
  transactionTimeoutMs : Option Nat
  databaseFile : Option String
  others : List (String × Json)

namespace Settings

/-- No settings at all. -/
def empty : Settings := ⟨⟨none, none, none, []⟩, none, none, []⟩

/-- The numbers below `bound`, for numbers of attempts. -/
def attemptsBound : Nat := 4294967296

/-- The numbers below `bound`, for milliseconds. -/
def millisBound : Nat := 18446744073709551616

/-- A number below a bound, or null. -/
def number (bound : Nat) : Reader (Option Nat) :=
  Json.optional fun depth doc => (Json.integer 0 (bound - 1 : Nat) depth doc).map Int.toNat

/-- The fields for retrying. -/
def retryFields : Record (List (String × Json) → RetrySettings) :=
  RetrySettings.mk <$> fieldOr "maxAttempts" none (number attemptsBound) <*>
    fieldOr "baseDelayMs" none (number millisBound) <*>
    fieldOr "maxDelayMs" none (number millisBound)

/-- Read the settings for retrying. -/
def retryOfJson : Reader RetrySettings := fun depth doc => do
  let (settings, others) ← Json.openRecord retryFields depth doc
  pure (settings others)

/-- The fields of the file. -/
def fields : Record (List (String × Json) → Settings) :=
  Settings.mk <$> fieldOr "retry" empty.retry retryOfJson <*>
    fieldOr "transactionTimeoutMs" none (number millisBound) <*>
    fieldOr "databaseFile" none (Json.optional Json.string)

/-- Read the contents of the file. -/
def ofJson : Reader Settings := fun depth doc => do
  let (settings, others) ← Json.openRecord fields depth doc
  pure (settings others)

/-- A field with a number, if there is one. -/
def numberField (name : String) (value : Option Nat) : List (String × Json) :=
  value.toList.map fun (n : Nat) => (name, .int n)

/-- The contents of the file as an object: first the settings, then the other fields. -/
def toJson (s : Settings) : Json :=
  let retry := numberField "maxAttempts" s.retry.maxAttempts ++
    numberField "baseDelayMs" s.retry.baseDelayMs ++
    numberField "maxDelayMs" s.retry.maxDelayMs ++ s.retry.others
  .obj (("retry", .obj retry) :: numberField "transactionTimeoutMs" s.transactionTimeoutMs ++
    s.databaseFile.toList.map (fun name => ("databaseFile", .str name)) ++ s.others)

end Settings

/-! ## The file -/

/-- What is found in the place of the settings file. -/
inductive SettingsFile where
  | absent
  /-- It cannot be read as a text. -/
  | unreadable
  | text (content : String)
  deriving DecidableEq, Repr

/-- The settings in the file. -/
def SettingsFile.read : SettingsFile → Except Error Settings
  | .absent => .ok .empty
  | .unreadable => .error (.io "settings.json cannot be read")
  | .text content => match Json.readText Settings.ofJson content with
    | .ok settings => .ok settings
    | .error _ => .error (.config "invalid settings.json")

namespace Config

/-! ## Loading -/

/-- The environment variables. -/
abbrev Environment := String → Option String

/-- A number below `bound` in an environment variable. -/
def fromEnvironment (env : Environment) (name : String) (bound : Nat) : Except Error (Option Nat) :=
  match env name with
  | none => .ok none
  | some raw => match Text.readBelow? bound (Text.trim raw.toList) with
    | some n => .ok (some n)
    | none => .error (.config
        (name ++ " must be a non-negative integer, got " ++ Text.quoted raw))

/-- The settings from all sources. -/
def load (file : SettingsFile) (env : Environment) : Except Error Config := do
  let settings ← file.read
  let maxAttempts ← fromEnvironment env "TALLY_MAX_ATTEMPTS" Settings.attemptsBound
  let timeout ← fromEnvironment env "TALLY_TX_TIMEOUT_MS" Settings.millisBound
  let config : Config :=
    { maxAttempts := (maxAttempts.or settings.retry.maxAttempts).getD standard.maxAttempts
      baseDelayMs := settings.retry.baseDelayMs.getD standard.baseDelayMs
      maxDelayMs := settings.retry.maxDelayMs.getD standard.maxDelayMs
      transactionTimeoutMs := timeout.or settings.transactionTimeoutMs
      databaseFile := settings.databaseFile.getD standard.databaseFile }
  config.check
  pure config

/-! ## Saving -/

/-- The settings with those of a configuration in place. -/
def overwrite (c : Config) (settings : Settings) : Settings :=
  { settings with
    retry := { settings.retry with
      maxAttempts := some c.maxAttempts
      baseDelayMs := some c.baseDelayMs
      maxDelayMs := some c.maxDelayMs }
    transactionTimeoutMs := c.transactionTimeoutMs
    databaseFile := some c.databaseFile }

/-- The file after saving. -/
def save (c : Config) (file : SettingsFile) : Except Error SettingsFile := do
  c.check
  let settings ← file.read
  pure (.text (c.overwrite settings).toJson.prettyText)

end Config

end DoubleEntry
