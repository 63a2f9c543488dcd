import DoubleEntry.Error
import DoubleEntry.Retry
import DoubleEntry.Text.Blank

/-!
# Configuration

The settings under which a ledger works, with their rules.
-/

namespace DoubleEntry

/-- The settings of a ledger. -/
structure Config where
  maxAttempts : Nat
  baseDelayMs : Nat
  maxDelayMs : Nat
  transactionTimeoutMs : Option Nat
  databaseFile : String
  deriving DecidableEq, Repr

namespace Config

/-- The settings of a ledger that says nothing about them. -/
def standard : Config := ⟨5, 10, 500, none, "tally.duckdb"⟩

/-- The rules that settings keep. -/
def check (c : Config) : Except Error Unit := do
  if c.maxAttempts = 0 then
    .error (.config "retry.maxAttempts must be at least 1")
  if c.maxDelayMs < c.baseDelayMs then
    .error (.config "retry.baseDelayMs cannot exceed retry.maxDelayMs")
  if c.transactionTimeoutMs = some 0 then
    .error (.config "transactionTimeoutMs must be at least 1")
  if (Text.trim c.databaseFile.toList).isEmpty then
    .error (.config "databaseFile cannot be empty")

theorem check_eq_ok {c : Config} : c.check = .ok () ↔
    1 ≤ c.maxAttempts ∧ c.baseDelayMs ≤ c.maxDelayMs ∧ c.transactionTimeoutMs ≠ some 0 ∧
      Text.trim c.databaseFile.toList ≠ [] := by
  unfold check
  by_cases attempts : c.maxAttempts = 0
  · simp [attempts, bind, Except.bind]
  by_cases delays : c.maxDelayMs < c.baseDelayMs
  · simp [attempts, delays, Nat.not_le.2 delays, bind, Except.bind]
  by_cases timeout : c.transactionTimeoutMs = some 0
  · simp [attempts, delays, timeout, bind, Except.bind]
  by_cases name : Text.trim c.databaseFile.toList = []
  · simp [attempts, delays, timeout, name]
  · simp [attempts, delays, timeout, name, Nat.not_lt.1 delays, Nat.one_le_iff_ne_zero, pure,
      Except.pure]

/-- The rules for retrying that follow. -/
def retryPolicy (c : Config) : RetryPolicy :=
  ⟨c.maxAttempts, .ofMillis c.baseDelayMs, .ofMillis c.maxDelayMs⟩

/-- How long a unit of work may take. -/
def transactionTimeout (c : Config) : Option Duration :=
  c.transactionTimeoutMs.map .ofMillis

/-- The standard settings make the standard rules for retrying. -/
theorem retryPolicy_standard : standard.retryPolicy = RetryPolicy.standard := rfl

end Config

end DoubleEntry
