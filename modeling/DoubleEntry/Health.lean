import DoubleEntry.Coordinator
import DoubleEntry.Json.Printer

/-!
# Health

Checks that the records of a ledger agree with each other.  Each check looks at one part of the
audit and names the records that do not pass; the ledger is healthy if no check finds an error.
-/

namespace DoubleEntry

/-! ## Checks -/

/-- How a check ended. -/
inductive CheckStatus where
  | pass
  | warning
  | error
  deriving DecidableEq, Repr

/-- The name of the status. -/
def CheckStatus.name : CheckStatus → String
  | .pass => "pass"
  | .warning => "warning"
  | .error => "error"

/-- The numbers that tell what is wrong about one record, each with its name; names are listed in
alphabetical order. -/
abbrev Finding : Type := List (String × Int)

/-- The outcome of a check. -/
structure HealthCheck where
  name : String
  status : CheckStatus
  message : String
  findings : List Finding
  deriving DecidableEq, Repr

namespace HealthCheck

/-- A check that passes if there is nothing to be found. -/
def of (name : String) (ifFound : CheckStatus) (findings : List Finding)
    (good bad : String) : HealthCheck :=
  if findings.isEmpty then ⟨name, .pass, good, []⟩ else ⟨name, ifFound, bad, findings⟩

/-- No balance is below zero. -/
def negativeBalances (a : Audit) : HealthCheck :=
  of "negative_balances" .error (a.negativeBalances.map fun id => [("account_id", id)])
    "No account is overdrawn"
    (toString a.negativeBalances.length ++ " account(s) have a negative balance")

/-- All entries together make zero. -/
def entriesNetZero (a : Audit) : HealthCheck :=
  of "entries_net_zero" .error
    (if a.entrySum = 0 then [] else [[("entry_sum", a.entrySum)]])
    "Debits and credits cancel out"
    ("Entries sum to " ++ toString a.entrySum ++ " instead of zero")

/-- The entries of each account make what its transfers make. -/
def entryTransferAgreement (a : Audit) : HealthCheck :=
  of "entry_transfer_agreement" .error
    (a.drifted.map fun d => [("account_id", d.account), ("entry_total", d.entryTotal),
      ("transfer_total", d.transferTotal)])
    "Every account's entries match its transfers"
    (toString a.drifted.length ++ " account(s) have entries that disagree with their transfers")

/-- Transfers have a positive amount and two sides. -/
def invalidTransfers (a : Audit) : HealthCheck :=
  of "invalid_transfers" .warning (a.invalidTransfers.map fun id => [("transfer_id", id)])
    "All transfers are well formed"
    (toString a.invalidTransfers.length ++ " transfer(s) are malformed")

/-- Entries and transfers name accounts that exist. -/
def orphanedRecords (a : Audit) : HealthCheck :=
  of "orphaned_records" .error
    (a.orphanedEntries.map (fun id => [("entry_id", id)]) ++
      a.orphanedTransfers.map fun id => [("transfer_id", id)])
    "No entries or transfers reference missing accounts"
    (toString (a.orphanedEntries.length + a.orphanedTransfers.length) ++
      " record(s) reference missing accounts")

/-- A finding as an object. -/
def findingToJson (f : Finding) : Json :=
  .obj (f.map fun (name, n) => (name, .int n))

/-- The outcome as an object, without its name. -/
def toJson (c : HealthCheck) : Json :=
  .obj ([("status", .str c.status.name), ("message", .str c.message)] ++
    if c.findings.isEmpty then [] else [("details", .arr (c.findings.map findingToJson))])

end HealthCheck

/-! ## Reports -/

/-- The outcomes of all checks, by name. -/
structure Health where
  checks : List HealthCheck
  deriving DecidableEq, Repr

namespace Health

/-- Do all checks on an audit. -/
def ofAudit (a : Audit) : Health :=
  ⟨[.entriesNetZero a, .entryTransferAgreement a, .invalidTransfers a, .negativeBalances a,
    .orphanedRecords a]⟩

/-- How many checks ended in a status. -/
def count (h : Health) (status : CheckStatus) : Nat :=
  h.checks.countP (·.status == status)

/-- Whether no check found an error. -/
def isHealthy (h : Health) : Bool :=
  h.count .error == 0

/-- The report as an object. -/
def toJson (h : Health) : Json :=
  .obj [("checks", .obj (h.checks.map fun c => (c.name, c.toJson))),
    ("summary", .obj [("passed", .int (h.count .pass)), ("warnings", .int (h.count .warning)),
      ("errors", .int (h.count .error))])]

end Health

/-- Check the ledger. -/
def Coordinator.checkHealth {ν : Type} (c : Coordinator) (ctx : Context) : Operation ν Health := do
  let audit ← c.run ctx (Task.call .audit)
  pure (.ofAudit audit)

end DoubleEntry
