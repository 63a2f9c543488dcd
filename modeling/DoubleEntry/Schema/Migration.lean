import DoubleEntry.Program
import DoubleEntry.Schema

/-!
# Migrations

A migration is a list of definitions with a name.  `Migration.runPending` brings a database up to
date: it applies the migrations that are not recorded, in order, and records each.  The first
migration makes the table of records itself; it is applied when that table is missing, statement by
statement.  Each later one is applied and recorded in one transaction.
-/

namespace DoubleEntry.Schema

/-- A named list of definitions. -/
structure Migration where
  name : String
  definitions : List Definition
  deriving DecidableEq, Repr

namespace Migration

/-- The migration that makes the table of records. -/
def bootstrap : Migration :=
  ⟨"000_migrations.sql", [.table migrationsTable []]⟩

/-- The migration that makes the tables of the ledger. -/
def ledgerSchema : Migration :=
  ⟨"001_ledger_schema.sql",
    [.sequence "accounts_id_seq", .sequence "entries_id_seq", .sequence "transfers_id_seq",
      .table "accounts" [], .table "entries" ["accounts"], .table "transfers" ["accounts"],
      .index "entries_account_id_idx" "entries",
      .index "transfers_from_account_id_idx" "transfers",
      .index "transfers_to_account_id_idx" "transfers"]⟩

/-- All migrations, in order. -/
def all : List Migration := [bootstrap, ledgerSchema]

/-- Why migrating failed. -/
inductive Failure where
  /-- A definition of this migration was refused. -/
  | apply (name : String)
  /-- The records could not be read or written. -/
  | records
  deriving DecidableEq, Repr

/-- The failure in words. -/
def Failure.message : Failure → String
  | .apply name => "Failed to apply " ++ name
  | .records => "the records of migrations cannot be used"

/-- What a run did: the migrations that it applied, and how many others were recorded. -/
structure Outcome where
  applied : List String
  alreadyApplied : Nat
  deriving DecidableEq, Repr

/-- A computation that issues statements and stops at its first failure. -/
abbrev Migrating (α : Type) : Type := ExceptT Failure (Program Sql.Answer) α

/-- Issue a statement that cannot fail. -/
def issue (q : Sql) : Migrating q.Answer := ExceptT.lift (.question q)

/-- Stop at a statement that was refused. -/
def orFail {α : Type} (failure : Failure) : Except Refusal α → Migrating α
  | .ok a => pure a
  | .error _ => throw failure

/-- Carry out the definitions of a migration. -/
def apply (m : Migration) : List Definition → Migrating Unit
  | [] => pure ()
  | d :: rest => do
    orFail (.apply m.name) (← issue (.define d))
    m.apply rest

/-- Record a migration. -/
def record (m : Migration) : Migrating Unit := do
  orFail .records (← issue (.record m.name))

/-- Apply and record a migration in one transaction. -/
def applyInTransaction (m : Migration) : Migrating Unit := do
  issue .begin
  let work : Migrating Unit := do
    m.apply m.definitions
    m.record
  match ← ExceptT.lift work.run with
  | .ok () => issue .commit
  | .error failure =>
    issue .rollback
    throw failure

/-- Apply those of some migrations that are not recorded, and give their names. -/
def applyMissing (recorded : List String) : List Migration → Migrating (List String)
  | [] => pure []
  | m :: rest => do
    if m.name = bootstrap.name ∨ m.name ∈ recorded then applyMissing recorded rest
    else
      m.applyInTransaction
      return m.name :: (← applyMissing recorded rest)

/-- Make the table of records if it is missing; the answer says whether it was. -/
def ensureRecords : Migrating Bool := do
  if ← issue (.relationExists migrationsTable) then pure false
  else
    bootstrap.apply bootstrap.definitions
    bootstrap.record
    pure true

/-- The recorded migrations. -/
def applied : Migrating (List String) := do
  orFail .records (← issue .applied)

/-- The names of the migrations that are not recorded. -/
def pending : Migrating (List String) := do
  let recorded ← applied
  pure ((all.map Migration.name).filter (· ∉ recorded))

/-- Apply and record all migrations that are not recorded. -/
def runPending : Migrating Outcome := do
  let bootstrapped ← ensureRecords
  let recorded ← applied
  let names ← applyMissing recorded all
  pure
    { applied := if bootstrapped then bootstrap.name :: names else names
      alreadyApplied := if bootstrapped then recorded.length - 1 else recorded.length }

/-- Run a computation on a stored catalog. -/
def onCatalog {α : Type} (m : Migrating α) (c : Catalog) : Except Failure α × Catalog :=
  let (outcome, connection) := m.run.exec Connection.execute (.ofCatalog c)
  (outcome, connection.stored)

end Migration

end DoubleEntry.Schema
