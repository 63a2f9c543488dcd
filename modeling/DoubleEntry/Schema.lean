/-!
# The schema of a database

What a database knows about its own structure: tables, views, sequences and indexes, and the list of
the migrations that were recorded as applied.  `Sql` are the statements that change or ask for it;
a `Connection` carries them out, each by itself or several in one transaction.
-/

namespace DoubleEntry.Schema

/-! ## The catalog -/

/-- The names of what a database holds. -/
structure Catalog where
  tables : List String
  views : List String
  sequences : List String
  indexes : List String
  /-- The rows of the table of migrations. -/
  recorded : List String
  deriving DecidableEq, Repr

/-- The catalog of a new database. -/
def Catalog.empty : Catalog := ⟨[], [], [], [], []⟩

/-- The table that lists the migrations. -/
def migrationsTable : String := "schema_migrations"

/-- A statement that adds to the catalog unless it is there already. -/
inductive Definition where
  | table (name : String) (references : List String)
  | sequence (name : String)
  | index (name table : String)
  deriving DecidableEq, Repr

/-- The answer of a statement that was not carried out. -/
inductive Refusal where
  | refused
  deriving DecidableEq, Repr

namespace Catalog

/-- A list with a name. -/
def including (names : List String) (name : String) : List String :=
  if name ∈ names then names else names ++ [name]

/-- Carry out a definition.  A view stands in the way of a table of its name, and tables that are
referred to or indexed must be there. -/
def define (c : Catalog) : Definition → Except Refusal Catalog
  | .table name references =>
    if name ∈ c.views ∨ !references.all (· ∈ c.tables) then .error .refused
    else .ok { c with tables := including c.tables name }
  | .sequence name => .ok { c with sequences := including c.sequences name }
  | .index name table =>
    if table ∈ c.tables then .ok { c with indexes := including c.indexes name }
    else .error .refused

/-- The names of tables and views. -/
def relations (c : Catalog) : List String :=
  (c.tables ++ c.views).mergeSort fun a b => decide (a ≤ b)

/-- The names of the recorded migrations, in alphabetical order. -/
def applied (c : Catalog) : Except Refusal (List String) :=
  if migrationsTable ∈ c.tables then .ok (c.recorded.mergeSort fun a b => decide (a ≤ b))
  else .error .refused

/-- Record a migration; a name is recorded only once. -/
def record (c : Catalog) (name : String) : Except Refusal Catalog :=
  if migrationsTable ∈ c.tables ∧ name ∉ c.recorded then
    .ok { c with recorded := c.recorded ++ [name] }
  else .error .refused

/-- Take a migration off the record. -/
def forget (c : Catalog) (name : String) : Except Refusal Catalog :=
  if migrationsTable ∈ c.tables then .ok { c with recorded := c.recorded.filter (· ≠ name) }
  else .error .refused

/-- Define a view, unless a table or view of its name is there. -/
def createView (c : Catalog) (name : String) : Except Refusal Catalog :=
  if name ∈ c.tables ∨ name ∈ c.views then .error .refused
  else .ok { c with views := c.views ++ [name] }

/-- Remove a view. -/
def dropView (c : Catalog) (name : String) : Except Refusal Catalog :=
  if name ∈ c.views then .ok { c with views := c.views.filter (· ≠ name) } else .error .refused

/-- Carry out definitions one after another up to the first that is refused, and say whether one
was. -/
def defineAll (c : Catalog) : List Definition → Except Refusal Unit × Catalog
  | [] => (.ok (), c)
  | d :: rest => match c.define d with
    | .ok c => c.defineAll rest
    | .error e => (.error e, c)

end Catalog

/-! ## Statements -/

/-- A statement. -/
inductive Sql where
  /-- Whether a table or view has this name. -/
  | relationExists (name : String)
  /-- The recorded migrations. -/
  | applied
  | define (d : Definition)
  | record (name : String)
  | begin
  | commit
  | rollback
  deriving DecidableEq, Repr

/-- What a statement answers. -/
@[reducible] def Sql.Answer : Sql → Type
  | .relationExists _ => Bool
  | .applied => Except Refusal (List String)
  | .define _ => Except Refusal Unit
  | .record _ => Except Refusal Unit
  | .begin => Unit
  | .commit => Unit
  | .rollback => Unit

/-- A connection to a database: what is stored, and what an open transaction makes of it. -/
structure Connection where
  stored : Catalog
  staged : Option Catalog
  deriving DecidableEq, Repr

namespace Connection

/-- A connection without an open transaction. -/
def ofCatalog (c : Catalog) : Connection := ⟨c, none⟩

/-- The catalog as statements see it. -/
def current (k : Connection) : Catalog := k.staged.getD k.stored

/-- Another catalog in place of the current one: stored at once unless a transaction is open. -/
def change (k : Connection) (c : Catalog) : Connection :=
  match k.staged with
  | some _ => { k with staged := some c }
  | none => { k with stored := c }

/-- The outcome of a change, and the connection after it. -/
def changed (k : Connection) : Except Refusal Catalog → Except Refusal Unit × Connection
  | .ok c => (.ok (), k.change c)
  | .error e => (.error e, k)

/-- Carry out a statement. -/
def execute : (q : Sql) → Connection → q.Answer × Connection
  | .relationExists name, k => (name ∈ k.current.relations, k)
  | .applied, k => (k.current.applied, k)
  | .define d, k => k.changed (k.current.define d)
  | .record name, k => k.changed (k.current.record name)
  | .begin, k => ((), { k with staged := some k.current })
  | .commit, k => ((), ⟨k.current, none⟩)
  | .rollback, k => ((), ⟨k.stored, none⟩)

end Connection

end DoubleEntry.Schema
