import DoubleEntry.Proofs.Program.Runs
import DoubleEntry.Schema.Migration

/-!
# Migrating with interruptions

A run of the migrations may be cut short after any of its statements, and statements may be refused
on the way: an `Interruption` says when.  What an open transaction has done is then lost.
`Migration.afterRuns` is what any number of such runs make of a new database.

Whatever happens, the catalog stays `Catalog.Tracked`: only known migrations are recorded, each at
most once, and none without the table of records (`tracked_afterRuns`).  The proof looks at single
statements: there is none in a run that could break this.
-/

namespace DoubleEntry.Schema

/-! ## Interrupted runs -/

namespace Connection

/-- Refuse a statement, if it is one that tells of its failure.  A failure of the others ends the
run just as if it were cut short. -/
def refuse : (q : Sql) → Connection → q.Answer × Connection
  | .applied, k => (.error .refused, k)
  | .define _, k => (.error .refused, k)
  | .record _, k => (.error .refused, k)
  | .relationExists name, k => execute (.relationExists name) k
  | .begin, k => execute .begin k
  | .commit, k => execute .commit k
  | .rollback, k => execute .rollback k

/-- Carry out statements, of which some are refused; they are counted from zero. -/
def executeAmid (refused : Nat → Bool) : Program.Handler Sql.Answer (Connection × Nat)
  | q, (k, n) =>
    let (answer, k) := if refused n then refuse q k else execute q k
    (answer, (k, n + 1))

end Connection

namespace Migration

/-- How a run is disturbed: by statements that are refused, and by an end after so many
statements. -/
structure Interruption where
  refused : Nat → Bool
  statements : Nat

/-- What an interrupted run leaves in the database. -/
def interrupted (c : Catalog) (i : Interruption) : Catalog :=
  (runPending.run.execFor (Connection.executeAmid i.refused) i.statements
    (.ofCatalog c, 0)).1.stored

/-- What some runs, one after another, make of a new database. -/
def afterRuns (runs : List Interruption) : Catalog := runs.foldl interrupted .empty

/-- The names of all migrations, in order. -/
def names : List String := all.map name

theorem mem_names_of_mem {m : Migration} (mem : m ∈ all) : m.name ∈ names :=
  List.mem_map_of_mem mem

theorem nodup_names : names.Nodup := by decide

end Migration

/-! ## Changes of the catalog -/

namespace Catalog

variable {c c' : Catalog} {name other : String} {d : Definition}

@[simp] theorem mem_including {names : List String} :
    other ∈ including names name ↔ other ∈ names ∨ other = name := by
  unfold including
  split <;> simp_all

@[simp] theorem mem_relations : name ∈ c.relations ↔ name ∈ c.tables ∨ name ∈ c.views := by
  simp [relations]

/-- A definition adds to the catalog and leaves the records alone. -/
structure Extends (c c' : Catalog) : Prop where
  tables : ∀ name ∈ c.tables, name ∈ c'.tables
  views : c'.views = c.views
  recorded : c'.recorded = c.recorded

theorem Extends.refl (c : Catalog) : c.Extends c := ⟨fun _ => id, rfl, rfl⟩

theorem Extends.trans {c'' : Catalog} (first : c.Extends c') (later : c'.Extends c'') :
    c.Extends c'' :=
  ⟨fun name mem => later.tables name (first.tables name mem), later.views.trans first.views,
    later.recorded.trans first.recorded⟩

theorem extends_of_define (defined : c.define d = .ok c') : c.Extends c' := by
  cases d with
  | table name references =>
    simp only [define] at defined
    split at defined
    · cases defined
    · cases defined
      exact ⟨fun _ mem => mem_including.2 (.inl mem), rfl, rfl⟩
  | sequence name =>
    cases defined
    exact ⟨fun _ => id, rfl, rfl⟩
  | index name table =>
    simp only [define] at defined
    split at defined
    · cases defined
      exact ⟨fun _ => id, rfl, rfl⟩
    · cases defined

theorem extends_defineAll (c : Catalog) (ds : List Definition) : c.Extends (c.defineAll ds).2 := by
  induction ds generalizing c with
  | nil => exact .refl c
  | cons d rest ih =>
    simp only [defineAll]
    split
    · rename_i c' defined
      exact (extends_of_define defined).trans (ih c')
    · exact .refl c

theorem record_eq_ok : c.record name = .ok c' ↔
    migrationsTable ∈ c.tables ∧ name ∉ c.recorded ∧
      c' = { c with recorded := c.recorded ++ [name] } := by
  unfold record
  split
  · rename_i allowed
    simp [allowed, eq_comm]
  · rename_i refused
    simp only [reduceCtorEq, false_iff]
    rintro ⟨tabled, new, -⟩
    exact refused ⟨tabled, new⟩

/-! ## Records of migrations only -/

/-- The records are those of migrations. -/
structure Tracked (c : Catalog) : Prop where
  unviewed : c.views = []
  known : ∀ name ∈ c.recorded, name ∈ Migration.names
  once : c.recorded.Nodup
  tabled : c.recorded ≠ [] → migrationsTable ∈ c.tables

theorem tracked_empty : Catalog.empty.Tracked :=
  ⟨rfl, List.forall_mem_nil _, List.nodup_nil, fun some => absurd rfl some⟩

theorem Tracked.extended (tracked : c.Tracked) (extended : c.Extends c') : c'.Tracked := by
  obtain ⟨unviewed, known, once, tabled⟩ := tracked
  obtain ⟨tables, views, recorded⟩ := extended
  refine ⟨views.trans unviewed, ?_, ?_, ?_⟩
  · rwa [recorded]
  · rwa [recorded]
  · rw [recorded]
    exact fun some => tables _ (tabled some)

theorem Tracked.record (tracked : c.Tracked) (known : name ∈ Migration.names)
    (recorded : c.record name = .ok c') : c'.Tracked := by
  obtain ⟨tabled, new, rfl⟩ := record_eq_ok.1 recorded
  refine ⟨tracked.unviewed, fun other mem => ?_, ?_, fun _ => tabled⟩
  · rcases List.mem_append.1 mem with old | last
    · exact tracked.known other old
    · rwa [List.mem_singleton.1 last]
  · refine List.nodup_append.2 ⟨tracked.once, by simp, fun other old last mem same => new ?_⟩
    rwa [← List.mem_singleton.1 mem, ← same]

theorem Tracked.mem_relations (tracked : c.Tracked) :
    name ∈ c.relations ↔ name ∈ c.tables := by
  simp [tracked.unviewed]

end Catalog

/-! ## Statements one by one -/

/-- A statement that is due while some migrations are recorded: it applies or records only others of
them. -/
def Sql.Due (recorded : List String) : Sql → Prop
  | .define d => ∃ m ∈ Migration.all, m.name ∉ recorded ∧ d ∈ m.definitions
  | .record name => ∃ m ∈ Migration.all, m.name ∉ recorded ∧ name = m.name
  | _ => True

theorem Sql.Due.mono {recorded fewer : List String} (part : fewer ⊆ recorded) {q : Sql}
    (due : q.Due recorded) : q.Due fewer := by
  cases q with
  | define d =>
    obtain ⟨m, known, new, mem⟩ := due
    exact ⟨m, known, fun old => new (part old), mem⟩
  | record name =>
    obtain ⟨m, known, new, same⟩ := due
    exact ⟨m, known, fun old => new (part old), same⟩
  | relationExists name | applied | begin | commit | rollback => exact trivial

namespace Connection

variable {k : Connection} {q : Sql}

/-- What is stored and what an open transaction makes of it are both records of migrations. -/
structure Tracked (k : Connection) : Prop where
  stored : k.stored.Tracked
  staged : ∀ c ∈ k.staged, c.Tracked

theorem Tracked.current (tracked : k.Tracked) : k.current.Tracked := by
  obtain ⟨stored, _ | c⟩ := k
  · exact tracked.stored
  · exact tracked.staged c rfl

theorem Tracked.changed (tracked : k.Tracked) {result : Except Refusal Catalog}
    (sound : ∀ c, result = .ok c → c.Tracked) : (k.changed result).2.Tracked := by
  cases result with
  | error e => exact tracked
  | ok c =>
    have sound := sound c rfl
    obtain ⟨stored, _ | staged⟩ := k
    · exact ⟨sound, nofun⟩
    · exact ⟨tracked.stored, fun c' mem => Option.some.inj mem ▸ sound⟩

theorem tracked_execute {recorded : List String} (due : q.Due recorded) (tracked : k.Tracked) :
    (execute q k).2.Tracked := by
  cases q with
  | relationExists name | applied => exact tracked
  | define d =>
    exact tracked.changed fun c defined =>
      tracked.current.extended (Catalog.extends_of_define defined)
  | record name =>
    obtain ⟨m, known, -, rfl⟩ := due
    exact tracked.changed fun c recorded =>
      tracked.current.record (Migration.mem_names_of_mem known) recorded
  | begin => exact ⟨tracked.stored, fun c mem => Option.some.inj mem ▸ tracked.current⟩
  | commit => exact ⟨tracked.current, nofun⟩
  | rollback => exact ⟨tracked.stored, nofun⟩

theorem tracked_executeAmid {recorded : List String} (refused : Nat → Bool) (n : Nat)
    (due : q.Due recorded) (tracked : k.Tracked) : (executeAmid refused q (k, n)).2.1.Tracked := by
  show (if refused n then refuse q k else execute q k).2.Tracked
  split
  · cases q with
    | applied | define d | record name => exact tracked
    | relationExists name | begin | commit | rollback => exact tracked_execute due tracked
  · exact tracked_execute due tracked

end Connection

/-! ## The statements of a run -/

namespace Migration

open Program

variable {recorded : List String} {m : Migration}

theorem due_orFail {α : Type} {failure : Failure} (answer : Except Refusal α) :
    (orFail failure answer).run.AsksOnly (Sql.Due recorded) := by
  cases answer <;> exact trivial

theorem due_issue {q : Sql} (due : q.Due recorded) : (issue q).run.AsksOnly (Sql.Due recorded) :=
  ⟨due, fun _ => trivial⟩

theorem due_apply (known : m ∈ all) (new : m.name ∉ recorded) {ds : List Definition}
    (part : ds ⊆ m.definitions) : (m.apply ds).run.AsksOnly (Sql.Due recorded) := by
  induction ds with
  | nil => exact trivial
  | cons d rest ih =>
    obtain ⟨mem, later⟩ := List.cons_subset.1 part
    exact (due_issue (q := .define d) ⟨m, known, new, mem⟩).exceptBind fun answer =>
      (due_orFail answer).exceptBind fun _ => ih later

theorem due_record (known : m ∈ all) (new : m.name ∉ recorded) :
    m.record.run.AsksOnly (Sql.Due recorded) :=
  (due_issue (q := .record m.name) ⟨m, known, new, rfl⟩).exceptBind fun answer => due_orFail answer

theorem due_applyInTransaction (known : m ∈ all) (new : m.name ∉ recorded) :
    m.applyInTransaction.run.AsksOnly (Sql.Due recorded) := by
  refine (due_issue (q := .begin) trivial).exceptBind fun _ => ?_
  have work : (m.apply m.definitions >>= fun _ => m.record).run.AsksOnly (Sql.Due recorded) :=
    (due_apply known new (List.Subset.refl _)).exceptBind fun _ => due_record known new
  refine AsksOnly.exceptBind (work.bind fun _ => trivial) fun outcome => ?_
  cases outcome with
  | ok u => exact due_issue (q := .commit) trivial
  | error failure => exact (due_issue (q := .rollback) trivial).exceptBind fun _ => trivial

theorem due_applyMissing {ms : List Migration} (known : ms ⊆ all) :
    (applyMissing recorded ms).run.AsksOnly (Sql.Due recorded) := by
  induction ms with
  | nil => exact trivial
  | cons m rest ih =>
    obtain ⟨known, later⟩ := List.cons_subset.1 known
    unfold applyMissing
    split
    · exact ih later
    · rename_i missing
      exact (due_applyInTransaction known fun old => missing (.inr old)).exceptBind fun _ =>
        (ih later).exceptBind fun _ => trivial

theorem due_applied : applied.run.AsksOnly (Sql.Due recorded) :=
  (due_issue (q := .applied) trivial).exceptBind fun answer => due_orFail answer

theorem due_ensureRecords : ensureRecords.run.AsksOnly (Sql.Due []) := by
  refine (due_issue (q := .relationExists _) trivial).exceptBind fun found => ?_
  cases found with
  | true => exact trivial
  | false =>
    exact (due_apply (.head _) List.not_mem_nil (List.Subset.refl _)).exceptBind fun _ =>
      (due_record (.head _) List.not_mem_nil).exceptBind fun _ => trivial

theorem due_runPending : runPending.run.AsksOnly (Sql.Due []) := by
  refine due_ensureRecords.exceptBind fun _ => due_applied.exceptBind fun recorded => ?_
  have applies : (applyMissing recorded all).run.AsksOnly (Sql.Due recorded) :=
    due_applyMissing (List.Subset.refl _)
  exact (applies.mono fun _ due => due.mono (List.nil_subset _)).exceptBind fun _ => trivial

/-- **An interrupted run leaves the records sound.** -/
theorem tracked_interrupted {c : Catalog} (tracked : c.Tracked) (i : Interruption) :
    (interrupted c i).Tracked := by
  have start : (Connection.ofCatalog c).Tracked := ⟨tracked, nofun⟩
  have kept (q : Sql) (s : Connection × Nat) (due : q.Due []) (tracked : s.1.Tracked) :
      (Connection.executeAmid i.refused q s).2.1.Tracked :=
    Connection.tracked_executeAmid i.refused s.2 due tracked
  exact (execFor_keeps (P := fun s : Connection × Nat => s.1.Tracked) kept due_runPending
    i.statements start).stored

theorem tracked_foldl (runs : List Interruption) {c : Catalog} (tracked : c.Tracked) :
    (runs.foldl interrupted c).Tracked := by
  induction runs generalizing c with
  | nil => exact tracked
  | cons i rest ih => exact ih (tracked_interrupted tracked i)

theorem tracked_afterRuns (runs : List Interruption) : (afterRuns runs).Tracked :=
  tracked_foldl runs Catalog.tracked_empty

end Migration
end DoubleEntry.Schema
