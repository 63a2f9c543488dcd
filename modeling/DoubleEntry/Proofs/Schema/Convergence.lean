import DoubleEntry.Proofs.Schema.Interruptions

/-!
# Migrations converge

Whatever interrupted runs have left of a database, one more run goes through, and it executes no
migration that is recorded.  Whether it brings the database up to date depends on one thing: the
database must not be *torn*, that is, have the table of records without a record of the migration
that makes it.

* `Migration.runPending_outcome` — a run on a database that is not torn leaves every migration
  recorded once, and the next run finds nothing to do; on a torn one, the same holds of all
  migrations but the first, which stays pending.
* `Migration.not_always_converged` — an interruption between making the table of records and
  recording it does tear a database.
-/

namespace DoubleEntry.Schema

open Program

/-! ## Computations on a connection -/

namespace Connection

variable {k : Connection} {c c' : Catalog}

@[simp] theorem change_current (k : Connection) : k.change k.current = k := by
  obtain ⟨stored, _ | staged⟩ := k <;> rfl

@[simp] theorem current_change : (k.change c).current = c := by
  obtain ⟨stored, _ | staged⟩ := k <;> rfl

@[simp] theorem change_change : (k.change c).change c' = k.change c' := by
  obtain ⟨stored, _ | staged⟩ := k <;> rfl

end Connection

namespace Migration

variable {α β : Type} {k k' : Connection} {c c' : Catalog} {m : Migration}
  {recorded : List String}

/-- Carry out a computation on a connection. -/
def on (x : Migrating α) (k : Connection) : Except Failure α × Connection :=
  x.run.exec Connection.execute k

section Rules

variable {x : Migrating α} {f : α → Migrating β}

theorem on_bind_ok {a : α} (done : on x k = (.ok a, k')) : on (x >>= f) k = on (f a) k' := by
  show (x.run >>= ExceptT.bindCont f).exec Connection.execute k = _
  rw [exec_bind, show x.run.exec Connection.execute k = (.ok a, k') from done]
  rfl

theorem on_issue (q : Sql) : on (issue q) k = (.ok (k.execute q).1, (k.execute q).2) := rfl

theorem on_lift (x : Migrating α) : on (ExceptT.lift x.run) k = (.ok (on x k).1, (on x k).2) := by
  show (x.run >>= fun outcome => pure (Except.ok outcome)).exec Connection.execute k = _
  rw [exec_bind]
  rfl

theorem onCatalog_eq {outcome : Except Failure α} (done : on x (.ofCatalog c) = (outcome, k)) :
    onCatalog x c = (outcome, k.stored) := by
  show ((on x (.ofCatalog c)).1, (on x (.ofCatalog c)).2.stored) = _
  rw [done]

end Rules

/-- Definitions are carried out up to the first one that is refused. -/
theorem on_apply (m : Migration) (ds : List Definition) (k : Connection) :
    on (m.apply ds) k = ((k.current.defineAll ds).1.mapError fun _ => .apply m.name,
      k.change (k.current.defineAll ds).2) := by
  induction ds generalizing k with
  | nil => rw [Catalog.defineAll, Connection.change_current]; rfl
  | cons d rest ih =>
    rw [apply, on_bind_ok (on_issue _), Connection.execute, Catalog.defineAll]
    cases k.current.define d with
    | error e =>
      rw [Connection.change_current]
      rfl
    | ok made =>
      show on (m.apply rest) (k.change made) = _
      rw [ih, Connection.current_change, Connection.change_change]

theorem on_record_ok (recorded : k.current.record m.name = .ok c) :
    on m.record k = (.ok (), k.change c) := by
  rw [record, on_bind_ok (on_issue _), Connection.execute, recorded]
  rfl

end Migration

/-! ## One migration -/

/-- More names are put on record, and tables may come with them. -/
structure Catalog.Adds (c : Catalog) (added : List String) (c' : Catalog) : Prop where
  tables : ∀ name ∈ c.tables, name ∈ c'.tables
  views : c'.views = c.views
  recorded : c'.recorded = c.recorded ++ added
  still : added = [] → c' = c

theorem Catalog.Adds.refl (c : Catalog) : c.Adds [] c :=
  ⟨fun _ => id, rfl, (List.append_nil _).symm, fun _ => rfl⟩

theorem Catalog.Adds.trans {c c' c'' : Catalog} {added more : List String} (first : c.Adds added c')
    (later : c'.Adds more c'') : c.Adds (added ++ more) c'' := by
  refine ⟨fun name mem => later.tables name (first.tables name mem),
    later.views.trans first.views, ?_, fun none => ?_⟩
  · rw [later.recorded, first.recorded, List.append_assoc]
  · obtain ⟨noneFirst, noneLater⟩ := List.append_eq_nil_iff.1 none
    exact (later.still noneLater).trans (first.still noneFirst)

/-- A catalog to which migrations can be applied: nothing stands in the way of a table, and there is
a table of records. -/
structure Catalog.Ready (c : Catalog) : Prop where
  unviewed : c.views = []
  tabled : migrationsTable ∈ c.tables

theorem Catalog.Ready.adds {c c' : Catalog} {added : List String} (ready : c.Ready)
    (adds : c.Adds added c') : c'.Ready :=
  ⟨adds.views.trans ready.unviewed, adds.tables _ ready.tabled⟩

namespace Migration

variable {c c' : Catalog} {m : Migration} {recorded : List String}

/-- No definition of the migration is ever refused. -/
def Sound (m : Migration) : Prop :=
  ∀ c : Catalog, c.views = [] → (c.defineAll m.definitions).1 = .ok ()

theorem sound_bootstrap : bootstrap.Sound := by
  intro c unviewed
  simp [bootstrap, Catalog.defineAll, Catalog.define, unviewed]

theorem sound_ledgerSchema : ledgerSchema.Sound := by
  intro c unviewed
  simp [ledgerSchema, Catalog.defineAll, Catalog.define, unviewed]

theorem sound_of_mem (mem : m ∈ all) : m.Sound := by
  rcases List.mem_cons.1 mem with rfl | mem
  · exact sound_bootstrap
  · rw [List.mem_singleton.1 mem]
    exact sound_ledgerSchema

/-- A migration that is not recorded is applied and recorded. -/
theorem on_applyInTransaction (sound : m.Sound) (ready : c.Ready) (new : m.name ∉ c.recorded) :
    ∃ c', on m.applyInTransaction (.ofCatalog c) = (.ok (), .ofCatalog c') ∧
      c.Adds [m.name] c' := by
  have extended := c.extends_defineAll m.definitions
  obtain ⟨made, defined⟩ : ∃ made, c.defineAll m.definitions = (.ok (), made) :=
    ⟨_, Prod.ext (sound c ready.unviewed) rfl⟩
  rw [defined] at extended
  have written : made.record m.name = .ok { made with recorded := c.recorded ++ [m.name] } := by
    refine Catalog.record_eq_ok.2 ⟨extended.tables _ ready.tabled, ?_, ?_⟩
    · rwa [extended.recorded]
    · rw [extended.recorded]
  refine ⟨{ made with recorded := c.recorded ++ [m.name] }, ?_,
    ⟨extended.tables, extended.views, rfl, nofun⟩⟩
  have applied : on (m.apply m.definitions) ⟨c, some c⟩ = (.ok (), ⟨c, some made⟩) := by
    rw [on_apply]
    show ((c.defineAll m.definitions).1.mapError _, Connection.change _ (c.defineAll _).2) = _
    rw [defined]
    rfl
  have work : on (m.apply m.definitions >>= fun _ => m.record) ⟨c, some c⟩ =
      (.ok (), ⟨c, some { made with recorded := c.recorded ++ [m.name] }⟩) := by
    rw [on_bind_ok applied]
    exact on_record_ok written
  rw [applyInTransaction, on_bind_ok (on_issue .begin)]
  refine (on_bind_ok (on_lift (m.apply m.definitions >>= fun _ => m.record))).trans ?_
  show on _ (on (m.apply m.definitions >>= fun _ => m.record) ⟨c, some c⟩).2 = _
  rw [show on (m.apply m.definitions >>= fun _ => m.record) (Connection.execute .begin
    (.ofCatalog c)).2 = _ from work, work]
  rfl

/-! ## All migrations -/

/-- The names of those of some migrations that are applied in transactions when some names are
recorded. -/
def missing (recorded : List String) (ms : List Migration) : List String :=
  (ms.map name).filter fun name => name ≠ bootstrap.name ∧ name ∉ recorded

theorem on_applyMissing {ms : List Migration} (nodup : (ms.map name).Nodup)
    (sound : ∀ m ∈ ms, m.Sound) (ready : c.Ready)
    (new : ∀ m ∈ ms, m.name ∉ recorded → m.name ∉ c.recorded) :
    ∃ c', on (applyMissing recorded ms) (.ofCatalog c) =
        (.ok (missing recorded ms), .ofCatalog c') ∧ c.Adds (missing recorded ms) c' := by
  induction ms generalizing c with
  | nil => exact ⟨c, rfl, .refl c⟩
  | cons m rest ih =>
    obtain ⟨first, nodup⟩ := List.nodup_cons.1 nodup
    obtain ⟨soundFirst, sound⟩ := List.forall_mem_cons.1 sound
    obtain ⟨newFirst, new⟩ := List.forall_mem_cons.1 new
    unfold applyMissing
    by_cases skipped : m.name = bootstrap.name ∨ m.name ∈ recorded
    · rw [if_pos skipped]
      have same : missing recorded (m :: rest) = missing recorded rest := by
        rw [missing, List.map_cons,
          List.filter_cons_of_neg (by simpa [Classical.or_iff_not_imp_left] using skipped)]
        rfl
      rw [same]
      exact ih nodup sound ready new
    · rw [if_neg skipped]
      have due : missing recorded (m :: rest) = m.name :: missing recorded rest := by
        rw [missing, List.map_cons, List.filter_cons_of_pos (by simpa using skipped)]
        rfl
      obtain ⟨c₁, applied, adds⟩ :=
        on_applyInTransaction soundFirst ready (newFirst fun old => skipped (.inr old))
      obtain ⟨c', later, more⟩ := ih (c := c₁) nodup sound (ready.adds adds) fun m' mem fresh => by
        rw [adds.recorded, List.mem_append, List.mem_singleton, not_or]
        exact ⟨new m' mem fresh, fun same => first (same ▸ List.mem_map_of_mem mem)⟩
      refine ⟨c', ?_, ?_⟩
      · rw [on_bind_ok applied, on_bind_ok later, due]
        rfl
      · rw [due]
        exact adds.trans more

/-- What a run does once it is settled whether it had to make the table of records. -/
def finish (bootstrapped : Bool) : Migrating Outcome := do
  let recorded ← applied
  let names ← applyMissing recorded all
  pure
    { applied := if bootstrapped then bootstrap.name :: names else names
      alreadyApplied := if bootstrapped then recorded.length - 1 else recorded.length }

theorem runPending_eq : runPending = ensureRecords >>= finish := rfl

theorem on_applied (tabled : migrationsTable ∈ c.tables) :
    on applied (.ofCatalog c) =
      (.ok (c.recorded.mergeSort fun a b => decide (a ≤ b)), .ofCatalog c) := by
  rw [applied, on_bind_ok (on_issue _), Connection.execute]
  show on (orFail .records c.applied) _ = _
  rw [Catalog.applied, if_pos tabled]
  rfl

theorem missing_congr {recorded' : List String} (same : ∀ name, name ∈ recorded' ↔ name ∈ recorded)
    (ms : List Migration) : missing recorded' ms = missing recorded ms := by
  simp only [missing, same]

theorem on_finish (ready : c.Ready) (bootstrapped : Bool) :
    ∃ c', on (finish bootstrapped) (.ofCatalog c) =
        (.ok ⟨if bootstrapped then bootstrap.name :: missing c.recorded all
            else missing c.recorded all,
          if bootstrapped then c.recorded.length - 1 else c.recorded.length⟩, .ofCatalog c') ∧
      c.Adds (missing c.recorded all) c' := by
  have same (name : String) : name ∈ c.recorded.mergeSort (fun a b => decide (a ≤ b)) ↔
      name ∈ c.recorded := List.mem_mergeSort
  obtain ⟨c', applied, adds⟩ := on_applyMissing (c := c) nodup_names (fun m => sound_of_mem) ready
    fun m _ new => mt (same m.name).2 new
  rw [missing_congr same] at applied adds
  refine ⟨c', ?_, adds⟩
  rw [finish, on_bind_ok (on_applied ready.tabled), on_bind_ok applied, List.length_mergeSort]
  rfl

/-! ## Runs -/

theorem on_ensureRecords_tabled (tracked : c.Tracked) (tabled : migrationsTable ∈ c.tables) :
    on ensureRecords (.ofCatalog c) = (.ok false, .ofCatalog c) := by
  have there : (Connection.execute (.relationExists migrationsTable) (.ofCatalog c)).1 = true :=
    decide_eq_true (tracked.mem_relations.2 tabled)
  rw [ensureRecords, on_bind_ok (on_issue _), if_pos there]
  rfl

/-- A run where the table of records was there before. -/
theorem on_runPending_tabled (tracked : c.Tracked) (tabled : migrationsTable ∈ c.tables) :
    ∃ c', on runPending (.ofCatalog c) =
        (.ok ⟨missing c.recorded all, c.recorded.length⟩, .ofCatalog c') ∧
      c.Adds (missing c.recorded all) c' := by
  rw [runPending_eq, on_bind_ok (on_ensureRecords_tabled tracked tabled)]
  exact on_finish ⟨tracked.unviewed, tabled⟩ false

/-- A run that makes the table of records. -/
theorem on_runPending_fresh (tracked : c.Tracked) (fresh : migrationsTable ∉ c.tables) :
    ∃ c', on runPending (.ofCatalog c) = (.ok ⟨names, 0⟩, .ofCatalog c') ∧
      migrationsTable ∈ c'.tables ∧ c'.recorded = names ∧ c'.views = [] := by
  have unrecorded : c.recorded = [] :=
    Classical.byContradiction fun some => fresh (tracked.tabled some)
  let made : Catalog :=
    { c with tables := Catalog.including c.tables migrationsTable, recorded := [bootstrap.name] }
  have tabled : migrationsTable ∈ made.tables := Catalog.mem_including.2 (.inr rfl)
  have found : on ensureRecords (.ofCatalog c) = (.ok true, .ofCatalog made) := by
    rw [ensureRecords, on_bind_ok (on_issue _)]
    have unknown :
        ¬ (Connection.execute (.relationExists migrationsTable) (.ofCatalog c)).1 = true :=
      fun there => fresh (tracked.mem_relations.1 (of_decide_eq_true there))
    rw [if_neg unknown]
    have defined : c.defineAll bootstrap.definitions =
        (.ok (), { c with tables := Catalog.including c.tables migrationsTable }) := by
      simp [bootstrap, Catalog.defineAll, Catalog.define, tracked.unviewed]
    have applied : on (bootstrap.apply bootstrap.definitions) (.ofCatalog c) = (.ok (),
        .ofCatalog { c with tables := Catalog.including c.tables migrationsTable }) := by
      rw [on_apply]
      show ((c.defineAll bootstrap.definitions).1.mapError _,
        Connection.change _ (c.defineAll _).2) = _
      rw [defined]
      rfl
    refine (on_bind_ok applied).trans ((on_bind_ok (on_record_ok (c := made) ?_)).trans rfl)
    refine Catalog.record_eq_ok.2 ⟨tabled, ?_, ?_⟩
    · show bootstrap.name ∉ c.recorded
      rw [unrecorded]
      exact List.not_mem_nil
    · show made = { c with tables := _, recorded := c.recorded ++ [bootstrap.name] }
      rw [unrecorded]
      rfl
  obtain ⟨c', finished, adds⟩ := on_finish (c := made) ⟨tracked.unviewed, tabled⟩ true
  rw [runPending_eq, on_bind_ok found]
  exact ⟨c', finished, adds.tables _ tabled, adds.recorded, adds.views.trans tracked.unviewed⟩

theorem on_pending (tabled : migrationsTable ∈ c.tables) :
    on pending (.ofCatalog c) = (.ok (names.filter (· ∉ c.recorded)), .ofCatalog c) := by
  rw [pending, on_bind_ok (on_applied tabled)]
  show (Except.ok (names.filter _), Connection.ofCatalog c) = _
  simp only [List.mem_mergeSort]

/-- A run executes no migration that was recorded before. -/
theorem due_of_mem_transcript (tracked : c.Tracked) :
    ∀ e ∈ runPending.run.transcript Connection.execute (.ofCatalog c), e.1.Due c.recorded := by
  by_cases tabled : migrationsTable ∈ c.tables
  · have there : (Connection.execute (.relationExists migrationsTable) (.ofCatalog c)).1 = true :=
      decide_eq_true (tracked.mem_relations.2 tabled)
    rw [runPending_eq, transcript_exceptBind (on_ensureRecords_tabled tracked tabled),
      ensureRecords, transcript_exceptBind (on_issue _), if_pos there, finish,
      transcript_exceptBind (on_applied tabled)]
    refine List.forall_mem_append.2 ⟨List.forall_mem_append.2 ⟨?_, List.forall_mem_nil _⟩,
      List.forall_mem_append.2 ⟨due_applied.transcript _, fun e mem => ?_⟩⟩
    · exact (due_issue (q := .relationExists _) trivial).transcript _
    · have due : e.1.Due (c.recorded.mergeSort fun a b => decide (a ≤ b)) := by
        refine AsksOnly.transcript (AsksOnly.exceptBind (due_applyMissing (List.Subset.refl _))
          fun names => ?_) _ e mem
        exact trivial
      exact due.mono fun name old => List.mem_mergeSort.2 old
  · have unrecorded : c.recorded = [] :=
      Classical.byContradiction fun some => tabled (tracked.tabled some)
    rw [unrecorded]
    exact due_runPending.transcript _

/-- The definitions of a migration belong to no other one. -/
theorem eq_of_mem_definitions {m m' : Migration} (known : m ∈ all) (known' : m' ∈ all)
    {d : Definition} (mem : d ∈ m.definitions) (mem' : d ∈ m'.definitions) : m = m' := by
  have apart : ∀ m ∈ all, ∀ m' ∈ all, ∀ d ∈ m.definitions, d ∈ m'.definitions → m = m' := by decide
  exact apart m known m' known' d mem mem'

/-! ## What a run comes to -/

/-- A run has put the migrations in `done` on record, so that `present` are recorded, each once;
`absent` are pending, and the next run does nothing. -/
structure Settles (c : Catalog) (done : Outcome) (c' : Catalog) (present absent : List String) :
    Prop where
  recorded : c'.recorded.Perm present
  applied : (c.recorded ++ done.applied).Perm present
  pending : onCatalog pending c' = (.ok absent, c')
  again : onCatalog runPending c' = (.ok ⟨[], present.length⟩, c')

/-- A catalog with a table of records, where all migrations but perhaps the first are recorded. -/
theorem settles_of_recorded {done : Outcome} {present absent : List String} (ready : c'.Ready)
    (recorded : c'.recorded.Perm present) (applied : (c.recorded ++ done.applied).Perm present)
    (nodup : present.Nodup) (known : ∀ name ∈ present, name ∈ names)
    (later : ∀ name ∈ names, name ≠ bootstrap.name → name ∈ present)
    (left : names.filter (· ∉ present) = absent) : Settles c done c' present absent := by
  have same (name : String) : name ∈ c'.recorded ↔ name ∈ present := recorded.mem_iff
  have tracked : c'.Tracked :=
    ⟨ready.unviewed, fun name mem => known name ((same name).1 mem), recorded.nodup_iff.2 nodup,
      fun _ => ready.tabled⟩
  have nothing : missing c'.recorded all = [] := by
    refine List.filter_eq_nil_iff.2 fun name mem due => ?_
    obtain ⟨other, new⟩ := of_decide_eq_true due
    exact new ((same name).2 (later name mem other))
  refine ⟨recorded, applied, ?_, ?_⟩
  · rw [onCatalog_eq (on_pending ready.tabled), ← left]
    simp only [same]
    rfl
  · obtain ⟨c'', done, adds⟩ := on_runPending_tabled tracked ready.tabled
    rw [nothing] at adds done
    rw [onCatalog_eq done, adds.still rfl, recorded.length_eq]
    rfl

/-- What is recorded before and after a run that finds the table of records. -/
theorem perm_recorded (tracked : c.Tracked) {present : List String} (nodup : present.Nodup)
    (same : ∀ name, name ∈ present ↔
      name ∈ names ∧ (name = bootstrap.name → name ∈ c.recorded)) :
    (c.recorded ++ missing c.recorded all).Perm present := by
  have new (name : String) : name ∈ missing c.recorded all ↔
      name ∈ names ∧ name ≠ bootstrap.name ∧ name ∉ c.recorded := by
    simp [missing, names]
  have nodup' : (c.recorded ++ missing c.recorded all).Nodup := by
    refine List.nodup_append.2 ⟨tracked.once, nodup_names.filter _, ?_⟩
    rintro name old _ mem rfl
    exact ((new name).1 mem).2.2 old
  refine (List.perm_ext_iff_of_nodup nodup' nodup).2 fun name => ?_
  rw [List.mem_append, new, same]
  constructor
  · rintro (old | ⟨known, other, -⟩)
    · exact ⟨tracked.known name old, fun _ => old⟩
    · exact ⟨known, fun first => absurd first other⟩
  · rintro ⟨known, first⟩
    by_cases old : name ∈ c.recorded
    · exact .inl old
    · exact .inr ⟨known, fun same => old (first same), old⟩

/-- The table of records is there, and the migration that makes it is not recorded. -/
def Torn (c : Catalog) : Prop := migrationsTable ∈ c.tables ∧ bootstrap.name ∉ c.recorded

/-- A run on a torn database leaves the first migration pending. -/
theorem settles_of_torn (tracked : c.Tracked) (torn : Torn c) :
    ∃ done c', onCatalog runPending c = (.ok done, c') ∧
      Settles c done c' (names.erase bootstrap.name) [bootstrap.name] := by
  obtain ⟨c', done, adds⟩ := on_runPending_tabled tracked torn.1
  have perm := perm_recorded tracked (nodup_names.erase bootstrap.name) fun name => by
    rw [nodup_names.mem_erase_iff]
    exact ⟨fun ⟨other, known⟩ => ⟨known, fun same => absurd same other⟩,
      fun ⟨known, first⟩ => ⟨fun same => torn.2 (same ▸ first same), known⟩⟩
  refine ⟨_, c', onCatalog_eq done, ?_⟩
  exact settles_of_recorded (Catalog.Ready.adds ⟨tracked.unviewed, torn.1⟩ adds)
    (adds.recorded ▸ perm) perm (nodup_names.erase _) (fun _ => List.mem_of_mem_erase)
    (fun _ known other => nodup_names.mem_erase_iff.2 ⟨other, known⟩) (by decide)

/-- A run on a database that is not torn brings it up to date. -/
theorem settles_of_not_torn (tracked : c.Tracked) (whole : ¬ Torn c) :
    ∃ done c', onCatalog runPending c = (.ok done, c') ∧ Settles c done c' names [] := by
  by_cases tabled : migrationsTable ∈ c.tables
  · obtain ⟨c', done, adds⟩ := on_runPending_tabled tracked tabled
    have first : bootstrap.name ∈ c.recorded :=
      Classical.byContradiction fun new => whole ⟨tabled, new⟩
    have perm := perm_recorded tracked nodup_names fun name =>
      ⟨fun known => ⟨known, fun same => same ▸ first⟩, And.left⟩
    refine ⟨_, c', onCatalog_eq done, ?_⟩
    exact settles_of_recorded (Catalog.Ready.adds ⟨tracked.unviewed, tabled⟩ adds)
      (adds.recorded ▸ perm) perm nodup_names (fun _ => id) (fun _ known _ => known) (by decide)
  · obtain ⟨c', done, tabled', recorded, unviewed⟩ := on_runPending_fresh tracked tabled
    have unrecorded : c.recorded = [] :=
      Classical.byContradiction fun some => tabled (tracked.tabled some)
    refine ⟨_, c', onCatalog_eq done, ?_⟩
    exact settles_of_recorded ⟨unviewed, tabled'⟩ (recorded ▸ .refl _) (unrecorded ▸ .refl _)
      nodup_names (fun _ => id) (fun _ known _ => known) (by decide)

/-- After any runs that may have been interrupted, a run goes through and executes no migration that
is recorded.  If the database is not torn, it is up to date then; otherwise the first migration is
pending, and will be. -/
theorem runPending_outcome (runs : List Interruption) :
    let c := afterRuns runs
    (∀ e ∈ runPending.run.transcript Connection.execute (.ofCatalog c), ∀ m ∈ all,
      m.name ∈ c.recorded → ∀ d ∈ m.definitions, e.1 ≠ .define d) ∧
    ∃ done c', onCatalog runPending c = (.ok done, c') ∧
      (¬ Torn c → Settles c done c' names []) ∧
      (Torn c → Settles c done c' (names.erase bootstrap.name) [bootstrap.name]) := by
  intro c
  have tracked : c.Tracked := tracked_afterRuns runs
  refine ⟨fun e mem m known old d within same => ?_, ?_⟩
  · have due := due_of_mem_transcript tracked e mem
    rw [same] at due
    obtain ⟨m', known', new, within'⟩ := due
    rw [eq_of_mem_definitions known known' within within'] at old
    exact new old
  · by_cases torn : Torn c
    · obtain ⟨done, c', ran, settles⟩ := settles_of_torn tracked torn
      exact ⟨done, c', ran, fun whole => absurd torn whole, fun _ => settles⟩
    · obtain ⟨done, c', ran, settles⟩ := settles_of_not_torn tracked torn
      exact ⟨done, c', ran, fun _ => settles, fun torn' => absurd torn' torn⟩

/-- A run that is cut short after its second statement has made the table of records and recorded
nothing.  The database is torn, and no run brings it up to date. -/
theorem not_always_converged :
    ¬ ∀ (runs : List Interruption) (done : Outcome) (c' : Catalog),
      onCatalog runPending (afterRuns runs) = (.ok done, c') →
        Settles (afterRuns runs) done c' names [] := by
  intro converges
  have left : afterRuns [⟨fun _ => false, 2⟩] = ⟨[migrationsTable], [], [], [], []⟩ := by
    decide +kernel
  have torn : Torn (afterRuns [⟨fun _ => false, 2⟩]) := by
    rw [left]
    exact ⟨.head _, List.not_mem_nil⟩
  obtain ⟨done, c', ran, settles⟩ := settles_of_torn (tracked_afterRuns _) torn
  have pending := (converges _ _ _ ran).pending.symm.trans settles.pending
  cases (Prod.mk.inj pending).1

end Migration
end DoubleEntry.Schema
