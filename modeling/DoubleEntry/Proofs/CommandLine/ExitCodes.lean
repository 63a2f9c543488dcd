import DoubleEntry.CommandLine.Run
import DoubleEntry.Proofs.CommandLine.Flag
import DoubleEntry.Proofs.CommandLine.Looking
import DoubleEntry.Proofs.Config.Loading

/-!
# Exit codes

Every command can write its outcome in words or as JSON.

* `exit_codes` — **the exit code does not depend on the format**, with one exception: if the
  health check finds an error in the ledger, the command fails in words and succeeds as JSON.
* `not_exit_alike` — the exception is real.

Showing the history of an account takes a second look at the ledger in words, which JSON does not
need.  It cannot fail, because the database is as it was at the first look.
-/

namespace DoubleEntry

open CommandLine Coordinator

/-- The check of the ledger in a directory finds an error. -/
def Directory.Inconsistent (d : Directory) (env : Config.Environment) : Prop :=
  ∃ ledger d' audit, d.openLedger env = (.ok ledger, d') ∧
    (d'.records ledger).tables.audit = .ok audit ∧ (Health.ofAudit audit).isHealthy = false

namespace CommandLine

/-- The command is the health check. -/
def Command.IsDoctor (c : Command) : Prop := ∃ details json, c = .doctor details json

variable {α : Type} {s : Surroundings} {inv : Invocation} {directory : Directory}

/-! ## Requests at the desk -/

/-- The desk at which an invocation works on a ledger. -/
def deskFor (s : Surroundings) (inv : Invocation) (directory : Directory)
    (ledger : Directory.Opened) : Desk where
  directory := directory
  ledger := ledger
  ctx :=
    let ctx := Context.background ⟨0⟩
    let ctx := match inv.user with
      | some user => ctx.actingAs user
      | none => ctx
    match inv.timeoutMs with
    | some ms => ctx.withTimeout s.now (.ofMillis ms)
    | none => ctx
  world := ⟨⟨s.now, []⟩, directory.records ledger⟩
  coordinator := .ofConfig ledger.config s.draw

theorem code_withLedger (work : Desk → Output × Desk) :
    (withLedger s inv directory work).1.code =
      match directory.openLedger s.env with
      | (.error _, _) => 1
      | (.ok ledger, directory) => (work (deskFor s inv directory ledger)).1.code := by
  rcases opened : directory.openLedger s.env with ⟨e | ledger, directory⟩ <;>
    simp only [withLedger, opened] <;> rfl

theorem perform_looking (d : Desk) {task : Task Empty α} (reads : task.run.AsksOnly WorkStep.Reads)
    (final : ∀ t : Relational.Tables, Relational.Final (task.run.told t.tell)) :
    d.perform (d.coordinator.run d.ctx task) = (d.coordinator.seen d.ctx task d.world, d) := by
  have ran := exec_run_reads d.coordinator d.ctx d.world reads final
  unfold Desk.perform Store.run
  rw [show (⟨d.world, none, []⟩ : Seat _ _ Empty) = Store.outside d.world from rfl, ran]
  rfl

/-- The health check judges the audit of the tables. -/
theorem perform_checkHealth (d : Desk) :
    (d.perform (d.coordinator.checkHealth d.ctx)).1 =
      (d.coordinator.seen d.ctx (Task.call .audit : Task Empty Audit) d.world).map .ofAudit := by
  have reads : Call.Reads .audit := ⟨trivial, rfl⟩
  have checked : (d.coordinator.checkHealth d.ctx : Operation Empty Health).run.exec
      Relational.store.perform (Store.outside d.world) =
      ((d.coordinator.seen d.ctx (Task.call .audit : Task Empty Audit) d.world).map .ofAudit,
        Store.outside d.world) := by
    show Program.exec _ (ExceptT.run (d.coordinator.run d.ctx (Task.call .audit)) >>=
      ExceptT.bindCont _) _ = _
    rw [Program.exec_bind, exec_run_reads _ _ _ (reads_call reads) (final_call reads)]
    cases d.coordinator.seen d.ctx (Task.call .audit : Task Empty Audit) d.world <;> rfl
  unfold Desk.perform Store.run
  rw [show (⟨d.world, none, []⟩ : Seat _ _ Empty) = Store.outside d.world from rfl, checked]

/-! ## Writing outcomes -/

/-- The words for an outcome and its JSON form fail alike, if the words for a value never do. -/
theorem code_present {toJson : α → Json} {words : α → Output} {outcome : Except Error α}
    (fine : ∀ a, outcome = .ok a → (words a).code = 0) :
    (present true toJson words outcome).code = 0 ↔
      (present false toJson words outcome).code = 0 := by
  cases outcome with
  | error e => simp [present, envelope, Envelope.ofResult, Envelope.fail, Output.failure]
  | ok a => simp [present, envelope, Envelope.ofResult, Envelope.ok, fine a rfl]

theorem code_withLedger_congr {inv' : Invocation} {work work' : Desk → Output × Desk}
    (user : inv'.user = inv.user) (timeout : inv'.timeoutMs = inv.timeoutMs)
    (alike : ∀ d, (work' d).1.code = 0 ↔ (work d).1.code = 0) :
    (withLedger s inv' directory work').1.code = 0 ↔
      (withLedger s inv directory work).1.code = 0 := by
  have same (directory : Directory) (ledger : Directory.Opened) :
      deskFor s inv' directory ledger = deskFor s inv directory ledger := by
    unfold deskFor
    rw [user, timeout]
  rw [code_withLedger, code_withLedger]
  split
  · rfl
  · rw [same]
    exact alike _

/-- The history fails alike: where the records are shown, so is the account. -/
theorem code_historyOf {id : Int} {task : Account → Task Empty (List α)} {d : Desk}
    {toJson : α → Json} {table : Currency → List α → Text.Table} :
    (historyOf id true toJson table
      (d.coordinator.seen d.ctx (ownedAccount d.ctx id >>= task) d.world) d).1.code = 0 ↔
    (historyOf id false toJson table
      (d.coordinator.seen d.ctx (ownedAccount d.ctx id >>= task) d.world) d).1.code = 0 := by
  cases shown : d.coordinator.seen d.ctx (ownedAccount d.ctx id >>= task) d.world with
  | error e => simp [historyOf, envelope, Envelope.ofResult, Envelope.fail, Output.failure]
  | ok records =>
    obtain ⟨account, found⟩ := seen_ownedAccount shown
    have again : d.perform (d.coordinator.getAccount d.ctx id) = (.ok account, d) := by
      rw [← found]
      exact perform_looking d (reads_ownedAccount _ _) (final_ownedAccount _ _)
    simp [historyOf, again, envelope, Envelope.ofResult, Envelope.ok, Output.success]

theorem code_history (id : Int) (transfers : Bool) (page : Page) (d : Desk) :
    (history id transfers page true d).1.code = 0 ↔
      (history id transfers page false d).1.code = 0 := by
  have final {c : Call} (reads : c.Reads) (t : Relational.Tables) : Relational.Final
      ((ownedAccount d.ctx id >>= fun _ => Task.call c : Task Empty c.Answer).run.told t.tell) := by
    rw [Program.told_exceptBind]
    exact (final_ownedAccount _ _ t).bind fun _ => final_call reads t
  cases transfers with
  | true =>
    have reads : Call.Reads (.listTransfers id page) := ⟨trivial, rfl⟩
    have looked : d.perform (d.coordinator.listTransfers d.ctx id page) = _ :=
      perform_looking d ((reads_ownedAccount _ _).exceptBind fun _ => reads_call reads)
        (final reads)
    simp only [history, looked, if_true]
    exact code_historyOf
  | false =>
    have reads : Call.Reads (.listEntries id page) := ⟨trivial, rfl⟩
    have looked : d.perform (d.coordinator.listEntries d.ctx id page) = _ :=
      perform_looking d ((reads_ownedAccount _ _).exceptBind fun _ => reads_call reads)
        (final reads)
    simp only [history, looked, Bool.false_eq_true, if_false]
    exact code_historyOf

/-! ## Deadlines -/

theorem check_at_start {ctx : Context} {now : Nat} :
    ctx.check ⟨now, []⟩ = .ok () ↔ ∀ deadline ∈ ctx.deadline, now < deadline := by
  unfold Context.check
  cases ctx.deadline with
  | none => simp [Moment.isCancelled]
  | some deadline =>
    by_cases late : deadline ≤ now
    · simp [Moment.isCancelled, late]
    · simp [Moment.isCancelled, late, Nat.not_le.1 late]

theorem check_withTimeout_at_start {ctx : Context} {now : Nat} {d : Duration} :
    (ctx.withTimeout now d).check ⟨now, []⟩ = .ok () ↔
      ctx.check ⟨now, []⟩ = .ok () ∧ 0 < d.nanos := by
  rw [check_at_start, check_at_start]
  unfold Context.withTimeout Context.withDeadline
  cases ctx.deadline with
  | none => simp
  | some deadline =>
    simp only [Option.mem_def, Option.some.injEq, forall_eq']
    split <;> omega

/-- A command is out of time from the start only if it is given no time. -/
theorem check_deskFor (s : Surroundings) (inv : Invocation) (directory : Directory)
    {ledger : Directory.Opened}
    (config : ledger.config.transactionTimeoutMs ≠ some 0) :
    ((deskFor s inv directory ledger).coordinator.limitedAt (deskFor s inv directory ledger).ctx
      s.now).check ⟨s.now, []⟩ = .ok () ↔ inv.timeoutMs ≠ some 0 := by
  have given : (deskFor s inv directory ledger).ctx.check ⟨s.now, []⟩ = .ok () ↔
      inv.timeoutMs ≠ some 0 := by
    cases timeout : inv.timeoutMs with
    | none =>
      cases user : inv.user <;>
        simp [deskFor, user, timeout, check_at_start, Context.background, Context.actingAs]
    | some ms =>
      cases user : inv.user <;> simp only [deskFor, user, timeout, check_withTimeout_at_start] <;>
        simp [check_at_start, Context.background, Context.actingAs, Duration.ofMillis] <;> omega
  rw [← given]
  have timeout : (deskFor s inv directory ledger).coordinator.timeout =
      ledger.config.transactionTimeoutMs.map .ofMillis := rfl
  unfold limitedAt
  rw [timeout]
  cases ms : ledger.config.transactionTimeoutMs with
  | none => rfl
  | some n =>
    have some_time : 0 < (Duration.ofMillis n).nanos := by
      have positive : n ≠ 0 := fun zero => config (by rw [ms, zero])
      simp only [Duration.ofMillis]
      omega
    simp [check_withTimeout_at_start, some_time]

/-- A ledger that is open has settings that fit. -/
theorem timeout_of_openLedger {env : Config.Environment} {d d' : Directory}
    {ledger : Directory.Opened} (opened : d.openLedger env = (.ok ledger, d')) :
    ledger.config.transactionTimeoutMs ≠ some 0 := by
  unfold Directory.openLedger at opened
  split at opened
  · cases opened
  · rename_i config loaded
    have fits : config.check = .ok () := (Config.load_eq_ok.1 loaded).1
    split at opened
    · cases opened
    · split at opened
      · cases opened
      · rename_i db found
        rcases migrated : Schema.Migration.onCatalog Schema.Migration.runPending db.catalog with
          ⟨failure | done, catalog⟩
        · rw [migrated] at opened
          cases opened
        · rw [migrated] at opened
          cases opened
          exact (Config.check_eq_ok.1 fits).2.2.1

/-! ## The exit code in both formats -/

/-- An audit that fails somewhere is what makes the health check fail. -/
theorem code_doctor (s : Surroundings) (inv : Invocation) (directory : Directory)
    (details : Bool) :
    ((withLedger s inv directory (doctor details true)).1.code = 0 ↔
      (withLedger s inv directory (doctor details false)).1.code = 0 ∨
        directory.Inconsistent s.env ∧ inv.timeoutMs ≠ some 0) ∧
      (directory.Inconsistent s.env →
        (withLedger s inv directory (doctor details false)).1.code = 1) := by
  rw [code_withLedger, code_withLedger]
  rcases opened : directory.openLedger s.env with ⟨e | ledger, d'⟩
  · have shut : ¬ directory.Inconsistent s.env := by
      rintro ⟨ledger, d', audit, opened', -⟩
      cases opened.symm.trans opened'
    simp [shut]
  · let desk := deskFor s inv d' ledger
    have inTime := check_deskFor s inv d' (timeout_of_openLedger opened)
    have sound : directory.Inconsistent s.env ↔ ∃ audit,
        (d'.records ledger).tables.audit = .ok audit ∧
          (Health.ofAudit audit).isHealthy = false := by
      constructor
      · rintro ⟨ledger', d'', audit, opened', found⟩
        cases opened.symm.trans opened'
        exact ⟨audit, found⟩
      · rintro ⟨audit, found⟩
        exact ⟨ledger, d', audit, opened, found⟩
    have checked : (desk.perform (desk.coordinator.checkHealth desk.ctx)).1 =
        ((desk.coordinator.limitedAt desk.ctx s.now).check ⟨s.now, []⟩ >>= fun _ =>
          (d'.records ledger).tables.audit).map .ofAudit := perform_checkHealth desk
    have code (json : Bool) : (doctor details json desk).1.code =
        (present json Health.toJson (healthOutput details)
          (desk.perform (desk.coordinator.checkHealth desk.ctx)).1).code := rfl
    simp only [show deskFor s inv d' ledger = desk from rfl] at inTime ⊢
    rw [code, code, checked, sound]
    cases allowed : (desk.coordinator.limitedAt desk.ctx s.now).check ⟨s.now, []⟩ with
    | error e =>
      have late : inv.timeoutMs = some 0 := Decidable.byContradiction fun given => by
        cases allowed.symm.trans (inTime.2 given)
      simp [late, present, envelope, Envelope.ofResult, Envelope.fail, Output.failure, bind,
        Except.bind, Except.map]
    | ok u =>
      have given : inv.timeoutMs ≠ some 0 := inTime.1 allowed
      cases audited : (d'.records ledger).tables.audit with
      | error e =>
        simp [present, envelope, Envelope.ofResult, Envelope.fail, Output.failure, bind,
          Except.bind, Except.map]
      | ok audit =>
        cases healthy : (Health.ofAudit audit).isHealthy <;>
          simp [given, healthy, present, envelope, Envelope.ofResult, Envelope.ok, healthOutput,
            Output.failure, Output.success, bind, Except.bind, Except.map]

/-- **The exit code in both formats**: it is the same, unless the health check finds an error. -/
theorem code_carryOut (s : Surroundings) (directory : Directory) (inv : Invocation) :
    ((carryOut s directory (inv.inFormat true)).1.code = 0 ↔
      (carryOut s directory (inv.inFormat false)).1.code = 0 ∨
        inv.command.IsDoctor ∧ directory.Inconsistent s.env ∧ inv.timeoutMs ≠ some 0) ∧
      (inv.command.IsDoctor → directory.Inconsistent s.env →
        (carryOut s directory (inv.inFormat false)).1.code = 1) := by
  obtain ⟨user, timeoutMs, verbose, command⟩ := inv
  have same {words json : Output × Directory} (alike : json.1.code = 0 ↔ words.1.code = 0)
      (other : ∀ details json, command ≠ .doctor details json) :
      (json.1.code = 0 ↔ words.1.code = 0 ∨ command.IsDoctor ∧ directory.Inconsistent s.env ∧
        timeoutMs ≠ some 0) ∧ (command.IsDoctor → directory.Inconsistent s.env →
          words.1.code = 1) := by
    have notDoctor : ¬ command.IsDoctor := fun ⟨details, json, doctor⟩ => other details json doctor
    exact ⟨by simp [alike, notDoctor], fun doctor => absurd doctor notDoctor⟩
  cases command with
  | newAccount owner currency balance json =>
    refine same (code_withLedger_congr rfl rfl fun d => ?_) (by simp)
    unfold newAccount
    simp only [Invocation.inFormat]
    split
    · split
      · rfl
      · exact code_present fun a _ => rfl
    · rfl
  | showAccount id json =>
    exact same (code_withLedger_congr rfl rfl fun d => code_present fun a _ => rfl) (by simp)
  | listAccounts owner offset limit json =>
    refine same ?_ (by simp)
    simp only [carryOut, Invocation.inFormat, Command.inFormat]
    cases Page.checked offset limit with
    | error e => rfl
    | ok page => exact code_withLedger_congr rfl rfl fun d => code_present fun a _ => rfl
  | history id transfers offset limit json =>
    refine same ?_ (by simp)
    simp only [carryOut, Invocation.inFormat, Command.inFormat]
    cases Page.checked offset limit with
    | error e => rfl
    | ok page => exact code_withLedger_congr rfl rfl fun d => code_history id transfers page d
  | transfer source destination amount json =>
    refine same ?_ (by simp)
    simp only [carryOut, Invocation.inFormat, Command.inFormat]
    cases Amount.parse amount with
    | error e => rfl
    | ok amount => exact code_withLedger_congr rfl rfl fun d => code_present fun a _ => rfl
  | status json =>
    exact same (code_withLedger_congr rfl rfl fun d => code_present fun a _ => rfl) (by simp)
  | doctor details json =>
    have alike (json' : Bool) : (carryOut s directory (Invocation.inFormat json'
        ⟨user, timeoutMs, verbose, .doctor details json⟩)).1.code =
        (withLedger s ⟨user, timeoutMs, verbose, .doctor details json⟩ directory
          (doctor details json')).1.code := by
      rw [code_withLedger]
      exact code_withLedger _
    obtain ⟨same, fails⟩ :=
      code_doctor s ⟨user, timeoutMs, verbose, .doctor details json⟩ directory details
    have isDoctor : (Command.doctor details json).IsDoctor := ⟨details, json, rfl⟩
    rw [alike, alike]
    exact ⟨by simpa [isDoctor] using same, fun _ => fails⟩

/-- **The exit code with and without the flag**: where both command lines are accepted, the code is
the same, unless the health check finds an error. -/
theorem exit_codes (s : Surroundings) (directory : Directory) {before after : List String}
    {inv inv' : Invocation}
    (words : Invocation.parse (s.env "TALLY_USER") (before ++ after) = .ok inv)
    (json : Invocation.parse (s.env "TALLY_USER") (before ++ "--json" :: after) = .ok inv') :
    ((run s directory (before ++ "--json" :: after)).1.code = 0 ↔
      (run s directory (before ++ after)).1.code = 0 ∨
        inv.command.IsDoctor ∧ directory.Inconsistent s.env ∧ inv.timeoutMs ≠ some 0) ∧
      (inv.command.IsDoctor → directory.Inconsistent s.env →
        (run s directory (before ++ after)).1.code = 1) := by
  obtain ⟨same, rfl⟩ := Invocation.parse_inserted words json
  have plain : run s directory (before ++ after) = carryOut s directory (inv.inFormat false) := by
    rw [← same]
    simp only [run, words]
  have asJson : run s directory (before ++ "--json" :: after) =
      carryOut s directory (inv.inFormat true) := by
    simp only [run, json]
  rw [plain, asJson]
  exact code_carryOut s directory inv

/-! ### A ledger that is not sound -/

/-- An account with an entry that nothing makes up for. -/
def lopsidedTables : Relational.Tables where
  accounts := [⟨1, "alice", 0, "CAD", "2026-01-01T00:00:00Z"⟩]
  entries := [⟨1, 1, 5, "2026-01-01T00:00:00Z"⟩]
  transfers := []

/-- A directory with these tables. -/
def lopsided : Directory :=
  ⟨.absent, [("tally.duckdb", some ⟨.empty, lopsidedTables, ⟨1, 1, 0⟩⟩)]⟩

/-- Nothing is set from outside. -/
def quiet : Surroundings := ⟨fun _ => none, 0, fun _ => 0⟩

theorem inconsistent_lopsided : lopsided.Inconsistent quiet.env := by
  let ledger : Directory.Opened := ⟨.standard, "tally.duckdb", true⟩
  have opened : lopsided.openLedger quiet.env =
      (.ok ledger, (lopsided.openLedger quiet.env).2) := by
    with_unfolding_all rfl
  have tables : ((lopsided.openLedger quiet.env).2.records ledger).tables = lopsidedTables := by
    decide +kernel
  refine ⟨ledger, _, ⟨[], 5, [⟨1, 5, 0⟩], [], [], []⟩, opened, ?_, rfl⟩
  rw [tables]
  rfl

theorem parse_doctor : Invocation.parse (quiet.env "TALLY_USER") (["doctor"] ++ []) =
    .ok ⟨none, none, false, .doctor false false⟩ := rfl

theorem parse_doctor_json :
    Invocation.parse (quiet.env "TALLY_USER") (["doctor"] ++ "--json" :: []) =
      .ok ⟨none, none, false, .doctor false true⟩ := rfl

theorem exit_codes_lopsided : (run quiet lopsided ["doctor", "--json"]).1.code = 0 ∧
    (run quiet lopsided ["doctor"]).1.code = 1 := by
  obtain ⟨same, fails⟩ := exit_codes quiet lopsided parse_doctor parse_doctor_json
  have isDoctor : (Command.doctor false false).IsDoctor := ⟨false, false, rfl⟩
  exact ⟨same.2 (.inr ⟨isDoctor, inconsistent_lopsided, by decide⟩),
    fails isDoctor inconsistent_lopsided⟩

/-- The health check of this ledger ends in success with the flag, and in failure without it. -/
theorem not_exit_alike : ¬ ∀ (s : Surroundings) (directory : Directory) (before after : List String)
    (inv inv' : Invocation),
    Invocation.parse (s.env "TALLY_USER") (before ++ after) = .ok inv →
    Invocation.parse (s.env "TALLY_USER") (before ++ "--json" :: after) = .ok inv' →
    ((run s directory (before ++ "--json" :: after)).1.code = 0 ↔
      (run s directory (before ++ after)).1.code = 0) := by
  intro alike
  have same := alike quiet lopsided ["doctor"] [] _ _ parse_doctor parse_doctor_json
  simp only [run, parse_doctor, parse_doctor_json] at same
  obtain ⟨codes, fails⟩ :=
    code_carryOut quiet lopsided ⟨none, none, false, .doctor false false⟩
  have isDoctor : (Command.doctor false false).IsDoctor := ⟨false, false, rfl⟩
  have succeeds := same.1 (codes.2 (.inr ⟨isDoctor, inconsistent_lopsided, by decide⟩))
  cases succeeds.symm.trans (fails isDoctor inconsistent_lopsided)

end CommandLine
end DoubleEntry
