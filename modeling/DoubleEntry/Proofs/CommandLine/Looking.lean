import DoubleEntry.Account.Requests
import DoubleEntry.Proofs.Work.OnLedger
import DoubleEntry.Store.Relational

/-!
# Looking at a ledger in a database

A unit of work that only looks, carried out by a client that has the database to itself, is told
what stands in the tables (`Program.told`), and leaves everything as it was.  `exec_run_reads` says
so of a whole request with its attempts: nothing fails that may be tried again, so the first attempt
is the last one.
-/

namespace DoubleEntry

open Program

/-! ## Being told by tables -/

/-- A call that neither writes to the tables nor marks a row in them. -/
def Call.Reads (c : Call) : Prop := c.Looks ∧ Relational.writes c = false

namespace Relational

/-- What tables answer to a call that reads; others do not matter here. -/
def Tables.tell {ν : Type} (t : Tables) : (s : WorkStep ν) → s.Answer
  | .call c => (onTables (.ofNanos 0) .fresh t c).1
  | .onCommit _ => ()
  | .wait _ => ()
  | .cancel _ => ()

theorem onTables_of_reads {c : Call} (reads : c.Reads) (now : Timestamp) (s : Sequences)
    (t : Tables) : onTables now s t c = ((onTables (.ofNanos 0) .fresh t c).1, t) := by
  cases c <;> first | rfl | exact reads.1.elim

/-- A call that reads leaves the transaction and the world as they were. -/
theorem call_of_reads {c : Call} (reads : c.Reads) (tx : Transaction) (w : World State) :
    call c tx w = ((onTables (.ofNanos 0) .fresh tx.tables c).1, tx, w) := by
  have drawn : w.data.sequences.draw c = w.data.sequences := by
    cases c <;> first | rfl | exact reads.1.elim
  simp only [call, drawn, reads.2, Bool.false_and, Bool.or_false]
  rw [onTables_of_reads reads]

/-! ### Failures -/

/-- No failure is one after which the work may be tried again. -/
def Final {α : Type} (outcome : Except Error α) : Prop :=
  ∀ e, outcome = .error e → e.isTransient = false

theorem final_ok {α : Type} (a : α) : Final (.ok a : Except Error α) := nofun

theorem Final.bind {α β : Type} {x : Except Error α} {f : α → Except Error β} (first : Final x)
    (later : ∀ a, Final (f a)) : Final (x >>= f) := by
  cases x with
  | error e =>
    rintro _ ⟨⟩
    exact first e rfl
  | ok a => exact later a

theorem final_mapM {α β : Type} {f : α → Except Error β} (each : ∀ a, Final (f a)) (l : List α) :
    Final (l.mapM f) := by
  induction l with
  | nil => exact final_ok []
  | cons a rest ih =>
    rw [List.mapM_cons]
    exact (each a).bind fun b => ih.bind fun bs => final_ok _

theorem final_readCurrency (text : String) : Final (readCurrency text) := by
  unfold readCurrency
  split
  · exact final_ok _
  · rintro _ ⟨⟩
    rfl

theorem final_readTimestamp (text : String) : Final (readTimestamp text) := by
  unfold readTimestamp
  split
  · exact final_ok _
  · rintro _ ⟨⟩
    rfl

theorem final_bounded (sum : Int) : Final (Tables.bounded sum) := by
  unfold Tables.bounded
  split
  · exact final_ok _
  · rintro _ ⟨⟩
    rfl

theorem final_readAccount (r : AccountRow) : Final r.read :=
  (final_readCurrency _).bind fun _ => (final_readTimestamp _).bind fun _ => final_ok _

theorem final_readEntry (r : EntryRow) : Final r.read :=
  (final_readTimestamp _).bind fun _ => final_ok _

theorem final_readTransfer (r : TransferRow) : Final r.read :=
  (final_readTimestamp _).bind fun _ => final_ok _

theorem final_getAccount (t : Tables) (id : Int) : Final (t.getAccount id) := by
  unfold Tables.getAccount
  split
  · exact final_readAccount _
  · rintro _ ⟨⟩
    rfl

/-- Tables fail a reader for good. -/
theorem final_onTables {c : Call} (reads : c.Reads) (now : Timestamp) (s : Sequences) (t : Tables) :
    Final (onTables now s t c).1 := by
  cases c with
  | createAccount | adjust | createEntry | createTransfer => exact reads.1.elim
  | claim id => cases reads.2
  | getAccount id => exact final_getAccount t id
  | listAccounts owner page => exact final_mapM final_readAccount _
  | listEntries account page => exact final_mapM final_readEntry _
  | listTransfers account page => exact final_mapM final_readTransfer _
  | totals =>
    exact (final_mapM (fun _ => (final_readCurrency _).bind fun _ => final_ok _) _).bind
      fun _ => final_ok _
  | audit =>
    refine (final_bounded _).bind fun _ => Final.bind ?_ fun _ => final_ok _
    exact final_mapM (fun _ => (final_bounded _).bind fun _ =>
      (final_bounded _).bind fun _ => final_ok _) _

end Relational

/-! ## Work that only looks -/

/-- A step that is a call that reads. -/
def WorkStep.Reads {ν : Type} : WorkStep ν → Prop
  | .call c => c.Reads
  | _ => False

namespace Program

variable {Q : Type} {A : Q → Type} {α β : Type} {answer : (q : Q) → A q}

/-- What a program comes to if its questions are answered by a rule. -/
def told (answer : (q : Q) → A q) : Program A α → α
  | .done a => a
  | .ask q next => (next (answer q)).told answer

theorem told_bind (p : Program A α) (f : α → Program A β) :
    (p >>= f).told answer = (f (p.told answer)).told answer := by
  induction p with
  | done a => rfl
  | ask q next ih => exact ih (answer q)

theorem told_exceptBind {ε : Type} (x : ExceptT ε (Program A) α) (f : α → ExceptT ε (Program A) β) :
    (x >>= f).run.told answer = (x.run.told answer >>= fun a => (f a).run.told answer) := by
  show (x.run >>= ExceptT.bindCont f).told answer = _
  rw [told_bind]
  cases x.run.told answer <;> rfl

end Program

namespace Coordinator

variable {ν α : Type} {ctx : Context} {w : World Relational.State}

open Relational (store Final)

/-! ## Carrying out work that only looks -/

theorem exec_carryOut_reads (work : Work ν α) (reads : work.AsksOnly WorkStep.Reads)
    (allowed : ctx.check w.moment = .ok ()) (tx : Relational.Transaction) (notices sent : List ν) :
    (carryOut ctx notices work).exec store.perform ⟨w, some tx, sent⟩ =
      ((work.told tx.tables.tell, notices), ⟨w, some tx, sent⟩) := by
  induction work with
  | done a => rfl
  | ask s next ih =>
    obtain ⟨first, later⟩ := reads
    cases s with
    | onCommit | wait | cancel => exact first.elim
    | call c =>
      have step : store.perform (.call ctx c : Step ν) ⟨w, some tx, sent⟩ =
          (tx.tables.tell (.call c : WorkStep ν), ⟨w, some tx, sent⟩) := by
        have called := Relational.call_of_reads first tx w
        simp only [Store.perform, allowed]
        exact congrArg (fun r => (r.1, Seat.mk r.2.2 (some r.2.1) sent)) called
      simp only [carryOut, exec, step]
      exact ih _ (later _)

theorem exec_step_bind {β : Type} (q : Step ν) (f : q.Answer → Procedure ν β)
    (seat : Seat Relational.State Relational.Transaction ν) :
    (Procedure.step q >>= f).exec store.perform seat =
      (f (store.perform q seat).1).exec store.perform (store.perform q seat).2 := rfl

/-- A transaction in which nothing was written leaves no trace, however it ends. -/
theorem exec_conclude_reads (outcome : Except Error α) (allowed : ctx.check w.moment = .ok ())
    (notices : List ν) :
    (conclude ctx outcome notices).exec store.perform ⟨w, some ⟨w.data.tables, false⟩, []⟩ =
      (outcome.map (·, notices), Store.outside w) := by
  cases outcome with
  | error e => rfl
  | ok a =>
    have checked : store.perform (.check ctx : Step ν) ⟨w, some ⟨w.data.tables, false⟩, []⟩ =
        (.ok (), ⟨w, some ⟨w.data.tables, false⟩, []⟩) := by
      simp only [Store.perform, allowed]
    have committed : store.perform (.commit : Step ν) ⟨w, some ⟨w.data.tables, false⟩, []⟩ =
        (.ok (), Store.outside w) := by
      simp [Store.perform, store, Relational.commit, Store.outside]
    simp only [conclude]
    rw [exec_step_bind, checked]
    simp only
    rw [exec_step_bind, committed]
    rfl

/-- An attempt to look: it is told what stands in the tables, and changes nothing. -/
theorem exec_attempt_reads {task : Task ν α} (reads : task.run.AsksOnly WorkStep.Reads)
    (allowed : ctx.check w.moment = .ok ()) :
    (attempt ctx (.ofTask task) ()).exec store.perform (Store.outside w) =
      (((task.run.told w.data.tables.tell).map (·, ([] : List ν)), ()), Store.outside w) := by
  have begun : store.perform (.begin ctx : Step ν) (Store.outside w) =
      (.ok (), ⟨w, some ⟨w.data.tables, false⟩, []⟩) := by
    simp only [Store.perform, Store.outside, allowed]
    rfl
  have carried := exec_carryOut_reads (Job.ofTask task ()) (reads.bind fun _ => trivial)
    allowed ⟨w.data.tables, false⟩ [] []
  have told : (Job.ofTask task ()).told w.data.tables.tell =
      (task.run.told w.data.tables.tell, ()) := told_bind _ _
  rw [told] at carried
  unfold attempt
  rw [exec_step_bind, begun]
  simp only
  rw [exec_bind, carried, exec_bind, exec_conclude_reads _ allowed]
  rfl

/-- The context under which a request that comes at some time works. -/
def limitedAt (c : Coordinator) (ctx : Context) (now : Nat) : Context :=
  match c.timeout with
  | some d => ctx.withTimeout now d
  | none => ctx

theorem exec_limited (c : Coordinator) (ctx : Context) (w : World Relational.State) :
    (c.limited ctx : Procedure ν Context).exec store.perform (Store.outside w) =
      (c.limitedAt ctx w.moment.now, Store.outside w) := by
  unfold limited limitedAt
  cases c.timeout <;> rfl

theorem isTransient_of_check {e : Error} {m : Moment} (late : ctx.check m = .error e) :
    e.isTransient = false := by
  unfold Context.check at late
  split at late
  · cases late
    rfl
  · split at late
    · split at late
      · cases late
        rfl
      · cases late
    · cases late

/-- What a request that only looks comes to in a database: the failure of its context, or what
stands in the tables. -/
def seen (c : Coordinator) (ctx : Context) (task : Task ν α) (w : World Relational.State) :
    Except Error α := do
  (c.limitedAt ctx w.moment.now).check w.moment
  task.run.told w.data.tables.tell

/-- **A request that only looks** leaves the database as it was, and needs one attempt only. -/
theorem exec_run_reads (c : Coordinator) (ctx : Context) (w : World Relational.State)
    {task : Task ν α}
    (reads : task.run.AsksOnly WorkStep.Reads)
    (final : ∀ t : Relational.Tables, Final (task.run.told t.tell)) :
    (c.run ctx task).run.exec store.perform (Store.outside w) =
      (c.seen ctx task w, (Store.outside w : Seat _ _ ν)) := by
  have tried : ∀ retries n, (c.attempts (c.limitedAt ctx w.moment.now) (.ofTask task) retries n
      ()).exec store.perform (Store.outside w) =
      ((c.seen ctx task w, ()), (Store.outside w : Seat _ _ ν)) := by
    intro retries n
    unfold attempts
    rw [exec_bind]
    cases allowed : (c.limitedAt ctx w.moment.now).check w.moment with
    | error e =>
      have refused : (attempt (c.limitedAt ctx w.moment.now) (.ofTask task) ()).exec store.perform
          (Store.outside w) = (((.error e, ()) : Except Error (α × List ν) × Unit),
            Store.outside w) := by
        unfold attempt
        rw [exec_step_bind]
        simp only [Store.perform, Store.outside, allowed]
        rfl
      have shown : c.seen ctx task w = .error e := by
        simp [seen, allowed, bind, Except.bind]
      rw [refused, shown]
      cases retries with
      | zero => rfl
      | succ more => simp [exec, isTransient_of_check allowed]
    | ok u =>
      have shown : c.seen ctx task w = task.run.told w.data.tables.tell := by
        simp [seen, allowed, bind, Except.bind]
      rw [exec_attempt_reads reads allowed, shown]
      cases outcome : task.run.told w.data.tables.tell with
      | ok a => rfl
      | error e =>
        cases retries with
        | zero => rfl
        | succ more => simp [Except.map, exec, final _ e outcome]
  show (c.runJob ctx (.ofTask task) () >>= _).exec _ _ = _
  unfold runJob
  rw [exec_bind, exec_bind, exec_limited, tried]
  rfl

/-! ## What the tables tell -/

theorem reads_call {c : Call} (reads : c.Reads) :
    (Task.call c : Task ν c.Answer).run.AsksOnly WorkStep.Reads :=
  ⟨reads, fun _ => trivial⟩

theorem reads_ownedAccount (ctx : Context) (id : Int) :
    (ownedAccount ctx id : Task ν Account).run.AsksOnly WorkStep.Reads :=
  (reads_call (c := .getAccount id) ⟨trivial, rfl⟩).exceptBind fun _ =>
    AsksOnly.exceptBind (x := Task.require _) trivial fun _ => trivial

theorem final_call {c : Call} (reads : c.Reads) (t : Relational.Tables) :
    Final ((Task.call c : Task ν c.Answer).run.told t.tell) :=
  Relational.final_onTables reads _ _ t

theorem final_ownedAccount (ctx : Context) (id : Int) (t : Relational.Tables) :
    Final ((ownedAccount ctx id : Task ν Account).run.told t.tell) := by
  unfold ownedAccount
  rw [told_exceptBind]
  refine (Relational.final_getAccount t id).bind fun a => ?_
  rw [told_exceptBind]
  refine Relational.Final.bind (x := ctx.authorize a.owner) ?_ fun _ => Relational.final_ok _
  unfold Context.authorize
  rintro e refused
  split at refused
  · split at refused
    · cases refused
    · cases refused
      rfl
  · cases refused

/-- Who is shown the records of an account is shown the account too. -/
theorem seen_ownedAccount {c : Coordinator} {id : Int} {f : Account → Task ν α} {a : α}
    (shown : c.seen ctx (ownedAccount ctx id >>= f) w = .ok a) :
    ∃ account, c.seen ctx (ownedAccount ctx id : Task ν Account) w = .ok account := by
  unfold seen at shown ⊢
  rw [told_exceptBind] at shown
  cases allowed : (c.limitedAt ctx w.moment.now).check w.moment with
  | error e =>
    rw [allowed] at shown
    cases shown
  | ok u =>
    rw [allowed] at shown
    cases told : (ownedAccount ctx id : Task ν Account).run.told w.data.tables.tell with
    | error e =>
      rw [told] at shown
      cases shown
    | ok account => exact ⟨account, rfl⟩

end Coordinator
end DoubleEntry
