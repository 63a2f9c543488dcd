import DoubleEntry.Proofs.Coordinator.Attempts
import DoubleEntry.Proofs.Store.Bracketing

/-!
# Atomicity of the coordinator

Whatever fails on the way and however often, the run of a job takes effect once or not at all.
`runJob_atomic` says so for every store that keeps a ledger: if the run succeeds, exactly one of its
commits did, and it published what the work of that attempt had staged on top of the committed
ledger; the notices of that attempt are sent afterwards.  If the run fails, the committed ledger is
what it was, and no notice of any attempt is sent.

`Keeping.Lands` is the anatomy of a run that succeeds.
-/

namespace DoubleEntry

open Store

namespace Store.Keeping

variable {σ τ ν Λ : Type} {store : Store σ τ} (keeping : store.Keeping Λ)

/-- A way through some steps that are all taken outside any transaction. -/
def WayOutside (seat : Seat σ τ ν) (trace : Procedure.Trace ν) (seat' : Seat σ τ ν) : Prop :=
  Program.Along
    (fun s q answer s' => s.transaction = none ∧ store.Takes keeping.Spares s q answer s')
    seat trace seat'

/-- How a run of a job takes effect, from `start` to `finish`: what came before passed without
effect; then a transaction began on the committed ledger, the work went through its steps and ended
with the value, and what it left staged was committed; last, outside any transaction, the notices
that the work had registered were sent. -/
inductive Lands {κ α : Type} (job : Job κ ν α) (start : Seat σ τ ν) :
    Procedure.Trace ν → α → κ → Seat σ τ ν → Prop
  | intro {ctx : Context} {tried : Procedure.Trace ν} {steps : Work.Record ν} {state state' : κ}
      {value : α} {found begun worked allowed closed finish : Seat σ τ ν} (passing : Passing tried)
      (before : keeping.Way start tried found)
      (begin : store.Takes keeping.Spares found (.begin ctx) (.ok ()) begun)
      (saw : keeping.staged? begun = some (keeping.ledger start))
      (work : (job state).Runs steps (.ok value, state'))
      (during : keeping.Way begun (steps.enacted ctx) worked)
      (check : store.Takes keeping.Spares worked (.check ctx) (.ok ()) allowed)
      (commit : store.Takes keeping.Spares allowed .commit (.ok ()) closed)
      (published : keeping.staged? worked = some (keeping.ledger closed))
      (after : keeping.WayOutside closed (notified steps.registered) finish)
      (kept : keeping.ledger finish = keeping.ledger closed)
      (sent : finish.sent = steps.registered.reverse ++ start.sent) :
      Lands job start (tried ++ (steps.committing ctx ++ notified steps.registered)) value state'
        finish

/-- The run of a job is atomic: it has at most one successful commit, and exactly one if it
succeeds; then it has taken effect with its value.  If it fails, the committed ledger is what it
was, and nothing was sent.  No transaction stays open. -/
structure Atomic {κ α : Type} (job : Job κ ν α) (world : World σ)
    (run : Ending σ τ ν (Except Error α × κ)) : Prop where
  at_most_once : publications run.trace ≤ 1
  ok_iff : run.value.1.isOk ↔ publications run.trace = 1
  lands : ∀ value, run.value.1 = .ok value →
    keeping.Lands job (outside world) run.trace value run.value.2 run.seat
  spared : ∀ e, run.value.1 = .error e →
    keeping.ledger run.seat = keeping.committed world.data ∧ run.seat.sent = []
  shut : run.seat.transaction = none

variable {keeping} {seat seat' : Seat σ τ ν}

/-- Notices are sent one after another, and nothing else changes. -/
theorem way_notified {notices : List ν} (way : keeping.Way seat (notified notices) seat')
    (shut : seat.transaction = none) :
    keeping.WayOutside seat (notified notices) seat' ∧ keeping.ledger seat' = keeping.ledger seat ∧
      seat'.sent = notices.reverse ++ seat.sent := by
  induction notices generalizing seat with
  | nil =>
    cases way
    exact ⟨rfl, rfl, rfl⟩
  | cons notice rest ih =>
    obtain ⟨next, taken, way⟩ := way
    obtain ⟨kept, same, sent⟩ := takes_notify taken
    obtain ⟨later, kept', sent'⟩ := ih way (same.trans shut)
    refine ⟨⟨next, ⟨shut, taken⟩, later⟩, kept'.trans kept, ?_⟩
    rw [sent', sent, List.reverse_cons, List.append_assoc]
    rfl

/-- A run that ends with a commit and the notices of the committed work has taken effect. -/
theorem lands_of_way {κ α : Type} {job : Job κ ν α} {ctx : Context} {tried : Procedure.Trace ν}
    {steps : Work.Record ν} {state state' : κ} {value : α} {start finish : Seat σ τ ν}
    (passing : Passing tried) (work : (job state).Runs steps (.ok value, state'))
    (way :
      keeping.Way start (tried ++ (steps.committing ctx ++ notified steps.registered)) finish) :
    keeping.Lands job start (tried ++ (steps.committing ctx ++ notified steps.registered)) value
      state' finish := by
  obtain ⟨found, before, way⟩ := Program.along_append.1 way
  obtain ⟨closed, ⟨begun, begin, way⟩, after⟩ := Program.along_append.1 way
  obtain ⟨worked, during, allowed, check, _, commit, rfl⟩ := Program.along_append.1 way
  obtain ⟨untouched, unsent⟩ := way_of_passing before passing
  obtain ⟨-, unsentBegin⟩ := takes_of_not_lasting begin id
  obtain ⟨-, unsentWork⟩ := way_of_passing during (Work.Record.passing_enacted ctx steps)
  obtain ⟨-, unsentCheck⟩ := takes_of_not_lasting check id
  obtain ⟨published, shut, unsentCommit⟩ := takes_commit_ok commit
  obtain ⟨outside, kept, sent⟩ := way_notified after shut
  have saw : keeping.staged? begun = some (keeping.ledger start) :=
    (takes_begin_ok begin).trans (congrArg some untouched)
  rw [takes_check check] at published
  rw [unsentCommit, unsentCheck, unsentWork, unsentBegin, unsent] at sent
  exact .intro passing before begin saw work during check commit published outside kept sent

end Store.Keeping

namespace Coordinator

variable {σ τ ν Λ κ α : Type} {store : Store σ τ} {ctx : Context} {job : Job κ ν α}

/-! ## Every transaction is ended -/

section Bracketed

variable {trace : Procedure.Trace ν} {state state' : κ}

theorem bracketed_enacted (steps : Work.Record ν) : Bracketed true (steps.enacted ctx) true := by
  induction steps with
  | nil => rfl
  | cons s rest ih =>
    rcases s with ⟨⟨⟩, _⟩
    · exact ⟨rfl, ih⟩
    · exact ih
    · exact ih
    · exact ih

/-- An attempt ends the transaction that it opens. -/
theorem Attempted.bracketed {outcome : Except Error (α × List ν)}
    (attempted : Attempted ctx job state trace outcome state') : Bracketed false trace false := by
  cases attempted with
  | refused e => exact ⟨rfl, rfl⟩
  | failed work ended => exact ⟨rfl, (bracketed_enacted _).append ⟨rfl, rfl⟩⟩
  | cancelled work cause ended => exact ⟨rfl, (bracketed_enacted _).append ⟨rfl, rfl⟩⟩
  | conflicted work e | committed work => exact ⟨rfl, (bracketed_enacted _).append ⟨rfl, rfl⟩⟩

theorem bracketed_of_pause {d : Duration} {answer : Except Error Unit}
    (run : (pause ctx d).Runs trace answer) : Bracketed false trace false := by
  obtain rfl | rfl := runs_pause run <;> rfl

theorem Tried.bracketed {c : Coordinator} {retries n : Nat} {outcome : Except Error α}
    (tried : Tried c ctx job retries n state trace outcome state') :
    Bracketed false trace false := by
  induction tried with
  | succeeded last => exact last.bracketed.append (bracketed_notified _)
  | gaveUp last _ => exact last.bracketed
  | interrupted last _ paused => exact last.bracketed.append (bracketed_of_pause paused)
  | again first _ paused _ ih =>
    exact first.bracketed.append ((bracketed_of_pause paused).append ih)

/-- The run of a job ends every transaction that it opens. -/
theorem bracketed_of_runJob {c : Coordinator} {outcome : Except Error α}
    (run : (c.runJob ctx job state).Runs trace (outcome, state')) :
    Bracketed false trace false := by
  obtain ⟨ctx', looking, tries, rfl, limited, tried⟩ := runs_runJob run
  refine Bracketed.append ?_ tried.bracketed
  obtain ⟨-, rfl, -⟩ | ⟨d, reading, -, rfl, -⟩ := runs_limited limited <;> rfl

end Bracketed

/-! ## Runs of jobs -/

/-- A run of a job by any of its ways, from outside any transaction: if it succeeds it has taken
effect, and if it fails it has none. -/
theorem lands_or_passes {keeping : store.Keeping Λ} {c : Coordinator} {state state' : κ}
    {trace : Procedure.Trace ν} {outcome : Except Error α} {start finish : Seat σ τ ν}
    (run : (c.runJob ctx job state).Runs trace (outcome, state'))
    (way : keeping.Way start trace finish) (shut : start.transaction = none) :
    finish.transaction = none ∧
      ((∃ value, outcome = .ok value ∧ publications trace = 1 ∧
          keeping.Lands job start trace value state' finish) ∨
        (∃ e, outcome = .error e ∧ publications trace = 0 ∧
          keeping.ledger finish = keeping.ledger start ∧ finish.sent = start.sent)) := by
  refine ⟨shut_of_bracketed way (bracketed_of_runJob run) shut, ?_⟩
  obtain ⟨ctx', outlasts⟩ := outlasts_runJob run
  rcases outcome with e | value
  · obtain ⟨kept, unsent⟩ := Keeping.way_of_passing way outlasts
    exact .inr ⟨e, rfl, publications_of_passing outlasts, kept, unsent⟩
  · obtain ⟨tried, steps, state₁, passing, work, rfl⟩ := outlasts
    refine .inl ⟨value, rfl, ?_, Keeping.lands_of_way passing work way⟩
    rw [publications_append, publications_append, publications_of_passing passing,
      Work.Record.publications_committing, publications_notified]

theorem atomic_of_run {keeping : store.Keeping Λ} {c : Coordinator} {state : κ} {world : World σ}
    (run : Ending σ τ ν (Except Error α × κ))
    (runs : (c.runJob ctx job state).Runs run.trace run.value)
    (way : keeping.Way (outside world) run.trace run.seat) : keeping.Atomic job world run := by
  obtain ⟨⟨outcome, state'⟩, finish, trace⟩ := run
  obtain ⟨shut, ⟨value, rfl, once, lands⟩ | ⟨e, rfl, never, kept, unsent⟩⟩ :=
    lands_or_passes runs way rfl
  · refine ⟨once ▸ Nat.le_refl 1, ⟨fun _ => once, fun _ => rfl⟩, ?_, nofun, shut⟩
    rintro _ ⟨⟩
    exact lands
  · refine ⟨never ▸ Nat.zero_le 1, ⟨nofun, ?_⟩, nofun, fun _ _ => ⟨kept, unsent⟩, shut⟩
    intro once
    cases never.symm.trans once

/-- Whatever a store, its faults and its surroundings do, as long as nobody else commits, the run of
a job is atomic. -/
theorem runJob_atomic (keeping : store.Keeping Λ) (c : Coordinator) (ctx : Context)
    (job : Job κ ν α) (state : κ) {stir : Nat → World σ → World σ}
    (spares : ∀ n w, keeping.Spares w (stir n w)) (world : World σ) :
    keeping.Atomic job world (store.runAmid stir (c.runJob ctx job state) world) :=
  atomic_of_run _ (runs_runAmid store stir _ world) (along_runAmid spares _ world)

/-- A job that counts its attempts: each opens an account and registers the number of the attempt,
the second time twice. -/
def counted : Job Nat Nat Account := fun n => do
  Program.question (.onCommit n : WorkStep Nat)
  let opened ← Program.question (.call (.createAccount "carol" .usd 5) : WorkStep Nat)
  if n = 2 then
    Program.question (.onCommit (n + 10) : WorkStep Nat)
  pure (opened, n + 1)

/-- After a conflict on the first commit only the second attempt counts, whatever time it takes. -/
theorem runJob_atomic_counted :
    let world : World Memory.State := ⟨⟨0, []⟩, { Memory.State.empty with commitConflicts := 1 }⟩
    let run := Memory.store.runAmid (fun _ w => { w with moment := w.moment.pass (.ofMillis 1) })
      (runJob ⟨.standard, some (.ofMillis 1000), fun _ => 7⟩ (.background ⟨0⟩) counted 1) world
    Memory.keeping.Atomic counted world run ∧ publications run.trace = 1 ∧ run.value.2 = 3 ∧
      run.seat.sent.reverse = [2, 12] := by
  intro world run
  refine ⟨?_, by decide +kernel⟩
  apply runJob_atomic Memory.keeping
  intro n w
  rfl

end Coordinator
end DoubleEntry
