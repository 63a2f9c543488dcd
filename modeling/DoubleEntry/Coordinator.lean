import DoubleEntry.Config
import DoubleEntry.Work

/-!
# The coordinator

A `Coordinator` carries out units of work.  Each attempt runs in a transaction of its own, which is
committed if the work succeeds and its context still allows it, and rolled back otherwise.  After a
transient failure the work is tried again, up to the number of attempts of the policy, with a pause
in between.  Notices are sent after the commit, and only those that the committed attempt
registered.

Work is given as a `Job`: it may carry a state from one attempt to the next, which also tells the
caller what went on.
-/

namespace DoubleEntry

/-- A unit of work that may depend on a state that outlives an attempt. -/
abbrev Job (κ ν α : Type) : Type := κ → Work ν (Except Error α × κ)

/-- A job without a state. -/
def Job.ofTask {ν α : Type} (task : Task ν α) : Job Unit ν α := fun () =>
  task.run >>= fun outcome => pure (outcome, ())

/-- An operation on a ledger: a procedure that stops at its first failure. -/
abbrev Operation (ν α : Type) : Type := ExceptT Error (Procedure ν) α

/-- Stop an operation unless a check succeeds. -/
def Operation.require {ν α : Type} (result : Except Error α) : Operation ν α :=
  ExceptT.mk (pure result)

/-- The rules by which units of work are carried out. -/
structure Coordinator where
  policy : RetryPolicy
  /-- How long a unit of work may take with all its attempts. -/
  timeout : Option Duration
  /-- The number drawn at random for the pause after each failed attempt. -/
  draw : Nat → Nat

namespace Coordinator

variable {κ ν α : Type}

/-- The coordinator of a configuration. -/
def ofConfig (config : Config) (draw : Nat → Nat) : Coordinator :=
  ⟨config.retryPolicy, config.transactionTimeout, draw⟩

/-- Carry out a unit of work in the open transaction.  `notices` are those registered before; the
answer has all that were registered, in this order. -/
def carryOut (ctx : Context) (notices : List ν) : Work ν α → Procedure ν (α × List ν)
  | .done a => .done (a, notices)
  | .ask (.call c) next =>
    .ask (.call ctx c) fun outcome => carryOut ctx notices (next outcome)
  | .ask (.onCommit notice) next => carryOut ctx (notices ++ [notice]) (next ())
  | .ask (.wait d) next => .ask (.wait d) fun _ => carryOut ctx notices (next ())
  | .ask (.cancel token) next => .ask (.cancel token) fun _ => carryOut ctx notices (next ())

/-- End a transaction whose work has failed. -/
def abandon (cause : Error) : Procedure ν Error := do
  match ← Procedure.step .rollback with
  | .ok () => pure cause
  | .error rollback => pure (.transactionAbort cause rollback)

/-- End a transaction by the outcome of its work.  Work that succeeded is committed if its context
still allows it. -/
def conclude (ctx : Context) (outcome : Except Error α) (notices : List ν) :
    Procedure ν (Except Error (α × List ν)) := do
  match outcome with
  | .error cause => return .error (← abandon cause)
  | .ok value =>
    match ← Procedure.step (.check ctx) with
    | .error cause => return .error (← abandon cause)
    | .ok () =>
      match ← Procedure.step .commit with
      | .ok () => return .ok (value, notices)
      | .error e => return .error e

/-- Try a job once.  The answer has the notices to be sent. -/
def attempt (ctx : Context) (job : Job κ ν α) (state : κ) :
    Procedure ν (Except Error (α × List ν) × κ) := do
  match ← Procedure.step (.begin ctx) with
  | .error e => pure (.error e, state)
  | .ok () =>
    let ((outcome, state), notices) ← carryOut ctx [] (job state)
    pure (← conclude ctx outcome notices, state)

/-- Wait as long as the context allows it. -/
def pause (ctx : Context) (d : Duration) : Procedure ν (Except Error Unit) := do
  match ← Procedure.step (.check ctx) with
  | .error e => pure (.error e)
  | .ok () =>
    if d = .zero then pure (.ok ())
    else
      Procedure.step (.wait d)
      Procedure.step (.check ctx)

/-- Send notices. -/
def notifyAll : List ν → Procedure ν Unit
  | [] => pure ()
  | notice :: rest => do
    Procedure.step (.notify notice)
    notifyAll rest

/-- Try a job for the `n`-th time, and after a transient failure up to `retries` more times. -/
def attempts (c : Coordinator) (ctx : Context) (job : Job κ ν α) :
    (retries : Nat) → (n : Nat) → (state : κ) → Procedure ν (Except Error α × κ)
  | retries, n, state => do
    match ← attempt ctx job state with
    | (.ok (value, notices), state) =>
      notifyAll notices
      pure (.ok value, state)
    | (.error e, state) =>
      match retries with
      | 0 => pure (.error e, state)
      | more + 1 =>
        if e.isTransient then
          match ← pause ctx (c.policy.delay n (c.draw n)) with
          | .ok () => c.attempts ctx job more (n + 1) state
          | .error cancelled => pure (.error cancelled, state)
        else pure (.error e, state)

/-- The context under which work runs: with the coordinator's timeout from now on. -/
def limited (c : Coordinator) (ctx : Context) : Procedure ν Context := do
  match c.timeout with
  | some d => return ctx.withTimeout (← Procedure.step .now) d
  | none => return ctx

/-- Carry out a job, and try again after transient failures. -/
def runJob (c : Coordinator) (ctx : Context) (job : Job κ ν α) (state : κ) :
    Procedure ν (Except Error α × κ) := do
  let ctx ← c.limited ctx
  c.attempts ctx job (c.policy.maxAttempts - 1) 1 state

/-- Carry out a task, and try again after transient failures. -/
def run (c : Coordinator) (ctx : Context) (task : Task ν α) : Operation ν α :=
  ExceptT.mk do
    let (outcome, ()) ← c.runJob ctx (.ofTask task) ()
    pure outcome

end Coordinator

end DoubleEntry
