import DoubleEntry.Coordinator
import DoubleEntry.Transfer.Lifecycle

/-!
# Executing transfers

A transfer is checked first: its amount and sides by themselves, then the two accounts in a short
transaction of their own.  The transfer itself is one unit of work: claim both accounts, look at the
balance of the source, move the amount on both, book the debit and the credit, and record the
transfer.  If any of this fails, none of it happened.

`Coordinator.transfer` is the whole operation; `TransferRequest.execute` is one attempt at the unit
of work, together with the states that it went through.
-/

namespace DoubleEntry

/-! ## One attempt -/

/-- A unit of work that keeps a record of the states it goes through. -/
abbrev TransferAttempt (ν α : Type) : Type :=
  ExceptT Error (StateT (List TransferState) (Work ν)) α

namespace TransferAttempt

variable {ν : Type}

/-- Do a task in the course of the attempt. -/
def perform {α : Type} (task : Task ν α) : TransferAttempt ν α :=
  ExceptT.mk (StateT.lift task.run)

/-- Make a call in the course of the attempt. -/
def call (c : Call) : TransferAttempt ν c.Answer :=
  perform (Task.call c)

/-- Go on to the next state. -/
def advance (next : TransferState) : TransferAttempt ν Unit :=
  modify (· ++ [next])

end TransferAttempt

namespace TransferRequest

variable {ν : Type}

open TransferAttempt

/-- Do everything that the transfer consists of. -/
def carryOut (r : TransferRequest) : TransferAttempt ν TransferResult := do
  let (source, _) ← perform (Task.lockPair r.source r.destination)
  advance .locked
  if source.balance < r.amount then
    throw (.insufficientFunds source.id source.balance r.amount)
  advance .balanceChecked
  let sourceAccount ← call (.adjust r.source (-r.amount))
  let destinationAccount ← call (.adjust r.destination r.amount)
  let debit ← call (.createEntry r.source (-r.amount))
  let credit ← call (.createEntry r.destination r.amount)
  let transfer ← call (.createTransfer r.source r.destination r.amount)
  advance .applied
  pure { transfer, sourceAccount, destinationAccount, debit, credit }

/-- The states of an attempt that failed: it is aborted if it still can be. -/
def aborted (visited : List TransferState) : List TransferState :=
  match visited.getLast? with
  | some s => if s.canAdvanceTo .aborted then visited ++ [.aborted] else visited
  | none => visited

/-- One attempt at a transfer, and the states it went through. -/
def execute (r : TransferRequest) :
    Work ν (Except Error TransferResult × List TransferState) := do
  match ← r.carryOut.run.run [.validated] with
  | (.ok result, visited) => pure (.ok result, visited)
  | (.error e, visited) => pure (.error e, aborted visited)

/-- Register notices for the case that the unit of work is committed. -/
def onCommitAll : List ν → Work ν Unit
  | [] => pure ()
  | notice :: rest => do
    Program.question (.onCommit notice : WorkStep ν)
    onCommitAll rest

/-- The unit of work: an attempt that registers the notices of its result.  The state of the job is
the states that the last attempt went through. -/
def job (r : TransferRequest) (notices : TransferResult → List ν) :
    Job (List TransferState) ν TransferResult := fun _ => do
  match ← r.execute with
  | (.ok result, visited) =>
    onCommitAll (notices result)
    pure (.ok result, visited)
  | (.error e, visited) => pure (.error e, visited)

end TransferRequest

/-! ## The operation -/

namespace Coordinator

variable {ν : Type}

/-- Check a transfer against the accounts: both must exist and have the same currency, and the
principal must own the source. -/
def precheck (c : Coordinator) (ctx : Context) (r : TransferRequest) : Operation ν Unit := do
  let (source, destination) ← c.run ctx do
    let source ← Task.call (.getAccount r.source)
    let destination ← Task.call (.getAccount r.destination)
    pure (source, destination)
  if source.currency ≠ destination.currency then
    throw (.currencyMismatch source.currency destination.currency)
  Operation.require (ctx.authorize source.owner)

/-- Move an amount from one account to another.  After the commit the notices of the result are
sent. -/
def transfer (c : Coordinator) (notices : TransferResult → List ν) (ctx : Context)
    (r : TransferRequest) : Operation ν TransferResult := do
  Operation.require r.check
  c.precheck ctx r
  ExceptT.mk do
    let (outcome, _) ← c.runJob ctx (r.job notices) [.validated]
    pure outcome

end Coordinator

end DoubleEntry
