import DoubleEntry.Context
import DoubleEntry.Program
import DoubleEntry.Store.Call

/-!
# Stores

A `Store` keeps a ledger and hands out transactions on it.  It is given by what its operations do to
a `World`: the data that all transactions share, and the moment.  The state of an open transaction
is a value of its own, which nobody but the store looks into; a transaction ends by `commit`,
`rollback` or `release`.

A `Procedure` is a program whose questions are the steps that somebody takes who works on a store:
opening a transaction, calls on it, ending it, looking at the clock, waiting, cancelling a token and
sending notices.  A guarded step checks a context first and reaches the store only if the check
succeeds.  `Store.perform` answers the steps.
-/

namespace DoubleEntry

/-! ## The surroundings of a transaction -/

/-- What all transactions share. -/
structure World (σ : Type) where
  moment : Moment
  data : σ

/-- A store with shared data `σ` and transactions `τ`. -/
structure Store (σ τ : Type) where
  name : String
  /-- Open a transaction. -/
  begin : World σ → Except Error τ × World σ
  /-- Carry out a call on an open transaction. -/
  call : (c : Call) → τ → World σ → c.Outcome × τ × World σ
  /-- End a transaction and keep what it did.  If this fails, what it did is lost. -/
  commit : τ → World σ → Except Error Unit × World σ
  /-- End a transaction and drop what it did, whether or not this succeeds. -/
  rollback : τ → World σ → Except Error Unit × World σ
  /-- Let go of a transaction that was never ended. -/
  release : τ → World σ → World σ

/-! ## Steps -/

/-- A step of somebody who works on a store and sends notices of type `ν`. -/
inductive Step (ν : Type) where
  /-- Look at the clock. -/
  | now
  /-- Check a context. -/
  | check (ctx : Context)
  /-- Check a context, then open a transaction. -/
  | begin (ctx : Context)
  /-- Check a context, then make a call on the open transaction. -/
  | call (ctx : Context) (c : Call)
  | commit
  | rollback
  | wait (d : Duration)
  | cancel (token : Token)
  | notify (notice : ν)

/-- What a step answers. -/
@[reducible] def Step.Answer {ν : Type} : Step ν → Type
  | .now => Nat
  | .check _ => Except Error Unit
  | .begin _ => Except Error Unit
  | .call _ c => c.Outcome
  | .commit => Except Error Unit
  | .rollback => Except Error Unit
  | .wait _ => Unit
  | .cancel _ => Unit
  | .notify _ => Unit

/-- A computation that works on a store. -/
abbrev Procedure (ν α : Type) : Type := Program (Step.Answer (ν := ν)) α

namespace Procedure

variable {ν : Type}

/-- Take a single step. -/
def step (s : Step ν) : Procedure ν s.Answer :=
  .question s

end Procedure

/-! ## Taking steps -/

/-- Where somebody stands who works on a store: the world, the transaction that is open, and the
notices sent, the last one first. -/
structure Seat (σ τ ν : Type) where
  world : World σ
  transaction : Option τ
  sent : List ν

namespace Store

variable {σ τ ν : Type}

/-- The failure of a step that needs an open transaction. -/
def notOpen : Error := .database "no transaction is open"

/-- The store's answer to a step.  A transaction that is still open when the next one begins is let
go of first. -/
def perform (store : Store σ τ) : Program.Handler (Step.Answer (ν := ν)) (Seat σ τ ν)
  | .now, seat => (seat.world.moment.now, seat)
  | .check ctx, seat => (ctx.check seat.world.moment, seat)
  | .begin ctx, seat =>
    match ctx.check seat.world.moment with
    | .error e => (.error e, seat)
    | .ok () =>
      let world := match seat.transaction with
        | some tx => store.release tx seat.world
        | none => seat.world
      match store.begin world with
      | (.ok tx, world) => (.ok (), { seat with world, transaction := some tx })
      | (.error e, world) => (.error e, { seat with world, transaction := none })
  | .call ctx c, seat =>
    match ctx.check seat.world.moment with
    | .error e => (.error e, seat)
    | .ok () =>
      match seat.transaction with
      | none => (.error notOpen, seat)
      | some tx =>
        let (outcome, tx, world) := store.call c tx seat.world
        (outcome, { seat with world, transaction := some tx })
  | .commit, seat =>
    match seat.transaction with
    | none => (.error notOpen, seat)
    | some tx =>
      let (outcome, world) := store.commit tx seat.world
      (outcome, { seat with world, transaction := none })
  | .rollback, seat =>
    match seat.transaction with
    | none => (.error notOpen, seat)
    | some tx =>
      let (outcome, world) := store.rollback tx seat.world
      (outcome, { seat with world, transaction := none })
  | .wait d, seat =>
    ((), { seat with world := { seat.world with moment := seat.world.moment.pass d } })
  | .cancel token, seat =>
    ((), { seat with world := { seat.world with moment := seat.world.moment.cancel token } })
  | .notify notice, seat => ((), { seat with sent := notice :: seat.sent })

/-- Run a procedure on a store from outside any transaction: the value, the world afterwards, and
the notices in the order in which they were sent. -/
def run {α : Type} (store : Store σ τ) (procedure : Procedure ν α) (world : World σ) :
    α × World σ × List ν :=
  let (value, seat) := procedure.exec store.perform ⟨world, none, []⟩
  (value, seat.world, seat.sent.reverse)

end Store

end DoubleEntry
