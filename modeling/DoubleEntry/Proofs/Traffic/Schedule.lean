import DoubleEntry.Proofs.Store.Keeping
import DoubleEntry.Proofs.Traffic.Orders

/-!
# Schedules

Clients meet at one store in memory, with faults around it.  Each order of a client is a `Visit`;
the visits take their steps in any order, one at a time, and anything that leaves the committed
ledger alone may happen in between.  The store has one transaction at a time: a visit that begins
one has its context checked first and then waits until no other visit holds a transaction.

`Traffic.play` is what a schedule of such moves comes to.
-/

namespace DoubleEntry

open Program Store

/-! ## Beginning after a wait -/

section Entering

variable {σ τ ν : Type}

/-- Begin a transaction, without another look at the context. -/
def Store.enter (store : Store σ τ) (seat : Seat σ τ ν) : Except Error Unit × Seat σ τ ν :=
  match store.begin (store.freed seat) with
  | (.ok tx, world) => (.ok (), ⟨world, some tx, seat.sent⟩)
  | (.error e, world) => (.error e, ⟨world, none, seat.sent⟩)

/-- A transaction begins by a look at the context and then entering. -/
theorem Store.perform_begin_eq (store : Store σ τ) (ctx : Context) (seat : Seat σ τ ν) :
    store.perform (.begin ctx) seat =
      match ctx.check seat.world.moment with
      | .error e => (.error e, seat)
      | .ok () => store.enter seat := rfl

end Entering

/-! ## Moves -/

namespace Traffic

/-- The store where the clients meet. -/
abbrev store : Store (Faults.State Memory.State) Ledger := Faults.store Memory.store

/-- How it keeps its ledger. -/
abbrev keeping : store.Keeping Ledger := Faults.keeping Memory.keeping

end Traffic

/-- An order on its way. -/
structure Visit (ν : Type) where
  order : Order ν
  /-- Whether it waits for its turn to begin a transaction. -/
  queued : Bool
  /-- What is still to be done for it. -/
  rest : Procedure ν (Except Error Receipt)

namespace Visit

variable {ν : Type}

/-- What the visit came to, if it is over. -/
def outcome? (v : Visit ν) : Option (Except Error Receipt) :=
  match v.rest with
  | .done outcome => some outcome
  | .ask .. => none

/-- The order and its receipt, if the visit was a success. -/
def served? (v : Visit ν) : Option ((_ : Order ν) × Receipt) :=
  match v.outcome? with
  | some (.ok receipt) => some ⟨v.order, receipt⟩
  | _ => none

/-- The notices that the visit should have sent when it is over. -/
def due (v : Visit ν) : List ν :=
  match v.outcome? with
  | some (.ok receipt) => v.order.due receipt
  | _ => []

end Visit

/-- Clients at the store.  The visits are numbered from zero in the order in which they came. -/
structure Traffic (ν : Type) where
  world : World (Faults.State Memory.State)
  /-- The open transaction, and the visit that it belongs to. -/
  holder : Option (Nat × Ledger)
  visits : List (Visit ν)
  /-- The visits whose commits succeeded, one number for each commit. -/
  commits : List Nat
  /-- The notices, each with the visit that sent it. -/
  sent : List (Nat × ν)

/-- What can happen next. -/
inductive Move (ν : Type) where
  /-- A client comes with an order. -/
  | issue (o : Order ν)
  /-- A visit takes its next step, or waits. -/
  | act (n : Nat)
  /-- The clock, the tokens and the faults change, and the committed ledger does not. -/
  | stir (change : World (Faults.State Memory.State) → World (Faults.State Memory.State))
    (spares : ∀ w, Traffic.keeping.Spares w (change w))

namespace Traffic

variable {ν : Type}

/-- Nobody is there yet. -/
def start (world : World (Faults.State Memory.State)) : Traffic ν := ⟨world, none, [], [], []⟩

/-- The transaction of a visit. -/
def own (t : Traffic ν) (n : Nat) : Option Ledger :=
  (t.holder.filter (·.1 = n)).map (·.2)

/-- Whether no other visit holds a transaction. -/
def Free (t : Traffic ν) (n : Nat) : Prop := ∀ h ∈ t.holder, h.1 = n

instance (t : Traffic ν) (n : Nat) : Decidable (t.Free n) :=
  inferInstanceAs (Decidable (∀ h ∈ t.holder, h.1 = n))

/-- Where a visit stands before its next step. -/
def seat (t : Traffic ν) (n : Nat) : Seat (Faults.State Memory.State) Ledger ν :=
  ⟨t.world, t.own n, []⟩

/-- The answer to a step of a visit, and where it stands afterwards, unless it has to wait. -/
def answer? (t : Traffic ν) (n : Nat) (queued : Bool) :
    (q : Step ν) → Option (q.Answer × Seat (Faults.State Memory.State) Ledger ν)
  | .begin ctx =>
    if queued then
      if t.Free n then some (store.enter (t.seat n)) else none
    else
      match ctx.check t.world.moment with
      | .error e => some (.error e, t.seat n)
      | .ok () => none
  | q => some (store.perform q (t.seat n))

/-- The traffic after a step of a visit. -/
def after (t : Traffic ν) (n : Nat) (v : Visit ν) (e : (q : Step ν) × q.Answer)
    (seat : Seat (Faults.State Memory.State) Ledger ν) : Traffic ν where
  world := seat.world
  holder :=
    match seat.transaction with
    | some tx => some (n, tx)
    | none => if t.Free n then none else t.holder
  visits := t.visits.set n v
  commits := if isPublication e then t.commits ++ [n] else t.commits
  sent := t.sent ++ seat.sent.reverse.map fun notice => (n, notice)

/-- A visit takes its next step. -/
def act (t : Traffic ν) (n : Nat) : Traffic ν :=
  match t.visits[n]? with
  | none => t
  | some v =>
    match v.rest with
    | .done _ => t
    | .ask q next =>
      match t.answer? n v.queued q with
      | some (answer, seat) => t.after n ⟨v.order, false, next answer⟩ ⟨q, answer⟩ seat
      | none => { t with visits := t.visits.set n { v with queued := true } }

/-- Make a move. -/
def move (t : Traffic ν) : Move ν → Traffic ν
  | .issue o => { t with visits := t.visits ++ [⟨o, false, o.procedure⟩] }
  | .act n => t.act n
  | .stir change _ => { t with world := change t.world }

/-- What a schedule comes to. -/
def play (world : World (Faults.State Memory.State)) (moves : List (Move ν)) : Traffic ν :=
  moves.foldl move (start world)

/-- No order is on its way. -/
def Quiet (t : Traffic ν) : Prop := ∀ v ∈ t.visits, v.outcome?.isSome

instance (t : Traffic ν) : Decidable t.Quiet :=
  inferInstanceAs (Decidable (∀ v ∈ t.visits, v.outcome?.isSome))

/-- The committed ledger. -/
def committed (t : Traffic ν) : Ledger := keeping.committed t.world.data

/-- The notices that a visit has sent. -/
def sentBy (t : Traffic ν) (n : Nat) : List ν :=
  (t.sent.filter (·.1 = n)).map (·.2)

/-- The orders that have succeeded with their receipts, in the order of their last commits. -/
def served (t : Traffic ν) : List ((_ : Order ν) × Receipt) :=
  t.commits.dedup.filterMap fun n => t.visits[n]?.bind Visit.served?

end Traffic
end DoubleEntry
