import DoubleEntry.Store

/-!
# Faults

A store around another store.  It keeps a record of everything that is asked of it, and it can be
told to fail: an armed `Fault` waits for an operation, lets some of them pass, and then takes
effect a number of times.  Of several faults for one operation the one armed first decides.

A commit or rollback that is made to fail lets go of the transaction, as if it had never been ended.
-/

namespace DoubleEntry

/-- What a store may be asked for, without the details. -/
inductive Verb where
  | begin
  | createAccount
  | getAccount
  | claim
  | adjust
  | listAccounts
  | createEntry
  | createTransfer
  | listEntries
  | listTransfers
  | totals
  | audit
  | commit
  | rollback
  deriving DecidableEq, Repr

/-- The verb of a call. -/
def Call.verb : Call → Verb
  | .createAccount .. => .createAccount
  | .getAccount _ => .getAccount
  | .claim _ => .claim
  | .adjust .. => .adjust
  | .listAccounts .. => .listAccounts
  | .createEntry .. => .createEntry
  | .createTransfer .. => .createTransfer
  | .listEntries .. => .listEntries
  | .listTransfers .. => .listTransfers
  | .totals => .totals
  | .audit => .audit

/-- Something that was asked of a store. -/
inductive Request where
  | begin
  | call (c : Call)
  | commit
  | rollback
  /-- A transaction was let go of without being ended. -/
  | release
  deriving DecidableEq, Repr

/-- What a fault does. -/
inductive FaultEffect where
  /-- The operation fails and does not reach the store. -/
  | fail (e : Error)
  /-- The token at hand is cancelled, and the operation goes on. -/
  | cancel
  /-- An audit answers this and does not reach the store. -/
  | audit (answer : Audit)
  /-- Totals answer this and do not reach the store. -/
  | totals (answer : Totals)
  deriving DecidableEq, Repr

/-- A fault that waits for an operation. -/
structure Fault where
  verb : Verb
  /-- How many operations it lets pass. -/
  skip : Nat
  /-- How often it takes effect. -/
  times : Nat
  effect : FaultEffect
  deriving DecidableEq, Repr

namespace Faults

/-- The data of a store with faults: that of the store inside, the armed faults in the order in
which they were armed, the token that they cancel, and what was asked of the store. -/
structure State (σ : Type) where
  inner : σ
  armed : List Fault
  token : Token
  asked : List Request

variable {σ τ : Type}

/-- A store inside, without faults. -/
def State.ofInner (inner : σ) : State σ := ⟨inner, [], ⟨0⟩, []⟩

/-- The effect on an operation, and the faults that stay armed. -/
def due (verb : Verb) : List Fault → Option FaultEffect × List Fault
  | [] => (none, [])
  | f :: rest =>
    if f.verb ≠ verb then
      let (effect, rest) := due verb rest
      (effect, f :: rest)
    else if 0 < f.skip then (none, { f with skip := f.skip - 1 } :: rest)
    else (some f.effect, if f.times ≤ 1 then rest else { f with times := f.times - 1 } :: rest)

/-- Keep a record of a request. -/
def note (r : Request) (w : World (State σ)) : World (State σ) :=
  { w with data := { w.data with asked := w.data.asked ++ [r] } }

/-- Find the effect on an operation.  Cancelling happens at once. -/
def strike (verb : Verb) (w : World (State σ)) : Option FaultEffect × World (State σ) :=
  let (effect, armed) := due verb w.data.armed
  let w := { w with data := { w.data with armed } }
  match effect with
  | some .cancel => (effect, { w with moment := w.moment.cancel w.data.token })
  | _ => (effect, w)

/-- The world as the store inside sees it. -/
def inside (w : World (State σ)) : World σ := ⟨w.moment, w.data.inner⟩

/-- The world after the store inside has changed its part. -/
def outside (w : World (State σ)) (inner : World σ) : World (State σ) :=
  ⟨inner.moment, { w.data with inner := inner.data }⟩

/-- The answer that a fault gives in place of the store inside. -/
def instead? (c : Call) : Option FaultEffect → Option c.Outcome
  | some (.fail e) => some (.error e)
  | some (.audit answer) => match c with
    | .audit => some (.ok answer)
    | _ => none
  | some (.totals answer) => match c with
    | .totals => some (.ok answer)
    | _ => none
  | _ => none

/-- Open a transaction. -/
def begin (store : Store σ τ) (w : World (State σ)) : Except Error τ × World (State σ) :=
  match strike .begin (note .begin w) with
  | (some (.fail e), w) => (.error e, w)
  | (_, w) =>
    let (tx, inner) := store.begin (inside w)
    (tx, outside w inner)

/-- Carry out a call. -/
def call (store : Store σ τ) (c : Call) (tx : τ) (w : World (State σ)) :
    c.Outcome × τ × World (State σ) :=
  let (effect, w) := strike c.verb (note (.call c) w)
  match instead? c effect with
  | some outcome => (outcome, tx, w)
  | none =>
    let (outcome, tx, inner) := store.call c tx (inside w)
    (outcome, tx, outside w inner)

/-- Let go of a transaction. -/
def release (store : Store σ τ) (tx : τ) (w : World (State σ)) : World (State σ) :=
  let w := note .release w
  outside w (store.release tx (inside w))

/-- End a transaction by one of the ways of the store inside. -/
def finish (store : Store σ τ) (verb : Verb) (request : Request)
    (finishInside : τ → World σ → Except Error Unit × World σ) (tx : τ) (w : World (State σ)) :
    Except Error Unit × World (State σ) :=
  match strike verb (note request w) with
  | (some (.fail e), w) => (.error e, release store tx w)
  | (_, w) =>
    let (outcome, inner) := finishInside tx (inside w)
    (outcome, outside w inner)

/-- A store with faults. -/
def store (inner : Store σ τ) : Store (State σ) τ where
  name := inner.name
  begin := begin inner
  call := call inner
  commit := finish inner .commit .commit inner.commit
  rollback := finish inner .rollback .rollback inner.rollback
  release := release inner

end Faults

end DoubleEntry
