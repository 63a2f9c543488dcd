import DoubleEntry.Ledger.Report
import DoubleEntry.Store

/-!
# The store in memory

A transaction is a private copy of the ledger, which takes the place of the shared one on commit.
Transactions run one after another.  For tests of those who use it the store can be told to fail:
some commits by a conflict, all rollbacks, or the next record of a transfer.  It also counts the
transactions and lists the accounts that were claimed.
-/

namespace DoubleEntry.Memory

/-- The shared data of the store. -/
structure State where
  committed : Ledger
  /-- How many of the next commits fail by a conflict. -/
  commitConflicts : Nat
  /-- Whether rollbacks fail. -/
  rollbackFails : Bool
  /-- Whether the next record of a transfer fails. -/
  transferFails : Bool
  /-- How many transactions have been opened. -/
  begins : Nat
  /-- The accounts that were claimed, in this order. -/
  claims : List Int
  deriving DecidableEq

/-- An empty store without faults. -/
def State.empty : State := ⟨.empty, 0, false, false, 0, []⟩

/-- The answer of an operation that changes the ledger, and the ledger after it. -/
def changed {α : Type} (staged : Ledger) : Except Error (α × Ledger) → Except Error α × Ledger
  | .ok (answer, staged) => (.ok answer, staged)
  | .error e => (.error e, staged)

/-- What a call does to the ledger, at a point in time. -/
def onLedger (now : Timestamp) (staged : Ledger) : (c : Call) → c.Outcome × Ledger
  | .createAccount owner currency balance =>
    changed staged (staged.createAccount now owner currency balance)
  | .getAccount id => (staged.getAccount id, staged)
  | .claim id => (staged.getAccount id, staged)
  | .adjust id delta => changed staged (staged.adjust id delta)
  | .listAccounts owner page => (.ok (page.window (staged.accountsOf owner)), staged)
  | .createEntry account amount => changed staged (staged.createEntry now account amount)
  | .createTransfer source destination amount =>
    changed staged (staged.createTransfer now source destination amount)
  | .listEntries account page => (.ok (page.window (staged.entriesOf account)), staged)
  | .listTransfers account page => (.ok (page.window (staged.transfersOf account)), staged)
  | .totals => (.ok staged.totals, staged)
  | .audit => (.ok staged.audit, staged)

/-- What a call does to the shared data before it is carried out: claims are listed, and a fault
that is due uses itself up. -/
def State.note (s : State) : Call → State
  | .claim id => { s with claims := s.claims ++ [id] }
  | .createTransfer .. => { s with transferFails := false }
  | _ => s

/-- The fault that is due at a call. -/
def State.fault? (s : State) : Call → Option Error
  | .createTransfer .. =>
    if s.transferFails then some (.database "injected transfer insert failure") else none
  | _ => none

/-- Carry out a call. -/
def call (c : Call) (staged : Ledger) (w : World State) : c.Outcome × Ledger × World State :=
  let after := { w with data := w.data.note c }
  match w.data.fault? c with
  | some e => (.error e, staged, after)
  | none =>
    let (outcome, staged) := onLedger (.ofNanos w.moment.now) staged c
    (outcome, staged, after)

/-- Publish a transaction, unless a conflict is due. -/
def commit (staged : Ledger) (w : World State) : Except Error Unit × World State :=
  match w.data.commitConflicts with
  | left + 1 =>
    (.error (.transientStore "injected serialization conflict"),
      { w with data := { w.data with commitConflicts := left } })
  | 0 => (.ok (), { w with data := { w.data with committed := staged } })

/-- Drop a transaction. -/
def rollback (_ : Ledger) (w : World State) : Except Error Unit × World State :=
  (if w.data.rollbackFails then .error (.database "injected rollback failure") else .ok (), w)

/-- The store in memory. -/
def store : Store State Ledger where
  name := "memory"
  begin w := (.ok w.data.committed, { w with data := { w.data with begins := w.data.begins + 1 } })
  call := call
  commit := commit
  rollback := rollback
  release _ w := w

end DoubleEntry.Memory
