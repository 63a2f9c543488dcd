import Mathlib.Data.List.Perm.Basic
import DoubleEntry.Proofs.Ledger.RunningTotals
import DoubleEntry.Proofs.Traffic.Foresight

/-!
# Transfers one after another

What a transfer does to the balances does not depend on what they are: it shifts an amount from one
account to another, and the shifts are what it adds to the entries (`Ledger.entryRecords_transfer`).
So after any number of transfers an account has what it had and all that was shifted:
`Traffic.account?_of_along`.
-/

namespace DoubleEntry

open Program

namespace Ledger

variable {l l' : Ledger} {principal : Option Principal} {times : TransferTimes}
  {r : TransferRequest} {result : TransferResult}

theorem addedTo_shifts (id : Int) (r : TransferRequest) :
    addedTo id r.shifts = (if r.source = id then -r.amount else 0) +
      if r.destination = id then r.amount else 0 := by
  rw [TransferRequest.shifts, addedTo_cons, addedTo_single, addedTo_single]

theorem addedTo_perm {records records' : List (Int × Int)} (perm : records.Perm records')
    (id : Int) : addedTo id records = addedTo id records' := by
  have amounts := (perm.filter (·.1 == id)).map (·.2)
  exact amounts.foldr_eq 0

theorem map_plus_zero (found : Option Account) : found.map (·.plus 0) = found := by
  rw [funext Account.plus_zero, Option.map_id_fun', id_def]

theorem map_plus_plus (found : Option Account) (m n : Int) :
    (found.map (·.plus m)).map (·.plus n) = found.map (·.plus (m + n)) := by
  rw [Option.map_map]
  exact congrArg (Option.map · found) (funext fun a => a.plus_plus m n)

/-- After a transfer, every account has what it had and what was shifted. -/
theorem account?_transfer (done : l.transfer principal times r = .ok (result, l')) (id : Int) :
    l'.account? id = (l.account? id).map (·.plus (addedTo id r.shifts)) := by
  obtain ⟨-, apart, source, destination, foundSource, foundDestination, -, -, -, -, booked⟩ :=
    transfer_eq_ok.1 done
  obtain rfl : (l.booked times r source destination).2 = l' := congrArg (·.2) booked
  have moved : (l.booked times r source destination).2.account? id =
      (l.account? id).map (r.settled source destination) := account?_moved id
  rw [moved]
  exact Option.map_congr fun a found => settled_eq_plus apart foundSource foundDestination found

/-- A transfer adds its shifts to the entries. -/
theorem entryRecords_transfer (done : l.transfer principal times r = .ok (result, l')) :
    l'.entryRecords = l.entryRecords ++ r.shifts := by
  obtain ⟨-, -, source, destination, -, -, -, -, -, -, booked⟩ := transfer_eq_ok.1 done
  obtain rfl : (l.booked times r source destination).2 = l' := congrArg (·.2) booked
  show (l.entries ++ [_] ++ [_]).map _ = _
  rw [List.map_append, List.map_append, List.append_assoc]
  rfl

end Ledger

/-! ## Orders -/

namespace Order

variable {ν : Type} {o : Order ν}

/-- Whether the order is one for a transfer. -/
def isTransfer (o : Order ν) : Bool :=
  match o.wish with
  | .transfer .. => true
  | .account .. => false

/-- The changes of balances that the order asks for. -/
def shifts (o : Order ν) : List (Int × Int) :=
  match o.wish with
  | .transfer r _ => r.shifts
  | .account .. => []

theorem shifts_of_wish {r : TransferRequest} {inform : TransferResult → List ν}
    (wish : o.wish = .transfer r inform) : o.shifts = r.shifts := by
  rw [shifts, wish]

end Order

namespace Traffic

open Ledger

variable {ν : Type} {l l' : Ledger} {served : List ((_ : Order ν) × Receipt)}

/-- What the orders that were served have shifted. -/
def shiftedBy (served : List ((_ : Order ν) × Receipt)) : List (Int × Int) :=
  served.flatMap fun e => e.1.shifts

/-- An order for a transfer is served by a transfer. -/
theorem transfer_of_serves {o : Order ν} {receipt : Receipt} (transfer : o.isTransfer)
    (serves : Order.Serves l o receipt l') :
    ∃ r result times, o.shifts = r.shifts ∧
      l.transfer o.context.principal times r = .ok (result, l') := by
  obtain ⟨new, fits, opened, now, wish, -, -⟩ | ⟨r, inform, result, times, wish, -, moved⟩ :=
    Order.serves_cases serves
  · rw [Order.isTransfer, wish] at transfer
    cases transfer
  · exact ⟨r, result, times, Order.shifts_of_wish wish, moved⟩

/-- After any number of transfers, every account has what it had and what was shifted. -/
theorem account?_of_along (transfers : ∀ e ∈ served, e.1.isTransfer)
    (way : Along Order.Serves l served l') (id : Int) :
    l'.account? id = (l.account? id).map (·.plus (addedTo id (shiftedBy served))) := by
  induction served generalizing l with
  | nil =>
    cases way
    exact (map_plus_zero _).symm
  | cons e rest ih =>
    obtain ⟨between, serves, way⟩ := way
    obtain ⟨first, later⟩ := List.forall_mem_cons.1 transfers
    obtain ⟨r, result, times, shifts, moved⟩ := transfer_of_serves first serves
    rw [ih later way, account?_transfer moved, map_plus_plus, ← shifts, ← addedTo_append]
    rfl

end Traffic
end DoubleEntry
