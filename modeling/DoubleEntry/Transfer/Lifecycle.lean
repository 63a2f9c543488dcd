/-!
# The life of a transfer attempt

An attempt is validated, locks its accounts, checks the balance, applies the changes and is
committed.  It may be aborted at any point before the changes are applied.
-/

namespace DoubleEntry

/-- How far a transfer attempt has come. -/
inductive TransferState where
  | validated
  | locked
  | balanceChecked
  | applied
  | committed
  | aborted
  deriving DecidableEq, Repr

namespace TransferState

/-- All states. -/
def all : List TransferState :=
  [.validated, .locked, .balanceChecked, .applied, .committed, .aborted]

/-- The name of the state. -/
def name : TransferState → String
  | .validated => "validated"
  | .locked => "locked"
  | .balanceChecked => "balance_checked"
  | .applied => "applied"
  | .committed => "committed"
  | .aborted => "aborted"

/-- The state with this name. -/
def ofName? (name : String) : Option TransferState :=
  all.find? (·.name == name)

/-- Whether nothing follows the state. -/
def isTerminal : TransferState → Bool
  | .committed => true
  | .aborted => true
  | _ => false

/-- Whether `next` may follow the state. -/
def canAdvanceTo (s next : TransferState) : Bool :=
  match s, next with
  | .validated, .locked => true
  | .locked, .balanceChecked => true
  | .balanceChecked, .applied => true
  | .applied, .committed => true
  | .validated, .aborted => true
  | .locked, .aborted => true
  | .balanceChecked, .aborted => true
  | _, _ => false

end TransferState

end DoubleEntry
