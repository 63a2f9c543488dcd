import DoubleEntry.Account

/-!
# Transfers and entries

A transfer moves an amount from one account to another.  It books two entries: the debit on the
source and the credit on the destination.
-/

namespace DoubleEntry

/-- The change that one transfer makes to one balance.  Entries are never changed or removed. -/
structure Entry where
  id : Int
  account : Int
  /-- In minor units, negative on the debit side. -/
  amount : Int
  createdAt : Timestamp
  deriving DecidableEq

/-- Whether the entry takes from the balance. -/
def Entry.isDebit (e : Entry) : Bool :=
  e.amount < 0

/-- A completed transfer. -/
structure Transfer where
  id : Int
  source : Int
  destination : Int
  amount : Int
  createdAt : Timestamp
  deriving DecidableEq

/-- Whether the account is one of the two sides. -/
def Transfer.touches (t : Transfer) (account : Int) : Bool :=
  t.source == account || t.destination == account

/-- The wish to move an amount. -/
structure TransferRequest where
  source : Int
  destination : Int
  amount : Int
  deriving DecidableEq, Repr

/-- The rules for a transfer that need no ledger. -/
def TransferRequest.check (r : TransferRequest) : Except Error Unit :=
  if r.amount ≤ 0 then .error (.validation "transfer amount must be positive")
  else if r.source = r.destination then
    .error (.validation "cannot transfer between the same account")
  else .ok ()

/-- Everything that a completed transfer produced. -/
structure TransferResult where
  transfer : Transfer
  sourceAccount : Account
  destinationAccount : Account
  debit : Entry
  credit : Entry
  deriving DecidableEq

end DoubleEntry
