import DoubleEntry.Amount.Bounds
import DoubleEntry.Page
import DoubleEntry.Transfer

/-!
# Ledgers

A `Ledger` holds accounts, entries and transfers in the order of their ids.  The operations here are
those of a single transaction: each either fails and changes nothing, or gives its answer together
with the new ledger.  They keep the balances from falling below zero and the records from naming
accounts that do not exist, and no owner has two accounts in one currency.  That the entries of an
account agree with its transfers is up to those who use them.
-/

namespace DoubleEntry

/-- Accounts and what has been booked on them. -/
structure Ledger where
  accounts : List Account
  entries : List Entry
  transfers : List Transfer
  lastAccount : Nat
  lastEntry : Nat
  lastTransfer : Nat
  deriving DecidableEq

namespace Ledger

/-- A ledger without accounts. -/
def empty : Ledger := ⟨[], [], [], 0, 0, 0⟩

/-! ## Accounts -/

/-- The account with an id. -/
def account? (l : Ledger) (id : Int) : Option Account :=
  l.accounts.find? (·.id == id)

/-- Whether there is an account with an id. -/
def hasAccount (l : Ledger) (id : Int) : Bool :=
  (l.account? id).isSome

/-- The account with an id, or the failure that there is none. -/
def getAccount (l : Ledger) (id : Int) : Except Error Account :=
  match l.account? id with
  | some a => .ok a
  | none => .error (.noAccount id)

/-- Whether the owner has an account in a currency. -/
def holds (l : Ledger) (owner : String) (currency : Currency) : Bool :=
  l.accounts.any fun a => a.owner == owner && a.currency == currency

/-- Open an account. -/
def createAccount (l : Ledger) (now : Timestamp) (owner : String) (currency : Currency)
    (balance : Int) : Except Error (Account × Ledger) :=
  if l.holds owner currency then .error (.duplicateAccount owner currency)
  else if balance < 0 then .error (.database "check constraint violation: balance >= 0")
  else
    let id := l.lastAccount + 1
    let a : Account := ⟨id, owner, balance, currency, now⟩
    .ok (a, { l with accounts := l.accounts ++ [a], lastAccount := id })

/-- Put another balance into an account. -/
def setBalance (l : Ledger) (id balance : Int) : Ledger :=
  { l with accounts := l.accounts.map fun a => if a.id = id then { a with balance } else a }

/-- Add to a balance. -/
def adjust (l : Ledger) (id delta : Int) : Except Error (Account × Ledger) := do
  let a ← l.getAccount id
  match Amount.fit? (a.balance + delta) with
  | none => .error (.database "balance overflow")
  | some balance =>
    if balance < 0 then .error (.insufficientFunds id a.balance (Amount.opposite delta))
    else .ok ({ a with balance }, l.setBalance id balance)

/-- The accounts of an owner, or of everybody. -/
def accountsOf (l : Ledger) (owner : Option String) : List Account :=
  match owner with
  | some name => l.accounts.filter (·.owner == name)
  | none => l.accounts

/-! ## Entries and transfers -/

/-- Fail unless there is an account with an id. -/
def requireAccount (l : Ledger) (id : Int) : Except Error Unit :=
  if l.hasAccount id then .ok ()
  else .error (.database
    ("foreign key violation: account " ++ toString id ++ " does not exist"))

/-- Book an entry.  It does not change the balance. -/
def createEntry (l : Ledger) (now : Timestamp) (account amount : Int) :
    Except Error (Entry × Ledger) := do
  l.requireAccount account
  let id := l.lastEntry + 1
  let e : Entry := ⟨id, account, amount, now⟩
  pure (e, { l with entries := l.entries ++ [e], lastEntry := id })

/-- Record a transfer.  It does not change any balance. -/
def createTransfer (l : Ledger) (now : Timestamp) (source destination amount : Int) :
    Except Error (Transfer × Ledger) := do
  l.requireAccount source
  l.requireAccount destination
  if amount ≤ 0 ∨ source = destination then
    .error (.database "check constraint violation on transfers")
  else
    let id := l.lastTransfer + 1
    let t : Transfer := ⟨id, source, destination, amount, now⟩
    pure (t, { l with transfers := l.transfers ++ [t], lastTransfer := id })

/-- The entries of an account. -/
def entriesOf (l : Ledger) (account : Int) : List Entry :=
  l.entries.filter (·.account == account)

/-- The transfers with an account on either side. -/
def transfersOf (l : Ledger) (account : Int) : List Transfer :=
  l.transfers.filter (·.touches account)

end Ledger

end DoubleEntry
