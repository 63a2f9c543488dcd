import DoubleEntry.Page
import DoubleEntry.Transfer

/-!
# Store calls

The operations that a unit of work may ask of an open transaction, and what each of them answers.
-/

namespace DoubleEntry

/-! ## Reports -/

/-- The numbers of records, and the sum of the balances for each currency in the order of the
codes. -/
structure Totals where
  accounts : Int
  entries : Int
  transfers : Int
  balances : List (Currency × Int)
  deriving DecidableEq, Repr

/-- An account whose entries and transfers do not tell the same story. -/
structure Drift where
  account : Int
  /-- The sum of its entries. -/
  entryTotal : Int
  /-- Incoming less outgoing transfers. -/
  transferTotal : Int
  deriving DecidableEq, Repr

/-- What is wrong with the records of a ledger. -/
structure Audit where
  /-- The accounts with a balance below zero. -/
  negativeBalances : List Int
  /-- The sum of all entries. -/
  entrySum : Int
  drifted : List Drift
  /-- The transfers of no positive amount, or with the same account on both sides. -/
  invalidTransfers : List Int
  /-- The entries on accounts that do not exist. -/
  orphanedEntries : List Int
  /-- The transfers with a side that does not exist. -/
  orphanedTransfers : List Int
  deriving DecidableEq, Repr

/-- Nothing is wrong. -/
def Audit.clean : Audit := ⟨[], 0, [], [], [], []⟩

/-! ## Calls -/

/-- An operation on an open transaction. -/
inductive Call where
  /-- Open an account; an owner has at most one in each currency. -/
  | createAccount (owner : String) (currency : Currency) (balance : Int)
  | getAccount (id : Int)
  /-- Read an account and keep others from writing it until the transaction ends. -/
  | claim (id : Int)
  /-- Add to a balance, which must not fall below zero. -/
  | adjust (id delta : Int)
  /-- List the accounts by id, all of them or those of one owner. -/
  | listAccounts (owner : Option String) (page : Page)
  | createEntry (account amount : Int)
  | createTransfer (source destination amount : Int)
  /-- List the entries of an account, the oldest first. -/
  | listEntries (account : Int) (page : Page)
  /-- List the transfers with an account on either side, the oldest first. -/
  | listTransfers (account : Int) (page : Page)
  | totals
  | audit
  deriving DecidableEq, Repr

/-- What a call answers if it succeeds. -/
@[reducible] def Call.Answer : Call → Type
  | .createAccount .. => Account
  | .getAccount _ => Account
  | .claim _ => Account
  | .adjust .. => Account
  | .listAccounts .. => List Account
  | .createEntry .. => Entry
  | .createTransfer .. => Transfer
  | .listEntries .. => List Entry
  | .listTransfers .. => List Transfer
  | .totals => Totals
  | .audit => Audit

/-- What a call answers, success or failure. -/
abbrev Call.Outcome (c : Call) : Type := Except Error c.Answer

end DoubleEntry
