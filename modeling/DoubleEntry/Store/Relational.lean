import DoubleEntry.Amount.Bounds
import DoubleEntry.Currency.Reader
import DoubleEntry.Store
import DoubleEntry.Text.Quoted
import DoubleEntry.Time.Rfc3339

/-!
# The store in a relational database

Records are rows of three tables, and currencies and timestamps are columns of text.  The database
holds the rows to their constraints: unique ids, one account for each owner and currency, balances
that are not negative, references to accounts that exist, and transfers of positive amounts between
two accounts.  Ids come from sequences.  While the database is open a sequence never goes back, so
an id that was drawn for a row that was refused, or in a transaction that was rolled back, is not
used again.

A row whose texts are no currency or no timestamp can be stored, and fails whoever reads it.
-/

namespace DoubleEntry.Relational

/-! ## Tables -/

/-- A row of the table of accounts. -/
structure AccountRow where
  id : Int
  owner : String
  balance : Int
  currency : String
  createdAt : String
  deriving DecidableEq, Repr

/-- A row of the table of entries. -/
structure EntryRow where
  id : Int
  account : Int
  amount : Int
  createdAt : String
  deriving DecidableEq, Repr

/-- A row of the table of transfers. -/
structure TransferRow where
  id : Int
  source : Int
  destination : Int
  amount : Int
  createdAt : String
  deriving DecidableEq, Repr

/-- The tables, with rows in the order of their ids. -/
structure Tables where
  accounts : List AccountRow
  entries : List EntryRow
  transfers : List TransferRow
  deriving DecidableEq, Repr

/-- The numbers last drawn from the sequences. -/
structure Sequences where
  account : Nat
  entry : Nat
  transfer : Nat
  deriving DecidableEq, Repr

/-- What the database holds outside any transaction. -/
structure State where
  tables : Tables
  sequences : Sequences
  /-- Whether a transaction that wrote something was committed since the database was opened. -/
  written : Bool
  deriving DecidableEq, Repr

/-- An open transaction: the tables as it sees them, and whether it wrote to them. -/
structure Transaction where
  tables : Tables
  wrote : Bool
  deriving DecidableEq, Repr

/-- Empty tables. -/
def Tables.empty : Tables := ⟨[], [], []⟩

/-- Fresh sequences. -/
def Sequences.fresh : Sequences := ⟨0, 0, 0⟩

/-- A database without records. -/
def State.empty : State := ⟨.empty, .fresh, false⟩

/-! ## Reading rows -/

/-- The currency that a column holds. -/
def readCurrency (text : String) : Except Error Currency :=
  match Currency.parse text with
  | .ok c => .ok c
  | .error _ => .error (.database ("unknown currency stored: " ++ Text.quoted text))

/-- The timestamp that a column holds. -/
def readTimestamp (text : String) : Except Error Timestamp :=
  match Rfc3339.parseStrict? text with
  | some t => .ok t
  | none => .error (.database ("invalid timestamp " ++ Text.quoted text))

/-- The account in a row. -/
def AccountRow.read (r : AccountRow) : Except Error Account := do
  let currency ← readCurrency r.currency
  let createdAt ← readTimestamp r.createdAt
  pure { id := r.id, owner := r.owner, balance := r.balance, currency, createdAt }

/-- The entry in a row. -/
def EntryRow.read (r : EntryRow) : Except Error Entry := do
  let createdAt ← readTimestamp r.createdAt
  pure { id := r.id, account := r.account, amount := r.amount, createdAt }

/-- The transfer in a row. -/
def TransferRow.read (r : TransferRow) : Except Error Transfer := do
  let createdAt ← readTimestamp r.createdAt
  pure { id := r.id, source := r.source, destination := r.destination, amount := r.amount,
         createdAt }

namespace Tables

/-- The row of an account. -/
def account? (t : Tables) (id : Int) : Option AccountRow :=
  t.accounts.find? (·.id == id)

/-- Whether there is a row of an account. -/
def hasAccount (t : Tables) (id : Int) : Bool :=
  (t.account? id).isSome

/-- Read an account. -/
def getAccount (t : Tables) (id : Int) : Except Error Account :=
  match t.account? id with
  | some row => row.read
  | none => .error (.noAccount id)

/-! ## Writing rows -/

/-- Insert an account under an id. -/
def insertAccount (t : Tables) (id : Int) (now : Timestamp) (owner : String) (currency : Currency)
    (balance : Int) : Except Error (Account × Tables) :=
  if t.accounts.any fun r => r.owner == owner && r.currency == currency.code then
    .error (.duplicateAccount owner currency)
  else if balance < 0 then .error (.database "check constraint failed on accounts")
  else
    let row : AccountRow := ⟨id, owner, balance, currency.code, Rfc3339.numeric now⟩
    .ok (⟨id, owner, balance, currency, now⟩, { t with accounts := t.accounts ++ [row] })

/-- Insert an entry under an id. -/
def insertEntry (t : Tables) (id : Int) (now : Timestamp) (account amount : Int) :
    Except Error (Entry × Tables) :=
  if t.hasAccount account then
    let row : EntryRow := ⟨id, account, amount, Rfc3339.numeric now⟩
    .ok (⟨id, account, amount, now⟩, { t with entries := t.entries ++ [row] })
  else .error (.database "foreign key constraint failed on entries")

/-- Insert a transfer under an id. -/
def insertTransfer (t : Tables) (id : Int) (now : Timestamp) (source destination amount : Int) :
    Except Error (Transfer × Tables) :=
  if amount ≤ 0 ∨ source = destination then
    .error (.database "check constraint failed on transfers")
  else if t.hasAccount source && t.hasAccount destination then
    let row : TransferRow := ⟨id, source, destination, amount, Rfc3339.numeric now⟩
    .ok (⟨id, source, destination, amount, now⟩, { t with transfers := t.transfers ++ [row] })
  else .error (.database "foreign key constraint failed on transfers")

/-- Put another balance into the row of an account. -/
def setBalance (t : Tables) (id balance : Int) : Tables :=
  { t with accounts := t.accounts.map fun r => if r.id = id then { r with balance } else r }

/-- Add to a balance.  The row is written before the account is read back. -/
def adjust (t : Tables) (id delta : Int) : Except Error Account × Tables :=
  match t.account? id with
  | none => (.error (.noAccount id), t)
  | some row => match Amount.fit? (row.balance + delta) with
    | none => (.error (.database "balance out of range"), t)
    | some balance =>
      if balance < 0 then
        (row.read.bind fun a =>
          .error (.insufficientFunds id a.balance (Amount.opposite delta)), t)
      else
        let t := t.setBalance id balance
        (t.getAccount id, t)

/-! ## Reports -/

/-- The sum of the balances for each text in the currency column, in the order of first
appearance. -/
def balancesByText (t : Tables) : List (String × Int) :=
  (t.accounts.map (·.currency)).eraseDups.map fun text =>
    (text, Amount.total ((t.accounts.filter (·.currency == text)).map (·.balance)))

/-- The numbers of records and the balance of each currency. -/
def totals (t : Tables) : Except Error Totals := do
  let balances ← t.balancesByText.mapM fun (text, sum) => do
    pure (← readCurrency text, sum)
  pure ⟨t.accounts.length, t.entries.length, t.transfers.length,
    balances.mergeSort fun a b => decide (a.1.code ≤ b.1.code)⟩

/-- A sum that must be an amount. -/
def bounded (sum : Int) : Except Error Int :=
  match Amount.fit? sum with
  | some n => .ok n
  | none => .error (.database "sum out of range")

/-- The sum of the entries of an account. -/
def entryTotal (t : Tables) (account : Int) : Int :=
  Amount.total ((t.entries.filter (·.account == account)).map (·.amount))

/-- The incoming less the outgoing transfers of an account. -/
def transferTotal (t : Tables) (account : Int) : Int :=
  Amount.total (t.transfers.map fun r => (if r.destination = account then r.amount else 0) -
    if r.source = account then r.amount else 0)

/-- What entries and transfers say about the accounts where they do not agree. -/
def drifts (t : Tables) : Except Error (List Drift) :=
  (t.accounts.filter fun r => t.entryTotal r.id ≠ t.transferTotal r.id).mapM fun r => do
    pure ⟨r.id, ← bounded (t.entryTotal r.id), ← bounded (t.transferTotal r.id)⟩

/-- What is wrong with the records. -/
def audit (t : Tables) : Except Error Audit := do
  let entrySum ← bounded (Amount.total (t.entries.map (·.amount)))
  let drifted ← t.drifts
  pure
    { negativeBalances := (t.accounts.filter (·.balance < 0)).map (·.id)
      entrySum
      drifted
      invalidTransfers :=
        (t.transfers.filter fun r => r.amount ≤ 0 || r.source == r.destination).map (·.id)
      orphanedEntries := (t.entries.filter fun r => !t.hasAccount r.account).map (·.id)
      orphanedTransfers := (t.transfers.filter fun r =>
        !t.hasAccount r.source || !t.hasAccount r.destination).map (·.id) }

end Tables

/-! ## Calls -/

/-- The answer of an insertion, and the tables after it. -/
def inserted {α : Type} (t : Tables) : Except Error (α × Tables) → Except Error α × Tables
  | .ok (answer, t) => (.ok answer, t)
  | .error e => (.error e, t)

/-- The sequences after a call; insertions draw their id first. -/
def Sequences.draw (s : Sequences) : Call → Sequences
  | .createAccount .. => { s with account := s.account + 1 }
  | .createEntry .. => { s with entry := s.entry + 1 }
  | .createTransfer .. => { s with transfer := s.transfer + 1 }
  | _ => s

/-- What a call does to the tables.  The sequences are those after the draw. -/
def onTables (now : Timestamp) (s : Sequences) (t : Tables) : (c : Call) → c.Outcome × Tables
  | .createAccount owner currency balance =>
    inserted t (t.insertAccount s.account now owner currency balance)
  | .getAccount id => (t.getAccount id, t)
  | .claim id => (t.getAccount id, t)
  | .adjust id delta => t.adjust id delta
  | .listAccounts owner page =>
    let rows := match owner with
      | some name => t.accounts.filter (·.owner == name)
      | none => t.accounts
    ((page.window rows).mapM AccountRow.read, t)
  | .createEntry account amount => inserted t (t.insertEntry s.entry now account amount)
  | .createTransfer source destination amount =>
    inserted t (t.insertTransfer s.transfer now source destination amount)
  | .listEntries account page =>
    ((page.window (t.entries.filter (·.account == account))).mapM EntryRow.read, t)
  | .listTransfers account page =>
    ((page.window (t.transfers.filter fun r =>
      r.source == account || r.destination == account)).mapM TransferRow.read, t)
  | .totals => (t.totals, t)
  | .audit => (t.audit, t)

/-- Whether a call writes to the tables if it succeeds.  Claiming an account marks its row. -/
def writes : Call → Bool
  | .createAccount .. => true
  | .claim _ => true
  | .adjust .. => true
  | .createEntry .. => true
  | .createTransfer .. => true
  | _ => false

/-- Carry out a call. -/
def call (c : Call) (tx : Transaction) (w : World State) : c.Outcome × Transaction × World State :=
  let sequences := w.data.sequences.draw c
  let (outcome, tables) := onTables (.ofNanos w.moment.now) sequences tx.tables c
  (outcome, ⟨tables, tx.wrote || (writes c && outcome.isOk)⟩,
    { w with data := { w.data with sequences } })

/-- Make what a transaction did part of the database. -/
def commit (tx : Transaction) (w : World State) : Except Error Unit × World State :=
  (.ok (), { w with data := { w.data with
    tables := tx.tables, written := w.data.written || tx.wrote } })

/-- The store in a relational database. -/
def store : Store State Transaction where
  name := "duckdb"
  begin w := (.ok ⟨w.data.tables, false⟩, w)
  call := call
  commit := commit
  rollback _ w := (.ok (), w)
  release _ w := w

end DoubleEntry.Relational
