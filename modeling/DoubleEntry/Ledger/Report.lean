import DoubleEntry.Ledger
import DoubleEntry.Store.Call

/-!
# Reports on a ledger

`Ledger.totals` counts the records and sums up the balances; `Ledger.audit` looks for records that
contradict each other.
-/

namespace DoubleEntry.Ledger

/-! ## Totals -/

/-- The sum of the balances in a currency. -/
def balanceIn (l : Ledger) (currency : Currency) : Int :=
  Amount.total ((l.accounts.filter (·.currency == currency)).map (·.balance))

/-- The currencies with at least one account, in the order of their codes. -/
def currencies (l : Ledger) : List Currency :=
  Currency.byCode.filter fun c => l.accounts.any (·.currency == c)

/-- The numbers of records and the balance of each currency. -/
def totals (l : Ledger) : Totals :=
  ⟨l.accounts.length, l.entries.length, l.transfers.length,
    l.currencies.map fun c => (c, l.balanceIn c)⟩

/-! ## Audit -/

/-- The sum of the entries of an account. -/
def entryTotal (l : Ledger) (account : Int) : Int :=
  Amount.total ((l.entriesOf account).map (·.amount))

/-- What a transfer brings to an account, less what it takes from it. -/
def netAmount (t : Transfer) (account : Int) : Int :=
  (if t.destination = account then t.amount else 0) - if t.source = account then t.amount else 0

/-- The incoming less the outgoing transfers of an account. -/
def transferTotal (l : Ledger) (account : Int) : Int :=
  Amount.total (l.transfers.map fun t => netAmount t account)

/-- What entries and transfers say about an account, if they do not agree. -/
def drift? (l : Ledger) (account : Int) : Option Drift :=
  let entryTotal := l.entryTotal account
  let transferTotal := l.transferTotal account
  if entryTotal = transferTotal then none else some ⟨account, entryTotal, transferTotal⟩

/-- Whether a transfer breaks the rules for transfers. -/
def isInvalid (t : Transfer) : Bool :=
  t.amount ≤ 0 || t.source == t.destination

/-- What is wrong with the records. -/
def audit (l : Ledger) : Audit where
  negativeBalances := (l.accounts.filter (·.balance < 0)).map (·.id)
  entrySum := Amount.total (l.entries.map (·.amount))
  drifted := l.accounts.filterMap fun a => l.drift? a.id
  invalidTransfers := (l.transfers.filter isInvalid).map (·.id)
  orphanedEntries := (l.entries.filter fun e => !l.hasAccount e.account).map (·.id)
  orphanedTransfers :=
    (l.transfers.filter fun t => !l.hasAccount t.source || !l.hasAccount t.destination).map (·.id)

end DoubleEntry.Ledger
