import DoubleEntry.Coordinator
import DoubleEntry.Json.Forms

/-!
# Status

A summary of the whole ledger.
-/

namespace DoubleEntry

/-- The summary: which store, how many records, and the balance of each currency. -/
structure Status where
  store : String
  totals : Totals
  deriving DecidableEq, Repr

namespace Status

/-- The summary as an object. -/
def toJson (s : Status) : Json :=
  .obj [("store", .str s.store), ("total_accounts", .int s.totals.accounts),
    ("total_entries", .int s.totals.entries), ("total_transfers", .int s.totals.transfers),
    ("balances", .arr (s.totals.balances.map fun (currency, total) =>
      .obj [("currency", currency.toJson), ("total", .int total)]))]

end Status

/-- Get the summary. -/
def Coordinator.status {ν : Type} (c : Coordinator) (store : String) (ctx : Context) :
    Operation ν Status := do
  let totals ← c.run ctx (Task.call .totals)
  pure ⟨store, totals⟩

end DoubleEntry
