/-!
# Currencies

The currencies a ledger accepts.  There is no conversion between them.
-/

namespace DoubleEntry

/-- A currency of the ledger. -/
inductive Currency where
  | usd
  | eur
  | cad
  deriving DecidableEq, Repr

namespace Currency

/-- All currencies. -/
def all : List Currency := [.usd, .eur, .cad]

/-- The ISO 4217 code. -/
def code : Currency → String
  | .usd => "USD"
  | .eur => "EUR"
  | .cad => "CAD"

/-- All currencies in ascending order of their codes, the order in which totals are listed. -/
def byCode : List Currency := [.cad, .eur, .usd]

/-- The currency with this very code. -/
def ofCode? (code : String) : Option Currency :=
  all.find? (·.code == code)

instance : ToString Currency := ⟨code⟩

theorem mem_all (c : Currency) : c ∈ all := by cases c <;> decide

theorem ofCode?_code (c : Currency) : ofCode? c.code = some c := by cases c <;> decide

theorem code_injective (c d : Currency) (same : c.code = d.code) : c = d := by
  have found := congrArg ofCode? same
  rwa [ofCode?_code, ofCode?_code, Option.some.injEq] at found

end Currency

end DoubleEntry
