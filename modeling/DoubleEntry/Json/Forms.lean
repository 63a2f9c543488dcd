import DoubleEntry.Amount.Bounds
import DoubleEntry.Context
import DoubleEntry.Json.Printer
import DoubleEntry.Json.Reader
import DoubleEntry.Page
import DoubleEntry.Transfer
import DoubleEntry.Transfer.Lifecycle

/-!
# The JSON forms of the ledger's records

For each type, `toJson` gives its JSON form and `ofJson` reads it.  Currencies are written as their
codes, timestamps in UTC, principals as plain names, and records as objects with their fields in the
order of declaration.
-/

namespace DoubleEntry

open Json (Reader Record)
open Json.Record (field)

/-- The reader of amounts and ids. -/
def Amount.ofJson : Reader Int :=
  Json.integer Amount.least Amount.greatest

/-! ## Names -/

/-- A currency is its code. -/
def Currency.toJson (c : Currency) : Json := .str c.code

/-- Read a currency. -/
def Currency.ofJson : Reader Currency :=
  Json.oneOf Currency.ofCode?

/-- A state is its name. -/
def TransferState.toJson (s : TransferState) : Json := .str s.name

/-- Read a state. -/
def TransferState.ofJson : Reader TransferState :=
  Json.oneOf TransferState.ofName?

/-- A principal is its user name. -/
def Principal.toJson (p : Principal) : Json := .str p.username

/-- Read a principal. -/
def Principal.ofJson : Reader Principal := fun depth doc =>
  (Json.string depth doc).map Principal.mk

/-- A timestamp in UTC. -/
def Timestamp.toJson (t : Timestamp) : Json := .str (Rfc3339.zulu t)

/-! ## Accounts -/

/-- An account as an object. -/
def Account.toJson (a : Account) : Json :=
  .obj [("id", .int a.id), ("owner", .str a.owner), ("balance", .int a.balance),
    ("currency", a.currency.toJson), ("created_at", a.createdAt.toJson)]

/-- The fields of an account. -/
def Account.fields : Record Account :=
  Account.mk <$> field "id" Amount.ofJson <*> field "owner" Json.string <*>
    field "balance" Amount.ofJson <*> field "currency" Currency.ofJson <*>
    field "created_at" Json.timestamp

/-- Read an account. -/
def Account.ofJson : Reader Account := Json.record Account.fields

/-- A new account as an object. -/
def NewAccount.toJson (a : NewAccount) : Json :=
  .obj [("owner", .str a.owner), ("currency", a.currency.toJson),
    ("initial_balance", .int a.initialBalance)]

/-- The fields of a new account. -/
def NewAccount.fields : Record NewAccount :=
  NewAccount.mk <$> field "owner" Json.string <*> field "currency" Currency.ofJson <*>
    field "initial_balance" Amount.ofJson

/-- Read a new account. -/
def NewAccount.ofJson : Reader NewAccount := Json.record NewAccount.fields

/-! ## Pages -/

/-- The greatest offset and limit. -/
def Page.greatest : Nat := 4294967295

/-- A page as an object. -/
def Page.toJson (p : Page) : Json :=
  .obj [("offset", .int p.offset), ("limit", .int p.limit)]

/-- Read an offset or a limit. -/
def Page.countOfJson : Reader Nat := fun depth doc =>
  (Json.integer 0 Page.greatest depth doc).map Int.toNat

/-- The fields of a page. -/
def Page.fields : Record Page :=
  Page.mk <$> field "offset" Page.countOfJson <*> field "limit" Page.countOfJson

/-- Read a page. -/
def Page.ofJson : Reader Page := Json.record Page.fields

/-! ## Transfers and entries -/

/-- An entry as an object. -/
def Entry.toJson (e : Entry) : Json :=
  .obj [("id", .int e.id), ("account_id", .int e.account), ("amount", .int e.amount),
    ("created_at", e.createdAt.toJson)]

/-- The fields of an entry. -/
def Entry.fields : Record Entry :=
  Entry.mk <$> field "id" Amount.ofJson <*> field "account_id" Amount.ofJson <*>
    field "amount" Amount.ofJson <*> field "created_at" Json.timestamp

/-- Read an entry. -/
def Entry.ofJson : Reader Entry := Json.record Entry.fields

/-- A transfer as an object. -/
def Transfer.toJson (t : Transfer) : Json :=
  .obj [("id", .int t.id), ("from_account_id", .int t.source),
    ("to_account_id", .int t.destination), ("amount", .int t.amount),
    ("created_at", t.createdAt.toJson)]

/-- The fields of a transfer. -/
def Transfer.fields : Record Transfer :=
  Transfer.mk <$> field "id" Amount.ofJson <*> field "from_account_id" Amount.ofJson <*>
    field "to_account_id" Amount.ofJson <*> field "amount" Amount.ofJson <*>
    field "created_at" Json.timestamp

/-- Read a transfer. -/
def Transfer.ofJson : Reader Transfer := Json.record Transfer.fields

/-- A request as an object. -/
def TransferRequest.toJson (r : TransferRequest) : Json :=
  .obj [("from_account_id", .int r.source), ("to_account_id", .int r.destination),
    ("amount", .int r.amount)]

/-- The fields of a request. -/
def TransferRequest.fields : Record TransferRequest :=
  TransferRequest.mk <$> field "from_account_id" Amount.ofJson <*>
    field "to_account_id" Amount.ofJson <*> field "amount" Amount.ofJson

/-- Read a request. -/
def TransferRequest.ofJson : Reader TransferRequest := Json.record TransferRequest.fields

/-- A result as an object. -/
def TransferResult.toJson (r : TransferResult) : Json :=
  .obj [("transfer", r.transfer.toJson), ("from_account", r.sourceAccount.toJson),
    ("to_account", r.destinationAccount.toJson), ("from_entry", r.debit.toJson),
    ("to_entry", r.credit.toJson)]

/-- The fields of a result. -/
def TransferResult.fields : Record TransferResult :=
  TransferResult.mk <$> field "transfer" Transfer.ofJson <*>
    field "from_account" Account.ofJson <*> field "to_account" Account.ofJson <*>
    field "from_entry" Entry.ofJson <*> field "to_entry" Entry.ofJson

/-- Read a result. -/
def TransferResult.ofJson : Reader TransferResult := Json.record TransferResult.fields

end DoubleEntry
