import DoubleEntry.Directory
import DoubleEntry.Json.Forms

/-!
# Snapshots

The form in which a database is kept in its file: a JSON object with the catalog, the sequences and
the rows of the tables.
-/

namespace DoubleEntry

open Json (Reader Record arrayOf)
open Json.Record (field)

/-- A list of names. -/
def namesToJson (names : List String) : Json := .arr (names.map .str)

/-- Read a list of names. -/
def namesOfJson : Reader (List String) := arrayOf Json.string

/-! ## The catalog -/

/-- A catalog as an object. -/
def Schema.Catalog.toJson (c : Schema.Catalog) : Json :=
  .obj [("tables", namesToJson c.tables), ("views", namesToJson c.views),
    ("sequences", namesToJson c.sequences), ("indexes", namesToJson c.indexes),
    ("migrations", namesToJson c.recorded)]

/-- Read a catalog. -/
def Schema.Catalog.ofJson : Reader Schema.Catalog := Json.record
  (Schema.Catalog.mk <$> field "tables" namesOfJson <*> field "views" namesOfJson <*>
    field "sequences" namesOfJson <*> field "indexes" namesOfJson <*>
    field "migrations" namesOfJson)

/-! ## Sequences and rows -/

namespace Relational

/-- Sequences as an object. -/
def Sequences.toJson (s : Sequences) : Json :=
  .obj [("accounts", .int s.account), ("entries", .int s.entry), ("transfers", .int s.transfer)]

/-- Read the number last drawn from a sequence. -/
def drawnOfJson : Reader Nat := fun depth doc =>
  (Json.integer 0 Amount.greatest depth doc).map Int.toNat

/-- Read sequences. -/
def Sequences.ofJson : Reader Sequences := Json.record
  (Sequences.mk <$> field "accounts" drawnOfJson <*> field "entries" drawnOfJson <*>
    field "transfers" drawnOfJson)

/-- A row of the table of accounts as an object. -/
def AccountRow.toJson (r : AccountRow) : Json :=
  .obj [("id", .int r.id), ("owner", .str r.owner), ("balance", .int r.balance),
    ("currency", .str r.currency), ("created_at", .str r.createdAt)]

/-- Read a row of the table of accounts. -/
def AccountRow.ofJson : Reader AccountRow := Json.record
  (AccountRow.mk <$> field "id" Amount.ofJson <*> field "owner" Json.string <*>
    field "balance" Amount.ofJson <*> field "currency" Json.string <*>
    field "created_at" Json.string)

/-- A row of the table of entries as an object. -/
def EntryRow.toJson (r : EntryRow) : Json :=
  .obj [("id", .int r.id), ("account_id", .int r.account), ("amount", .int r.amount),
    ("created_at", .str r.createdAt)]

/-- Read a row of the table of entries. -/
def EntryRow.ofJson : Reader EntryRow := Json.record
  (EntryRow.mk <$> field "id" Amount.ofJson <*> field "account_id" Amount.ofJson <*>
    field "amount" Amount.ofJson <*> field "created_at" Json.string)

/-- A row of the table of transfers as an object. -/
def TransferRow.toJson (r : TransferRow) : Json :=
  .obj [("id", .int r.id), ("from_account_id", .int r.source),
    ("to_account_id", .int r.destination), ("amount", .int r.amount),
    ("created_at", .str r.createdAt)]

/-- Read a row of the table of transfers. -/
def TransferRow.ofJson : Reader TransferRow := Json.record
  (TransferRow.mk <$> field "id" Amount.ofJson <*> field "from_account_id" Amount.ofJson <*>
    field "to_account_id" Amount.ofJson <*> field "amount" Amount.ofJson <*>
    field "created_at" Json.string)

end Relational

/-! ## Databases -/

namespace Database

/-- A database as an object. -/
def toJson (db : Database) : Json :=
  let t := db.tables
  .obj [("schema", db.catalog.toJson), ("sequences", db.sequences.toJson),
    ("accounts", .arr (t.accounts.map (·.toJson))), ("entries", .arr (t.entries.map (·.toJson))),
    ("transfers", .arr (t.transfers.map (·.toJson)))]

/-- Put a database together. -/
def ofParts (catalog : Schema.Catalog) (sequences : Relational.Sequences)
    (accounts : List Relational.AccountRow) (entries : List Relational.EntryRow)
    (transfers : List Relational.TransferRow) : Database :=
  ⟨catalog, ⟨accounts, entries, transfers⟩, sequences⟩

/-- Read a database. -/
def ofJson : Reader Database := Json.record
  (ofParts <$> field "schema" Schema.Catalog.ofJson <*>
    field "sequences" Relational.Sequences.ofJson <*>
    field "accounts" (arrayOf Relational.AccountRow.ofJson) <*>
    field "entries" (arrayOf Relational.EntryRow.ofJson) <*>
    field "transfers" (arrayOf Relational.TransferRow.ofJson))

/-- The contents of a database file. -/
def toText (db : Database) : String := db.toJson.text

/-- The database in a file with these contents. -/
def ofText? (contents : String) : Option Database :=
  (Json.readText ofJson contents).toOption

end Database

end DoubleEntry
