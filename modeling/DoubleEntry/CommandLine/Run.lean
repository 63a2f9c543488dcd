import DoubleEntry.Account.Requests
import DoubleEntry.Amount.Text
import DoubleEntry.CommandLine.Invocation
import DoubleEntry.Directory
import DoubleEntry.Health
import DoubleEntry.Json.Envelope
import DoubleEntry.Status
import DoubleEntry.Text.Table
import DoubleEntry.Transfer.Execution

/-!
# Running commands

`run` takes the words of a command line and the data directory, and gives what is to be written and
the directory afterwards.  A command opens the ledger, does its work and closes it again.  It fails
with exit code 1 and a message, or with `--json` with an envelope; arguments that do not fit give
exit code 2.
-/

namespace DoubleEntry.CommandLine

open Text (Table TableStyle)

/-! ## Surroundings -/

/-- What a run needs from outside. -/
structure Surroundings where
  env : Config.Environment
  /-- The clock at the start. -/
  now : Nat
  /-- The number drawn at random for the pause after each failed attempt. -/
  draw : Nat → Nat

/-- What is written, and the exit code. -/
structure Output where
  code : Nat
  out : String
  err : String
  deriving DecidableEq, Repr

namespace Output

/-- Success. -/
def success (out : String) : Output := ⟨0, out, ""⟩

/-- Failure with a message, after some output. -/
def failure (message : String) (out : String) : Output := ⟨1, out, message ++ "\n"⟩

end Output

/-! ## Working on the ledger -/

/-- An open ledger in the course of a command: the directory as it was, the ledger, and the world
of its store. -/
structure Desk where
  directory : Directory
  ledger : Directory.Opened
  world : World Relational.State
  coordinator : Coordinator
  ctx : Context

/-- The directory with what the command did to the ledger. -/
def Desk.close (d : Desk) : Directory :=
  d.directory.close d.ledger d.world.data

/-- Carry out an operation on the ledger. -/
def Desk.perform {α : Type} (d : Desk) (operation : Operation Empty α) : Except Error α × Desk :=
  let (outcome, world, _) := Relational.store.run operation.run d.world
  (outcome, { d with world })

/-- A failure to open the ledger. -/
def openFailure (e : Error) : Output :=
  .failure ("Failed to open ledger: " ++ e.message) ""

/-- Open the ledger, do something with it and close it. -/
def withLedger (s : Surroundings) (inv : Invocation) (directory : Directory)
    (work : Desk → Output × Desk) : Output × Directory :=
  match directory.openLedger s.env with
  | (.error e, directory) => (openFailure e, directory)
  | (.ok ledger, directory) =>
    let ctx := Context.background ⟨0⟩
    let ctx := match inv.user with
      | some user => ctx.actingAs user
      | none => ctx
    let ctx := match inv.timeoutMs with
      | some ms => ctx.withTimeout s.now (.ofMillis ms)
      | none => ctx
    let (output, desk) := work
      { directory, ledger, ctx
        world := ⟨⟨s.now, []⟩, directory.records ledger⟩
        coordinator := .ofConfig ledger.config s.draw }
    (output, desk.close)

/-! ## Output -/

/-- An outcome as JSON. -/
def envelope {α : Type} (toJson : α → Json) (outcome : Except Error α) : Output :=
  let e := Envelope.ofResult outcome
  ⟨if e.success then 0 else 1, (e.toJson toJson).prettyText ++ "\n", ""⟩

/-- An outcome as JSON or in words. -/
def present {α : Type} (json : Bool) (toJson : α → Json) (words : α → Output)
    (outcome : Except Error α) : Output :=
  if json then envelope toJson outcome
  else match outcome with
    | .ok value => words value
    | .error e => .failure e.message ""

/-- Several records as a JSON array. -/
def arrayOf {α : Type} (toJson : α → Json) (records : List α) : Json :=
  .arr (records.map toJson)

/-- Lines of text. -/
def lines (ls : List String) : String :=
  String.join (ls.map (· ++ "\n"))

/-- A new account in words. -/
def openedText (a : Account) : String :=
  lines ["Account " ++ toString a.id ++ " opened", "  Owner: " ++ a.owner,
    "  Balance: " ++ Amount.format a.balance a.currency]

/-- An account as a table. -/
def accountTable (a : Account) : Table where
  header := none
  rows := [["ID", toString a.id], ["Owner", a.owner], ["Currency", a.currency.code],
    ["Balance", Amount.format a.balance a.currency], ["Opened", Rfc3339.numeric a.createdAt]]

/-- Accounts as a table. -/
def accountsTable (accounts : List Account) : Table where
  header := some ["ID", "Owner", "Balance", "Opened"]
  rows := accounts.map fun a => [toString a.id, a.owner, Amount.format a.balance a.currency,
    String.ofList (Rfc3339.dateText a.createdAt.date)]

/-- Entries as a table. -/
def entriesTable (currency : Currency) (entries : List Entry) : Table where
  header := some ["Entry", "Amount", "Time"]
  rows := entries.map fun e =>
    [toString e.id, Amount.format e.amount currency, Rfc3339.numeric e.createdAt]

/-- Transfers as a table. -/
def transfersTable (currency : Currency) (transfers : List Transfer) : Table where
  header := some ["Transfer", "From", "To", "Amount", "Time"]
  rows := transfers.map fun t => [toString t.id, toString t.source, toString t.destination,
    Amount.format t.amount currency, Rfc3339.numeric t.createdAt]

/-- A transfer in words. -/
def transferredText (r : TransferResult) : String :=
  let currency := r.sourceAccount.currency
  let balance (a : Account) : String :=
    "  Account " ++ toString a.id ++ " balance: " ++ Amount.format a.balance currency
  lines ["Transferred " ++ Amount.format r.transfer.amount currency ++ " from account " ++
      toString r.sourceAccount.id ++ " to account " ++ toString r.destinationAccount.id,
    "  Transfer ID: " ++ toString r.transfer.id, balance r.sourceAccount,
    balance r.destinationAccount]

/-- The status in words. -/
def statusText (s : Status) : String :=
  let table : Table := ⟨none, [["Accounts", toString s.totals.accounts],
    ["Entries", toString s.totals.entries], ["Transfers", toString s.totals.transfers]]⟩
  let balances := s.totals.balances.map fun (currency, total) =>
    "  • " ++ Amount.format total currency
  lines ["Ledger Status", ""] ++ table.render .plain ++ "\n" ++
    if balances.isEmpty then "" else lines ("Balances" :: balances)

/-- The word for a status in the table of checks. -/
def statusWord : CheckStatus → String
  | .pass => "PASS"
  | .warning => "WARN"
  | .error => "ERROR"

/-- A finding in words. -/
def findingText (f : Finding) : String :=
  "  - " ++ String.intercalate ", " (f.map fun (name, n) => name ++ ": " ++ toString n)

/-- The checks as a table; with details each finding has a row. -/
def checksTable (details : Bool) (h : Health) : Table where
  header := some ["Check", "Status", "Message"]
  rows := h.checks.flatMap fun c =>
    [c.name, statusWord c.status, c.message] ::
      if details then c.findings.map fun f => ["", "", findingText f] else []

/-- The report in words; an unhealthy ledger is a failure. -/
def healthOutput (details : Bool) (h : Health) : Output :=
  let summary := "Summary: " ++ toString (h.count .pass) ++ " passed, " ++
    toString (h.count .warning) ++ " warnings, " ++ toString (h.count .error) ++ " errors"
  let hint := if 0 < h.count .warning ∧ !details
    then ["Re-run with --details to list the affected rows"] else []
  let out := lines ["Ledger Health Check", ""] ++ (checksTable details h).render .plain ++
    lines ("" :: summary :: hint)
  if h.isHealthy then .success out else .failure "ledger is inconsistent" out

/-! ## Commands -/

/-- Nobody is there to answer a question. -/
def noTerminal : Output := .failure "IO error: not a terminal" ""

/-- Open an account. -/
def newAccount (inv : Invocation) (owner : Option String) (currency : Option Currency)
    (balance : Option String) (json : Bool) (d : Desk) : Output × Desk :=
  match owner.or inv.user, currency, balance with
  | some owner, some currency, some balance =>
    match Amount.parse balance with
    | .error e => (.failure e.message "", d)
    | .ok initialBalance =>
      let (outcome, d) := d.perform
        (d.coordinator.createAccount d.ctx { owner, currency, initialBalance })
      (present json Account.toJson (fun a => .success (openedText a)) outcome, d)
  | _, _, _ => (noTerminal, d)

/-- Show an account. -/
def showAccount (id : Int) (json : Bool) (d : Desk) : Output × Desk :=
  let (outcome, d) := d.perform (d.coordinator.getAccount d.ctx id)
  (present json Account.toJson (fun a => .success ((accountTable a).render .boxed)) outcome, d)

/-- List accounts. -/
def listAccounts (owner : Option String) (page : Page) (json : Bool) (d : Desk) : Output × Desk :=
  let (outcome, d) := d.perform (d.coordinator.listAccounts d.ctx owner page)
  let words (accounts : List Account) : Output := .success
    (if accounts.isEmpty then "No accounts\n" else (accountsTable accounts).render .boxed)
  (present json (arrayOf Account.toJson) words outcome, d)

/-- Records of an account: a JSON array, or a table that also needs the account's currency. -/
def historyOf {α : Type} (id : Int) (json : Bool) (toJson : α → Json)
    (table : Currency → List α → Table) (outcome : Except Error (List α)) (d : Desk) :
    Output × Desk :=
  if json then (envelope (arrayOf toJson) outcome, d)
  else match outcome with
    | .error e => (.failure e.message "", d)
    | .ok records =>
      let (account, d) := d.perform (d.coordinator.getAccount d.ctx id)
      match account with
      | .error e => (.failure e.message "", d)
      | .ok a => (.success ((table a.currency records).render .boxed), d)

/-- Show the entries or the transfers of an account. -/
def history (id : Int) (transfers : Bool) (page : Page) (json : Bool) (d : Desk) :
    Output × Desk :=
  if transfers then
    let (outcome, d) := d.perform (d.coordinator.listTransfers d.ctx id page)
    historyOf id json Transfer.toJson transfersTable outcome d
  else
    let (outcome, d) := d.perform (d.coordinator.listEntries d.ctx id page)
    historyOf id json Entry.toJson entriesTable outcome d

/-- Move an amount. -/
def transfer (request : TransferRequest) (json : Bool) (d : Desk) : Output × Desk :=
  let (outcome, d) := d.perform (d.coordinator.transfer (fun _ => []) d.ctx request)
  (present json TransferResult.toJson (fun r => .success (transferredText r)) outcome, d)

/-- Show the status. -/
def status (json : Bool) (d : Desk) : Output × Desk :=
  let (outcome, d) := d.perform (d.coordinator.status Relational.store.name d.ctx)
  (present json Status.toJson (fun s => .success (statusText s)) outcome, d)

/-- Check the ledger. -/
def doctor (details json : Bool) (d : Desk) : Output × Desk :=
  let (outcome, d) := d.perform (d.coordinator.checkHealth d.ctx)
  (present json Health.toJson (healthOutput details) outcome, d)

/-- Carry out a command.  Pages and the amount of a transfer are checked before the ledger is
opened. -/
def carryOut (s : Surroundings) (directory : Directory) (inv : Invocation) : Output × Directory :=
  let paged (offset limit : Nat) (work : Page → Desk → Output × Desk) : Output × Directory :=
    match Page.checked offset limit with
    | .ok page => withLedger s inv directory (work page)
    | .error e => (.failure e.message "", directory)
  match inv.command with
  | .newAccount owner currency balance json =>
    withLedger s inv directory (newAccount inv owner currency balance json)
  | .showAccount id json => withLedger s inv directory (showAccount id json)
  | .listAccounts owner offset limit json =>
    paged offset limit fun page => listAccounts owner page json
  | .history id transfers offset limit json =>
    paged offset limit fun page => history id transfers page json
  | .transfer source destination amount json =>
    match Amount.parse amount with
    | .ok amount => withLedger s inv directory (transfer { source, destination, amount } json)
    | .error e => (.failure e.message "", directory)
  | .status json => withLedger s inv directory (status json)
  | .doctor details json => withLedger s inv directory (doctor details json)

/-- How the program is called. -/
def usage : String :=
  lines ["Usage: tally [--as USER] [--timeout-ms MS] [--verbose] COMMAND", "", "Commands:",
    "  account new [--owner NAME] [--currency CODE] [--balance AMOUNT] [--json]",
    "  account show ID [--json]",
    "  account list [--owner NAME] [--offset N] [--limit N] [--json]",
    "  account history ID [--transfers] [--offset N] [--limit N] [--json]",
    "  transfer FROM TO AMOUNT [--json]",
    "  status [--json]",
    "  doctor [--details] [--json]"]

/-- Run a command line on a data directory. -/
def run (s : Surroundings) (directory : Directory) (words : List String) : Output × Directory :=
  match Invocation.parse (s.env "TALLY_USER") words with
  | .ok invocation => carryOut s directory invocation
  | .error .help => (.success usage, directory)
  | .error .version => (.success "tally 0.1.0\n", directory)
  | .error .refused => (⟨2, "", usage⟩, directory)

end DoubleEntry.CommandLine
