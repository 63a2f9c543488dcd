import DoubleEntry.Coordinator

/-!
# Requests about accounts

Opening accounts and reading what is booked on them.  A principal opens accounts for itself only and
sees its own accounts only; without a principal there is no such limit.
-/

namespace DoubleEntry.Coordinator

variable {ν : Type}

/-- Open an account. -/
def createAccount (c : Coordinator) (ctx : Context) (new : NewAccount) : Operation ν Account := do
  Operation.require new.check
  Operation.require (ctx.authorize new.owner)
  c.run ctx (Task.call (.createAccount new.owner new.currency new.initialBalance))

/-- Read an account that the principal may see. -/
def ownedAccount (ctx : Context) (id : Int) : Task ν Account := do
  let account ← Task.call (.getAccount id)
  Task.require (ctx.authorize account.owner)
  pure account

/-- Show an account. -/
def getAccount (c : Coordinator) (ctx : Context) (id : Int) : Operation ν Account :=
  c.run ctx (ownedAccount ctx id)

/-- Whose accounts a listing shows: those of the principal if there is one, else those of the owner
asked for. -/
def listedOwner (ctx : Context) (asked : Option String) : Except Error (Option String) :=
  match ctx.principal, asked with
  | some p, some owner =>
    if p.username = owner then .ok (some owner)
    else .error (.unauthorized "cannot list accounts of another user")
  | some p, none => .ok (some p.username)
  | none, asked => .ok asked

/-- List accounts. -/
def listAccounts (c : Coordinator) (ctx : Context) (asked : Option String) (page : Page) :
    Operation ν (List Account) := do
  let owner ← Operation.require (listedOwner ctx asked)
  c.run ctx (Task.call (.listAccounts owner page))

/-- List the entries of an account. -/
def listEntries (c : Coordinator) (ctx : Context) (id : Int) (page : Page) :
    Operation ν (List Entry) :=
  c.run ctx do
    let _ ← ownedAccount ctx id
    Task.call (.listEntries id page)

/-- List the transfers of an account. -/
def listTransfers (c : Coordinator) (ctx : Context) (id : Int) (page : Page) :
    Operation ν (List Transfer) :=
  c.run ctx do
    let _ ← ownedAccount ctx id
    Task.call (.listTransfers id page)

end DoubleEntry.Coordinator
