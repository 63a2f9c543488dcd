import DoubleEntry.Health
import DoubleEntry.Proofs.Refinement.Jobs
import DoubleEntry.Proofs.Traffic.Alone
import DoubleEntry.Status

/-!
# Requests to both stores

Everything that clients can ask of the service, as one type `Ask`, and its answers, as one type
`Reply`.  If two requests correspond and the tables of the database show the ledger in memory, the
replies agree and the tables go on showing the ledger (`endAlike_serve`); and the books of the store
in memory stay in order (`books_of_serve`).
-/

namespace DoubleEntry

/-- What a client may ask for.  An opening balance is a number of 64 bits; what a transfer results
in is told to some listeners. -/
inductive Ask (ν : Type) where
  | createAccount (new : NewAccount) (fits : new.initialBalance ≤ Amount.greatest)
  | getAccount (id : Int)
  | listAccounts (owner : Option String) (page : Page)
  | listEntries (id : Int) (page : Page)
  | listTransfers (id : Int) (page : Page)
  | transfer (r : TransferRequest) (listeners : List (TransferResult → ν))
  | status
  | checkHealth

/-- What a client may be told. -/
inductive Reply where
  | account (a : Account)
  | accounts (listed : List Account)
  | entries (listed : List Entry)
  | transfers (listed : List Transfer)
  | transferred (result : TransferResult)
  | status (s : Status)
  | health (h : Health)
  deriving DecidableEq

/-- Two replies are the same up to ids, times of creation and the name of the store. -/
inductive Reply.Agrees (P : Pairing) : Reply → Reply → Prop where
  | account {a b : Account} (agree : a.Agrees P b) : Agrees P (.account a) (.account b)
  | accounts {as bs : List Account} (agree : List.Forall₂ (Account.Agrees P) as bs) :
      Agrees P (.accounts as) (.accounts bs)
  | entries {es fs : List Entry} (agree : List.Forall₂ (Entry.Agrees P) es fs) :
      Agrees P (.entries es) (.entries fs)
  | transfers {ts us : List Transfer} (agree : List.Forall₂ (Transfer.Agrees P) ts us) :
      Agrees P (.transfers ts) (.transfers us)
  | transferred {r s : TransferResult} (agree : r.Agrees P s) :
      Agrees P (.transferred r) (.transferred s)
  | status (name name' : String) (totals : Totals) :
      Agrees P (.status ⟨name, totals⟩) (.status ⟨name', totals⟩)
  | health (h : Health) : Agrees P (.health h) (.health h)

theorem Reply.Agrees.mono {P Q : Pairing} (part : P ≤ Q) {a b : Reply} (agree : a.Agrees P b) :
    a.Agrees Q b := by
  cases agree with
  | account agree => exact .account (agree.mono part)
  | accounts agree => exact .accounts (agree.imp fun _ _ agree => agree.mono part)
  | entries agree => exact .entries (agree.imp fun _ _ agree => agree.mono part)
  | transfers agree => exact .transfers (agree.imp fun _ _ agree => agree.mono part)
  | transferred agree => exact .transferred (agree.mono part)
  | status name name' totals => exact .status name name' totals
  | health h => exact .health h

namespace Ask

variable {ν : Type}

/-- What the service does, on the store of a name. -/
def serve (c : Coordinator) (store : String) (ctx : Context) : Ask ν → Operation ν Reply
  | .createAccount new _ => .account <$> c.createAccount ctx new
  | .getAccount id => .account <$> c.getAccount ctx id
  | .listAccounts owner page => .accounts <$> c.listAccounts ctx owner page
  | .listEntries id page => .entries <$> c.listEntries ctx id page
  | .listTransfers id page => .transfers <$> c.listTransfers ctx id page
  | .transfer r listeners =>
    .transferred <$> c.transfer (fun result => listeners.map (· result)) ctx r
  | .status => .status <$> c.status store ctx
  | .checkHealth => .health <$> c.checkHealth ctx

/-- Whether the request only looks at the ledger. -/
def Reads : Ask ν → Prop
  | .createAccount .. => False
  | .transfer .. => False
  | _ => True

/-- Two requests ask for the same, on a ledger and on tables: their ids name the accounts at the
same places, or no accounts at all. -/
inductive Corresponds (l : Ledger) (t : Relational.Tables) : Ask ν → Ask ν → Prop where
  | createAccount (new : NewAccount) (fits : new.initialBalance ≤ Amount.greatest) :
      Corresponds l t (.createAccount new fits) (.createAccount new fits)
  | getAccount {id id' : Int} (same : Relational.SamePlace l t id id') :
      Corresponds l t (.getAccount id) (.getAccount id')
  | listAccounts (owner : Option String) (page : Page) :
      Corresponds l t (.listAccounts owner page) (.listAccounts owner page)
  | listEntries {id id' : Int} (same : Relational.SamePlace l t id id') (page : Page) :
      Corresponds l t (.listEntries id page) (.listEntries id' page)
  | listTransfers {id id' : Int} (same : Relational.SamePlace l t id id') (page : Page) :
      Corresponds l t (.listTransfers id page) (.listTransfers id' page)
  | transfer {source source' destination destination' : Int}
      (sources : Relational.SamePlace l t source source')
      (destinations : Relational.SamePlace l t destination destination')
      (sides : source = destination ↔ source' = destination') (amount : Int)
      (listeners : List (TransferResult → ν)) :
      Corresponds l t (.transfer ⟨source, destination, amount⟩ listeners)
        (.transfer ⟨source', destination', amount⟩ listeners)
  | status : Corresponds l t .status .status
  | checkHealth : Corresponds l t .checkHealth .checkHealth

end Ask

namespace Refinement

open Relational

variable {ν : Type} {m m' : Nat → Moment} {p : Register} {l : Ledger} {c : Coordinator}
  {ctx : Context} {opened : List Account}

/-! ## Accounts -/

theorem endAlike_createAccount (dated : ∀ n, (m' n).Dated) (inStep : RunsInStep c ctx m m')
    (new : NewAccount) :
    EndAlike m m' p l (fun p' _ a b => a.Agrees p'.pairing b)
      (c.createAccount ctx new : Operation ν Account) (c.createAccount ctx new) := by
  unfold Coordinator.createAccount
  refine (endAlike_require fun _ => rfl).bind fun _ _ _ => ?_
  refine (endAlike_require fun _ => rfl).bind fun _ _ _ => ?_
  exact endAlike_run dated inStep (Task.alike_call (.createAccount ..))

theorem endAlike_listAccounts (dated : ∀ n, (m' n).Dated) (inStep : RunsInStep c ctx m m')
    (asked : Option String) (page : Page) :
    EndAlike m m' p l (Unmoved p l (List.Forall₂ (Account.Agrees p.pairing)))
      (c.listAccounts ctx asked page : Operation ν (List Account))
      (c.listAccounts ctx asked page) := by
  unfold Coordinator.listAccounts
  refine (endAlike_require fun _ => rfl).bind ?_
  rintro owner _ rfl
  exact endAlike_run dated inStep (Task.alike_call (.listAccounts owner page))

/-! ## Reports -/

theorem endAlike_status (dated : ∀ n, (m' n).Dated) (inStep : RunsInStep c ctx m m')
    (store store' : String) :
    EndAlike m m' p l (Unmoved p l fun a b => b.totals = a.totals)
      (c.status store ctx : Operation ν Status) (c.status store' ctx) := by
  unfold Coordinator.status
  refine (endAlike_run dated inStep (Task.alike_call .totals)).bind fun a b same => ?_
  exact endAlike_pure ⟨rfl, rfl, same⟩

theorem endAlike_checkHealth (books : Ledger.Books opened l) (dated : ∀ n, (m' n).Dated)
    (inStep : RunsInStep c ctx m m') :
    EndAlike m m' p l (Unmoved p l fun a b => b = a) (c.checkHealth ctx : Operation ν Health)
      (c.checkHealth ctx) := by
  unfold Coordinator.checkHealth
  refine (endAlike_run dated inStep (Task.alike_call (.audit books))).bind fun a b same => ?_
  exact endAlike_pure ⟨rfl, rfl, congrArg Health.ofAudit same⟩

/-! ## Transfers -/

section Transfers

variable {r r' : TransferRequest}

theorem vet_of_agrees {P : Pairing} {x y : Account × Account} (source : x.1.Agrees P y.1)
    (destination : x.2.Agrees P y.2) :
    TransferRequest.vet ctx y = TransferRequest.vet ctx x := by
  unfold TransferRequest.vet
  rw [source.currency, destination.currency, source.owner]

theorem endAlike_precheck (dated : ∀ n, (m' n).Dated) (inStep : RunsInStep c ctx m m')
    (sources : Meets p r.source r'.source) (destinations : Meets p r.destination r'.destination)
    (amount : r'.amount = r.amount) :
    EndAlike m m' p l (Unmoved p l fun _ _ => r.Pairs p r') (c.precheck ctx r : Operation ν Unit)
      (c.precheck ctx r') := by
  rw [Coordinator.precheck_eq, Coordinator.precheck_eq]
  have looked := endAlike_run (ν := ν) (l := l) dated inStep
    (TransferRequest.alike_lookup sources destinations)
  refine looked.bind fun x y ⟨source, destination, paired, paired'⟩ => ?_
  rw [vet_of_agrees source destination]
  exact endAlike_require fun _ => ⟨paired, paired', amount⟩

theorem endAlike_transfer {last drawn : Nat} (ids : Paired last drawn p.accounts)
    (dated : ∀ n, (m' n).Dated) (inStep : RunsInStep c ctx m m')
    (sources : Meets p r.source r'.source) (destinations : Meets p r.destination r'.destination)
    (sides : r.source = r.destination ↔ r'.source = r'.destination)
    (amount : r'.amount = r.amount) (listeners : List (TransferResult → ν)) :
    EndAlike m m' p l (fun p' _ s s' => s.Agrees p'.pairing s')
      (c.transfer (fun result => listeners.map (· result)) ctx r)
      (c.transfer (fun result => listeners.map (· result)) ctx r') := by
  have same : r'.check = r.check := by simp only [TransferRequest.check, amount, sides]
  unfold Coordinator.transfer
  rw [same]
  refine (endAlike_require fun _ => rfl).bind fun _ _ _ => ?_
  refine (endAlike_precheck dated inStep sources destinations amount).bind fun _ _ pairs => ?_
  -- The accounts are claimed in the order of their ids, which is the same on both sides.
  have below := ids.lt_iff pairs.source pairs.destination
  have above := ids.lt_iff pairs.destination pairs.source
  exact Together.bind (together_runJob dated inStep
    (TransferRequest.alike_job pairs below above listeners) _ _)
    fun _ _ => together_done fun _ _ ended => ended

end Transfers

/-! ## All requests -/

/-- How the replies to a request are related: they agree, and what only looks at the ledger does not
change it. -/
def Answers (ask : Ask ν) (l : Ledger) (p' : Register) (l' : Ledger) (a b : Reply) : Prop :=
  a.Agrees p'.pairing b ∧ (ask.Reads → l' = l)

/-- **Requests that correspond have replies that agree.** -/
theorem endAlike_serve {q : Sequences} {t : Tables} {ask ask' : Ask ν} {store store' : String}
    (shows : t.Shows p l q) (books : Ledger.Books opened l) (dated : ∀ n, (m' n).Dated)
    (inStep : RunsInStep c ctx m m') (corresponds : ask.Corresponds l t ask') :
    EndAlike m m' p l (Answers ask l) (ask.serve c store ctx) (ask'.serve c store' ctx) := by
  cases corresponds with
  | createAccount new fits =>
    exact (endAlike_createAccount dated inStep new).map
      fun _ _ _ _ agree => ⟨.account agree, False.elim⟩
  | getAccount same =>
    have meets := shows.meets_of_samePlace same
    exact (endAlike_run dated inStep (Task.alike_ownedAccount meets)).map
      fun _ _ _ _ ⟨rfl, rfl, agree, _⟩ => ⟨.account agree, fun _ => rfl⟩
  | listAccounts owner page =>
    exact (endAlike_listAccounts dated inStep owner page).map
      fun _ _ _ _ ⟨rfl, rfl, agree⟩ => ⟨.accounts agree, fun _ => rfl⟩
  | listEntries same page =>
    have meets := shows.meets_of_samePlace same
    exact (endAlike_run dated inStep (Task.alike_listing meets fun paired =>
      .listEntries paired page)).map
      fun _ _ _ _ ⟨rfl, rfl, agree⟩ => ⟨.entries agree, fun _ => rfl⟩
  | listTransfers same page =>
    have meets := shows.meets_of_samePlace same
    exact (endAlike_run dated inStep (Task.alike_listing meets fun paired =>
      .listTransfers paired page)).map
      fun _ _ _ _ ⟨rfl, rfl, agree⟩ => ⟨.transfers agree, fun _ => rfl⟩
  | @transfer source source' destination destination' sources destinations sides amount listeners =>
    have moved : EndAlike m m' p l _
        (c.transfer (fun result => listeners.map (· result)) ctx ⟨source, destination, amount⟩)
        (c.transfer (fun result => listeners.map (· result)) ctx ⟨source', destination', amount⟩) :=
      endAlike_transfer shows.accountIds dated inStep (shows.meets_of_samePlace sources)
        (shows.meets_of_samePlace destinations) sides (Eq.refl amount) listeners
    exact moved.map fun _ _ _ _ agree => ⟨.transferred agree, False.elim⟩
  | status =>
    refine (endAlike_status dated inStep store store').map ?_
    rintro _ _ ⟨name, _⟩ ⟨name', totals⟩ ⟨rfl, rfl, rfl⟩
    exact ⟨.status name name' totals, fun _ => rfl⟩
  | checkHealth =>
    exact (endAlike_checkHealth books dated inStep).map
      fun _ _ _ _ ⟨rfl, rfl, rfl⟩ => ⟨.health _, fun _ => rfl⟩

/-! ## The books -/

section Books

variable {moments : Nat → Moment} {sent : List ν} {s' : Standing ν} {trace : Procedure.Trace ν}
  {α β : Type}

theorem runs_of_map {x : Operation ν α} {f : α → β} {outcome : Except Error β}
    (run : (f <$> x).run.Runs trace outcome) :
    ∃ before, x.run.Runs trace before ∧ outcome = before.map f := by
  obtain ⟨e, failed, rfl⟩ | ⟨before, a, _, rfl, ran, rfl, rfl⟩ := Program.runs_exceptBind
    (show (x >>= fun a => pure (f a)).run.Runs trace outcome from run)
  · exact ⟨_, failed, rfl⟩
  · rw [List.append_nil]
    exact ⟨_, ran, rfl⟩

/-- A request that may change the ledger of a client that is alone keeps the books. -/
theorem books_of_serve {ask : Ask ν} (changes : ¬ ask.Reads) {store : String}
    {outcome : Except Error Reply} (run : (ask.serve c store ctx).run.Runs trace outcome)
    (way : Program.Along (Standing.Takes (Memory.alone moments)) ⟨l, none, [], sent⟩ trace s')
    (books : Ledger.Books opened l) : ∃ opened', Ledger.Books opened' s'.seen := by
  cases ask with
  | createAccount new fits =>
    obtain ⟨before, ran, -⟩ := runs_of_map run
    exact Traffic.books_of_createAccount fits ran way books
  | transfer r listeners =>
    obtain ⟨before, ran, -⟩ := runs_of_map run
    exact ⟨opened, Traffic.books_of_transfer ran way books⟩
  | _ => exact absurd trivial changes

end Books
end Refinement
end DoubleEntry
