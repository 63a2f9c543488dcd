import DoubleEntry.Account.Requests
import DoubleEntry.Proofs.Coordinator.Atomicity
import DoubleEntry.Proofs.Coordinator.Standing
import DoubleEntry.Proofs.Transfer.Procedure

/-!
# Orders

What clients ask for: to open an account, or a transfer.  `Order.procedure` is how it is done on a
store, `Order.apply` what it comes to when it is done at one stroke.

`Order.settles` relates the two in a crowd, where others commit in between and anything may fail: an
order that succeeds has published, as its last transaction, what `Order.apply` makes of the ledger
that this transaction began on, and an order that fails has published nothing new.
-/

namespace DoubleEntry

open Program Work

/-- What a client wishes for.  An opening balance is a number of 64 bits; what a transfer results in
is told to some listeners. -/
inductive Wish (ν : Type) where
  | account (new : NewAccount) (fits : new.initialBalance ≤ Amount.greatest)
  | transfer (r : TransferRequest) (inform : TransferResult → List ν)

/-- What a client gets. -/
inductive Receipt where
  | account (opened : Account)
  | transfer (result : TransferResult)
  deriving DecidableEq

/-- A wish, the context of the request, and the rules by which the service works. -/
structure Order (ν : Type) where
  coordinator : Coordinator
  context : Context
  wish : Wish ν

namespace Order

variable {ν : Type}

/-- What the service does for an order. -/
def procedure (o : Order ν) : Procedure ν (Except Error Receipt) :=
  match o.wish with
  | .account new _ =>
    (o.coordinator.createAccount o.context new >>= fun opened => pure (.account opened)).run
  | .transfer r inform =>
    (o.coordinator.transfer inform o.context r >>= fun result => pure (.transfer result)).run

/-- An order carried out at one stroke. -/
def apply (o : Order ν) (times : TransferTimes) (l : Ledger) : Except Error (Receipt × Ledger) :=
  match o.wish with
  | .account new _ => do
    new.check
    o.context.authorize new.owner
    let (opened, l') ←
      l.createAccount times.transfer new.owner new.currency new.initialBalance
    pure (.account opened, l')
  | .transfer r _ => do
    let (result, l') ← l.transfer o.context.principal times r
    pure (.transfer result, l')

/-- The order turns a ledger into another one and gives a receipt. -/
def Serves (l : Ledger) (o : Order ν) (receipt : Receipt) (l' : Ledger) : Prop :=
  ∃ times, o.apply times l = .ok (receipt, l')

/-- The notices that are due for a receipt. -/
def due (o : Order ν) (receipt : Receipt) : List ν :=
  match o.wish, receipt with
  | .transfer _ inform, .transfer result => inform result
  | _, _ => []

/-! ## In a crowd -/

/-- The surroundings of a client among others: they commit ledgers in which accounts stay, and
anything may fail. -/
def crowded : Surroundings where
  passes := Ledger.PersistsIn
  answers _ := Ledger.CarriesOutAmidFaults
  reads _ := True
  stops _ := True
  breaks := True
  passes_refl := .refl
  passes_trans := .trans

/-- What an order has left behind once it has an outcome: the transactions that it published, and
the notices that it sent. -/
def Settled (o : Order ν) (published : List (Ledger × Ledger)) (sent : List ν) :
    Except Error Receipt → Prop
  | .ok receipt => ∃ idle b l, published = idle ++ [(b, l)] ∧ (∀ p ∈ idle, p.2 = p.1) ∧
    Serves b o receipt l ∧ sent = o.due receipt
  | .error _ => (∀ p ∈ published, p.2 = p.1) ∧ sent = []

end Order

section Accounts

open Coordinator

variable {ν : Type} {c : Coordinator} {ctx : Context} {new : NewAccount} {s s' : Standing ν}
  {trace : Procedure.Trace ν}

/-- The parts of opening an account, up to the one that fails. -/
theorem runs_createAccount {outcome : Except Error Account}
    (run : (c.createAccount ctx new).run.Runs trace outcome) :
    (∃ e, trace = [] ∧ outcome = .error e) ∨
      (new.check = .ok () ∧ ctx.authorize new.owner = .ok () ∧
        (c.runJob ctx (.ofTask (Task.call (.createAccount new.owner new.currency
          new.initialBalance))) ()).Runs trace (outcome, ())) := by
  obtain ⟨e, failed, rfl⟩ | ⟨_, ⟨⟩, after, rfl, checked, rest⟩ := runs_exceptBind run
  · exact .inl ⟨e, (runs_require.1 failed).1, rfl⟩
  · obtain ⟨rfl, sound⟩ := runs_require.1 checked
    obtain ⟨e, failed, rfl⟩ | ⟨_, ⟨⟩, final, rfl, permitted, ran⟩ := runs_exceptBind rest
    · exact .inl ⟨e, (runs_require.1 failed).1, rfl⟩
    · obtain ⟨rfl, owner⟩ := runs_require.1 permitted
      exact .inr ⟨sound.symm, owner.symm, runs_run ran⟩

/-- An account is opened in a single transaction. -/
theorem published_of_createAccount {outcome : Except Error Account}
    (run : (c.createAccount ctx new).run.Runs trace outcome)
    (way : Along (Standing.Takes Order.crowded) s trace s') :
    s'.sent = s.sent ∧ ((∃ e, outcome = .error e ∧ s'.published = s.published) ∨
      ∃ opened b l now, outcome = .ok opened ∧ s'.published = s.published ++ [(b, l)] ∧
        new.check = .ok () ∧ ctx.authorize new.owner = .ok () ∧
        b.createAccount now new.owner new.currency new.initialBalance = .ok (opened, l)) := by
  obtain ⟨e, rfl, rfl⟩ | ⟨sound, owner, ran⟩ := runs_createAccount run
  · cases way
    exact ⟨rfl, .inl ⟨e, rfl, rfl⟩⟩
  obtain ⟨ctx', outlasts⟩ := outlasts_runJob ran
  rcases outcome with e | opened
  · obtain ⟨published, sent, -⟩ := outlasts.standing way
    exact ⟨sent, .inl ⟨e, rfl, published⟩⟩
  · obtain ⟨b, l, steps, ⟨⟩, -, work, acts, rfl⟩ := outlasts.standing way
    obtain rfl := runs_question.1 (runs_ofTask.1 work)
    obtain ⟨_, answered, rfl⟩ := acts
    refine ⟨List.append_nil _, .inr ?_⟩
    obtain ⟨now, carried⟩ | ⟨⟨e, failed⟩ | report, -⟩ := answered
    · refine ⟨opened, b, _, now, rfl, rfl, sound, owner, ?_⟩
      rw [Memory.onLedger] at carried
      cases created : b.createAccount now new.owner new.currency new.initialBalance <;>
        rw [created] at carried <;> cases carried
      rfl
    · cases failed
    · cases report

end Accounts

section Transfers

open Coordinator

variable {ν : Type} {c : Coordinator} {ctx : Context} {r : TransferRequest}
  {inform : TransferResult → List ν} {s s' : Standing ν} {trace : Procedure.Trace ν}

/-- The accounts of a transfer are looked up in a transaction that changes nothing. -/
theorem published_of_lookup {found : Except Error (Account × Account)}
    (run : (c.runJob ctx (.ofTask r.lookup) ()).Runs trace (found, ()))
    (way : Along (Standing.Takes Order.crowded) s trace s') :
    s'.sent = s.sent ∧ ((∃ e, found = .error e ∧ s'.published = s.published) ∨
      ∃ accounts, found = .ok accounts ∧ s'.published = s.published ++ [(s'.seen, s'.seen)] ∧
        s'.seen.parties r = .ok accounts) := by
  obtain ⟨ctx', outlasts⟩ := outlasts_runJob run
  rcases found with e | accounts
  · obtain ⟨published, sent, -⟩ := outlasts.standing way
    exact ⟨sent, .inl ⟨e, rfl, published⟩⟩
  · obtain ⟨b, l, steps, ⟨⟩, -, work, acts, rfl⟩ := outlasts.standing way
    have looked := runs_ofTask.1 work
    have answered := TransferRequest.strict_lookup r steps accounts looked
    obtain ⟨times, later, computed⟩ := exec_of_along looked (answered.along acts) []
    obtain ⟨later', given⟩ := TransferRequest.on_lookup (ν := ν) r b times []
    have same := given.symm.trans computed
    generalize steps.registered = told at same
    obtain ⟨both, benches⟩ := Prod.mk.inj same
    cases benches
    exact ⟨List.append_nil _, .inr ⟨accounts, rfl, rfl, both⟩⟩

/-- The unit of work of a transfer books it on the ledger of its last transaction. -/
theorem published_of_job (positive : 0 < r.amount) (apart : r.source ≠ r.destination)
    {outcome : Except Error TransferResult} {before visited : List TransferState}
    (run : (c.runJob ctx (r.job inform) before).Runs trace (outcome, visited))
    (way : Along (Standing.Takes Order.crowded) s trace s') :
    (∃ e, outcome = .error e ∧ s'.published = s.published ∧ s'.sent = s.sent) ∨
      ∃ result b l times source destination, outcome = .ok result ∧ s.seen.PersistsIn b ∧
        s'.published = s.published ++ [(b, l)] ∧ s'.sent = s.sent ++ inform result ∧
        b.account? r.source = some source ∧ b.account? r.destination = some destination ∧
        r.amount ≤ source.balance ∧ destination.balance + r.amount ≤ Amount.greatest ∧
        b.booked times r source destination = (result, l) := by
  obtain ⟨ctx', outlasts⟩ := outlasts_runJob run
  rcases outcome with e | result
  · obtain ⟨published, sent, -⟩ := outlasts.standing way
    exact .inl ⟨e, rfl, published, sent⟩
  · obtain ⟨b, l, steps, visited₁, passes, work, acts, rfl⟩ := outlasts.standing way
    have answered := TransferRequest.answered_of_job work
    obtain ⟨times, later, computed⟩ := exec_of_along work (answered.along acts) []
    obtain ⟨source, destination, foundSource, foundDestination, funds, room, times', _, _,
      booked⟩ := TransferRequest.of_exec_job_ok apart positive (congrArg (·.1.1) computed)
    rw [booked] at computed
    generalize steps.registered = told at computed
    cases computed
    exact .inr ⟨_, b, _, times', source, destination, rfl, passes, rfl, rfl, foundSource,
      foundDestination, funds, room, rfl⟩

/-- A transfer publishes what `Ledger.transfer` makes of the ledger of its last transaction,
although the accounts were compared in an earlier one. -/
theorem published_of_transfer {outcome : Except Error TransferResult}
    (run : (c.transfer inform ctx r).run.Runs trace outcome)
    (way : Along (Standing.Takes Order.crowded) s trace s') :
    ∃ idle : List (Ledger × Ledger), (∀ p ∈ idle, p.2 = p.1) ∧
      ((∃ e, outcome = .error e ∧ s'.published = s.published ++ idle ∧ s'.sent = s.sent) ∨
        ∃ result b l times, outcome = .ok result ∧
          s'.published = s.published ++ (idle ++ [(b, l)]) ∧ s'.sent = s.sent ++ inform result ∧
          b.transfer ctx.principal times r = .ok (result, l)) := by
  obtain ⟨e, -, rfl, rfl⟩ | ⟨sound, looking, found, looked, rest⟩ := runs_transfer run
  · cases way
    exact ⟨[], List.forall_mem_nil _, .inl ⟨e, rfl, (List.append_nil _).symm, rfl⟩⟩
  obtain ⟨e, rfl, rfl, rfl⟩ | ⟨accounts, e, rfl, -, rfl, rfl⟩ |
    ⟨accounts, moving, visited, rfl, vetted, rfl, moved⟩ := rest
  · obtain ⟨sent, ⟨_, -, published⟩ | ⟨_, missing, -⟩⟩ := published_of_lookup looked way
    · refine ⟨[], List.forall_mem_nil _, .inl ⟨e, rfl, ?_, sent⟩⟩
      rw [published, List.append_nil]
    · cases missing
  · obtain ⟨sent, ⟨_, missing, -⟩ | ⟨_, -, published, -⟩⟩ := published_of_lookup looked way
    · cases missing
    · exact ⟨[_], List.forall_mem_singleton.2 rfl, .inl ⟨e, rfl, published, sent⟩⟩
  · obtain ⟨s₁, before, after⟩ := along_append.1 way
    obtain ⟨sent, ⟨_, missing, -⟩ | ⟨accounts, ⟨⟩, published, both⟩⟩ :=
      published_of_lookup looked before
    · cases missing
    refine ⟨[(s₁.seen, s₁.seen)], List.forall_mem_singleton.2 rfl, ?_⟩
    obtain ⟨positive, apart⟩ := Ledger.check_eq_ok.1 sound
    obtain ⟨e, rfl, published', sent'⟩ | ⟨result, b, l, times, source, destination, rfl, passes,
      published', sent', foundSource, foundDestination, funds, room, booked⟩ :=
      published_of_job positive apart moved after
    · exact .inl ⟨e, rfl, published'.trans published, sent'.trans sent⟩
    · -- Owners and currencies were compared on an earlier ledger, and have not changed since.
      obtain ⟨source', destination'⟩ := accounts
      obtain ⟨foundSource', foundDestination'⟩ := Ledger.parties_eq_ok.1 both
      obtain ⟨currency, owner⟩ := TransferRequest.vet_eq_ok.1 vetted
      obtain ⟨_, again, sameOwner, sameCurrency⟩ := passes _ _ foundSource'
      cases foundSource.symm.trans again
      obtain ⟨_, again, -, sameCurrency'⟩ := passes _ _ foundDestination'
      cases foundDestination.symm.trans again
      refine .inr ⟨result, b, l, times, rfl, ?_, sent ▸ sent', ?_⟩
      · rw [published', published, List.append_assoc]
      · refine Ledger.transfer_eq_ok.2 ⟨positive, apart, source, destination, foundSource,
          foundDestination, ?_, ?_, funds, room, booked⟩
        · rw [sameCurrency, sameCurrency', currency]
        · rw [sameOwner, owner]

end Transfers

namespace Order

variable {ν : Type} {o : Order ν} {s s' : Standing ν} {trace : Procedure.Trace ν}

/-- An order for an account is carried out by a request to open it. -/
theorem runs_of_account {new : NewAccount} {fits : new.initialBalance ≤ Amount.greatest}
    {outcome : Except Error Receipt} (wish : o.wish = .account new fits)
    (run : o.procedure.Runs trace outcome) :
    ∃ result, (o.coordinator.createAccount o.context new).run.Runs trace result ∧
      outcome = result.map .account := by
  obtain ⟨c, ctx, _⟩ := o
  cases wish
  obtain ⟨e, failed, rfl⟩ | ⟨_, opened, _, rfl, created, rfl, rfl⟩ := runs_exceptBind run
  · exact ⟨.error e, failed, rfl⟩
  · rw [List.append_nil]
    exact ⟨.ok opened, created, rfl⟩

/-- An order for a transfer is carried out by the transfer. -/
theorem runs_of_transfer {r : TransferRequest} {inform : TransferResult → List ν}
    {outcome : Except Error Receipt} (wish : o.wish = .transfer r inform)
    (run : o.procedure.Runs trace outcome) :
    ∃ result, (o.coordinator.transfer inform o.context r).run.Runs trace result ∧
      outcome = result.map .transfer := by
  obtain ⟨c, ctx, _⟩ := o
  cases wish
  obtain ⟨e, failed, rfl⟩ | ⟨_, result, _, rfl, moved, rfl, rfl⟩ := runs_exceptBind run
  · exact ⟨.error e, failed, rfl⟩
  · rw [List.append_nil]
    exact ⟨.ok result, moved, rfl⟩

/-- What an order has left behind once it has an outcome. -/
theorem settled_of_procedure {outcome : Except Error Receipt}
    (run : o.procedure.Runs trace outcome) (way : Along (Standing.Takes crowded) s trace s')
    (unpublished : s.published = []) (unsent : s.sent = []) :
    o.Settled s'.published s'.sent outcome := by
  cases wish : o.wish with
  | account new fits =>
    obtain ⟨result, created, rfl⟩ := runs_of_account wish run
    obtain ⟨sent, ⟨e, rfl, published⟩ | ⟨opened, b, l, now, rfl, published, sound, owner, done⟩⟩ :=
      published_of_createAccount created way
    · show (∀ p ∈ s'.published, p.2 = p.1) ∧ s'.sent = []
      rw [published, sent, unpublished]
      exact ⟨List.forall_mem_nil _, unsent⟩
    · refine ⟨[], b, l, ?_, List.forall_mem_nil _, ⟨⟨now, now, now⟩, ?_⟩, ?_⟩
      · rw [published, unpublished]
      · simp only [apply, wish, sound, owner, done]
        rfl
      · rw [sent, unsent]
        unfold Order.due
        rw [wish]
  | transfer r inform =>
    obtain ⟨result, moved, rfl⟩ := runs_of_transfer wish run
    obtain ⟨idle, still, ⟨e, rfl, published, sent⟩ | ⟨result, b, l, times, rfl, published, sent,
      done⟩⟩ := published_of_transfer moved way
    · show (∀ p ∈ s'.published, p.2 = p.1) ∧ s'.sent = []
      rw [published, sent, unpublished]
      exact ⟨still, unsent⟩
    · refine ⟨idle, b, l, ?_, still, ⟨times, ?_⟩, ?_⟩
      · rw [published, unpublished]
        rfl
      · simp only [apply, wish, done]
        rfl
      · rw [sent, unsent]
        unfold Order.due
        rw [wish]
        rfl

/-- An order ends every transaction that it opens. -/
theorem bracketed_of_procedure {outcome : Except Error Receipt}
    (run : o.procedure.Runs trace outcome) : Store.Bracketed false trace false := by
  cases wish : o.wish with
  | account new fits =>
    obtain ⟨result, created, -⟩ := runs_of_account wish run
    obtain ⟨e, rfl, -⟩ | ⟨-, -, ran⟩ := runs_createAccount created
    · rfl
    · exact Coordinator.bracketed_of_runJob ran
  | transfer r inform =>
    obtain ⟨result, ran, -⟩ := runs_of_transfer wish run
    obtain ⟨e, -, rfl, -⟩ | ⟨-, looking, found, looked, rest⟩ := Coordinator.runs_transfer ran
    · rfl
    obtain ⟨e, -, rfl, -⟩ | ⟨accounts, e, -, -, rfl, -⟩ |
      ⟨accounts, moving, visited, -, -, rfl, moved⟩ := rest
    · exact Coordinator.bracketed_of_runJob looked
    · exact Coordinator.bracketed_of_runJob looked
    · exact (Coordinator.bracketed_of_runJob looked).append (Coordinator.bracketed_of_runJob moved)

end Order
end DoubleEntry
