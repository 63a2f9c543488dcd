import DoubleEntry.Proofs.Authority.Respect
import DoubleEntry.Proofs.Refinement.Requests

/-!
# What a request may change

A client of the service commits transactions in the name of a request.  `Ask.Makes` lists the
changes that such a transaction can make of a ledger: none; or an account is opened that the context
permits; or a transfer is carried out that the principal of the context may make.

* `Ask.makes_of_serve` — in a crowd, whatever others commit in between, a request publishes nothing
  else.
* `Ask.Makes.respects` — so a request in the name of a user respects everybody else.
-/

namespace DoubleEntry

open Program Coordinator

variable {ν α : Type} {c : Coordinator} {ctx : Context} {s s' : Standing ν}
  {trace : Procedure.Trace ν}

/-! ## Requests that only look -/

/-- A task that only looks publishes what its transaction began on. -/
theorem Coordinator.published_of_looking {task : Task ν α}
    (looks : task.run.AsksOnly WorkStep.Looks) {outcome : Except Error α}
    (run : (c.run ctx task).run.Runs trace outcome)
    (way : Along (Standing.Takes Order.crowded) s trace s') :
    ∀ t ∈ s'.published, t ∈ s.published ∨ t.2 = t.1 := by
  obtain ⟨ctx', outlasts⟩ := outlasts_runJob (runs_run run)
  rcases outcome with e | value
  · obtain ⟨published, -, -⟩ := outlasts.standing way
    exact fun t mem => .inl (published ▸ mem)
  · obtain ⟨b, l, steps, ⟨⟩, -, work, acts, rfl⟩ := outlasts.standing way
    intro t mem
    rcases List.mem_append.1 mem with before | new
    · exact .inl before
    · rw [List.mem_singleton.1 new]
      exact .inr (Work.along_of_looks (looks.of_mem (runs_ofTask.1 work)) acts)

theorem looks_call {c : Call} (looks : c.Looks) :
    (Task.call c : Task ν c.Answer).run.AsksOnly WorkStep.Looks :=
  ⟨looks, fun _ => trivial⟩

theorem looks_ownedAccount (ctx : Context) (id : Int) :
    (ownedAccount ctx id : Task ν Account).run.AsksOnly WorkStep.Looks :=
  (looks_call (c := .getAccount id) trivial).exceptBind fun _ =>
    AsksOnly.exceptBind trivial fun _ => trivial

theorem looks_ownedAccount_bind (id : Int) {c : Call} (looks : c.Looks) :
    (ownedAccount ctx id >>= fun _ => Task.call c : Task ν c.Answer).run.AsksOnly WorkStep.Looks :=
  (looks_ownedAccount ctx id).exceptBind fun _ => looks_call looks

namespace Ask

/-! ## The changes -/

/-- What a transaction of a request can make of a ledger. -/
inductive Makes (ctx : Context) : Ask ν → Ledger → Ledger → Prop
  | nothing {ask : Ask ν} {l : Ledger} : Makes ctx ask l l
  | opens {new : NewAccount} {fits : new.initialBalance ≤ Amount.greatest} {l l' : Ledger}
      {now : Timestamp} {opened : Account} (permitted : ctx.authorize new.owner = .ok ())
      (done : l.createAccount now new.owner new.currency new.initialBalance = .ok (opened, l')) :
      Makes ctx (.createAccount new fits) l l'
  | moves {r : TransferRequest} {listeners : List (TransferResult → ν)} {l l' : Ledger}
      {times : TransferTimes} {result : TransferResult}
      (done : l.transfer ctx.principal times r = .ok (result, l')) :
      Makes ctx (.transfer r listeners) l l'

variable {ask : Ask ν} {l l' : Ledger} {p : Principal}

/-- A request in the name of a user respects everybody else. -/
theorem Makes.respects (made : ask.Makes ctx l l') (acting : ctx.principal = some p) :
    l.Respects p l' := by
  cases made with
  | nothing => exact .refl p l
  | @opens new _ _ _ now opened permitted done =>
    rw [Context.authorize, acting] at permitted
    have own : p.username = new.owner := by
      by_contra foreign
      simp [foreign] at permitted
    exact Ledger.respects_createAccount own done
  | moves done =>
    rw [acting] at done
    exact (Ledger.of_transfer_for done).2

/-- A transfer that changes the ledger in the name of a user is authorized, and stays so. -/
theorem Makes.authorizes {r : TransferRequest} {listeners : List (TransferResult → ν)}
    (made : (.transfer r listeners : Ask ν).Makes ctx l l') (acting : ctx.principal = some p)
    (changed : l' ≠ l) : l.Authorizes p r := by
  cases made with
  | nothing => exact absurd rfl changed
  | moves done =>
    rw [acting] at done
    exact (Ledger.of_transfer_for done).1

/-! ## In a crowd -/

/-- A request that only reads publishes what its transactions began on. -/
theorem published_of_reads {store : String} {outcome : Except Error Reply}
    (run : (ask.serve c store ctx).run.Runs trace outcome) (reads : ask.Reads)
    (way : Along (Standing.Takes Order.crowded) s trace s') :
    ∀ t ∈ s'.published, t ∈ s.published ∨ t.2 = t.1 := by
  cases ask with
  | createAccount new fits | transfer r listeners => exact reads.elim
  | getAccount id =>
    obtain ⟨_, ran, -⟩ := Refinement.runs_of_map run
    exact published_of_looking (looks_ownedAccount ctx id) ran way
  | listAccounts owner page =>
    obtain ⟨_, ran, -⟩ := Refinement.runs_of_map run
    obtain ⟨e, failed, -⟩ | ⟨_, whose, _, rfl, allowed, listed⟩ := runs_exceptBind ran
    · obtain ⟨rfl, -⟩ := runs_require.1 failed
      cases way
      exact fun t mem => .inl mem
    · obtain ⟨rfl, -⟩ := runs_require.1 allowed
      exact published_of_looking (looks_call (c := .listAccounts whose page) trivial) listed way
  | listEntries id page =>
    obtain ⟨_, ran, -⟩ := Refinement.runs_of_map run
    exact published_of_looking
      (looks_ownedAccount_bind id (c := .listEntries id page) trivial) ran way
  | listTransfers id page =>
    obtain ⟨_, ran, -⟩ := Refinement.runs_of_map run
    exact published_of_looking
      (looks_ownedAccount_bind id (c := .listTransfers id page) trivial) ran way
  | status =>
    obtain ⟨_, ran, -⟩ := Refinement.runs_of_map run
    obtain ⟨_, ran, -⟩ := Refinement.runs_of_map (f := fun totals => Status.mk store totals) ran
    exact published_of_looking (looks_call (c := .totals) trivial) ran way
  | checkHealth =>
    obtain ⟨_, ran, -⟩ := Refinement.runs_of_map run
    obtain ⟨_, ran, -⟩ := Refinement.runs_of_map (f := Health.ofAudit) ran
    exact published_of_looking (looks_call (c := .audit) trivial) ran way

/-- Whatever others commit in between, a request publishes nothing but what it can make of the
ledgers that its transactions begin on. -/
theorem makes_of_serve {store : String} {outcome : Except Error Reply}
    (run : (ask.serve c store ctx).run.Runs trace outcome)
    (way : Along (Standing.Takes Order.crowded) s trace s') :
    ∀ t ∈ s'.published, t ∈ s.published ∨ ask.Makes ctx t.1 t.2 := by
  have unchanged {t : Ledger × Ledger} (same : t.2 = t.1) : ask.Makes ctx t.1 t.2 := by
    rw [same]
    exact .nothing
  intro t mem
  cases ask with
  | createAccount new fits =>
    obtain ⟨_, ran, -⟩ := Refinement.runs_of_map run
    obtain ⟨-, ⟨e, -, published⟩ | ⟨opened, b, made, now, -, published, -, permitted, done⟩⟩ :=
      published_of_createAccount ran way
    · exact .inl (published ▸ mem)
    · rw [published] at mem
      rcases List.mem_append.1 mem with before | new
      · exact .inl before
      · rw [List.mem_singleton.1 new]
        exact .inr (.opens permitted done)
  | transfer r listeners =>
    obtain ⟨_, ran, -⟩ := Refinement.runs_of_map run
    obtain ⟨idle, still, ⟨e, -, published, -⟩ | ⟨result, b, made, times, -, published, -, done⟩⟩ :=
      published_of_transfer ran way
    · rw [published] at mem
      exact (List.mem_append.1 mem).imp_right fun looked => unchanged (still t looked)
    · rw [published] at mem
      rcases List.mem_append.1 mem with before | new
      · exact .inl before
      · rcases List.mem_append.1 new with looked | last
        · exact .inr (unchanged (still t looked))
        · rw [List.mem_singleton.1 last]
          exact .inr (.moves done)
  | getAccount id | listAccounts owner page | listEntries id page | listTransfers id page | status
  | checkHealth => exact (published_of_reads run trivial way t mem).imp_right unchanged

/-- A transfer that is reported as done has been carried out on a ledger that it published. -/
theorem moves_of_serve {store : String} {r : TransferRequest}
    {listeners : List (TransferResult → ν)} {reply : Reply}
    (run : ((.transfer r listeners : Ask ν).serve c store ctx).run.Runs trace (.ok reply))
    (way : Along (Standing.Takes Order.crowded) s trace s') :
    ∃ b l times result, (b, l) ∈ s'.published ∧
      b.transfer ctx.principal times r = .ok (result, l) := by
  obtain ⟨outcome, ran, same⟩ := Refinement.runs_of_map run
  obtain ⟨idle, -, ⟨e, rfl, -, -⟩ | ⟨result, b, l, times, rfl, published, -, done⟩⟩ :=
    published_of_transfer ran way
  · cases same
  · refine ⟨b, l, times, result, ?_, done⟩
    rw [published]
    simp

end Ask
end DoubleEntry
