import DoubleEntry.Proofs.Transfer.Attempt

/-!
# The parts of a transfer

A transfer takes the request as it is, looks up the two accounts in a transaction of their own,
compares them, and only then tries the unit of work.  `runs_transfer` cuts a run of
`Coordinator.transfer` into these parts.
-/

namespace DoubleEntry

open Program Work

/-! ## Operations -/

section Operations

variable {ν α : Type}

theorem runs_require {result outcome : Except Error α} {trace : Procedure.Trace ν} :
    (Operation.require result : Operation ν α).run.Runs trace outcome ↔
      trace = [] ∧ outcome = result := Iff.rfl

theorem Coordinator.runs_run {c : Coordinator} {ctx : Context} {task : Task ν α}
    {trace : Procedure.Trace ν} {outcome : Except Error α}
    (run : (c.run ctx task).run.Runs trace outcome) :
    (c.runJob ctx (.ofTask task) ()).Runs trace (outcome, ()) := by
  obtain ⟨before, ⟨done, ⟨⟩⟩, after, rfl, ran, rfl, rfl⟩ := runs_bind.1 run
  rwa [List.append_nil]

end Operations

namespace TransferRequest

variable {ν : Type}

/-- Look up the two accounts of a transfer. -/
def lookup (r : TransferRequest) : Task ν (Account × Account) := do
  let source ← Task.call (.getAccount r.source)
  let destination ← Task.call (.getAccount r.destination)
  pure (source, destination)

/-- Compare the two accounts of a transfer with each other and with the principal. -/
def vet (ctx : Context) (accounts : Account × Account) : Except Error Unit :=
  if accounts.1.currency ≠ accounts.2.currency then
    .error (.currencyMismatch accounts.1.currency accounts.2.currency)
  else ctx.authorize accounts.1.owner

theorem vet_eq_ok {ctx : Context} {source destination : Account} :
    vet ctx (source, destination) = .ok () ↔
      source.currency = destination.currency ∧
        (ctx.principal.any fun p => p.username ≠ source.owner) = false := by
  unfold vet Context.authorize
  by_cases apart : source.currency = destination.currency
  · rw [if_neg (not_not.2 apart)]
    cases ctx.principal with
    | none => simp [apart]
    | some p => by_cases owner : p.username = source.owner <;> simp [apart, owner]
  · rw [if_pos apart]
    simp [apart]

theorem strict_lookup (r : TransferRequest) : (r.lookup : Task ν (Account × Account)).Strict :=
  Task.strict_bind (Task.strict_call rfl) fun _ => Task.strict_bind (Task.strict_call rfl) fun _ =>
    Task.strict_pure _

theorem transferBetween_of_refused {ctx : Context} {source destination : Account} {e : Error}
    {l : Ledger} {times : TransferTimes} {r : TransferRequest}
    (refused : vet ctx (source, destination) = .error e) :
    l.transferBetween ctx.principal times r source destination = .error e := by
  unfold vet at refused
  unfold Ledger.transferBetween
  split at refused
  · rename_i apart
    cases refused
    exact if_pos apart
  · rename_i currency
    rw [if_neg currency]
    unfold Context.authorize at refused
    split at refused
    · rename_i p principal
      split at refused
      · cases refused
      · rename_i stranger
        cases refused
        rw [principal]
        exact if_pos (by simpa using stranger)
    · cases refused

/-- The lookup gives the parties of the transfer, and leaves the ledger as it is. -/
theorem on_lookup (r : TransferRequest) (l : Ledger) (times : Nat → Timestamp) (notices : List ν) :
    ∃ later, (r.lookup : Task ν (Account × Account)).on ⟨l, times, notices⟩ =
      (l.parties r, ⟨l, later, notices⟩) := by
  unfold lookup Ledger.parties
  cases foundSource : l.account? r.source with
  | none =>
    have first : Memory.onLedger (times 0) l (.getAccount r.source) = (.error _, l) :=
      Prod.ext (Ledger.getAccount_of_missing foundSource) rfl
    exact ⟨_, Task.on_bind_error (Task.on_call_of first)⟩
  | some source =>
    have first : Memory.onLedger (times 0) l (.getAccount r.source) = (.ok source, l) :=
      Prod.ext (Ledger.getAccount_of_found foundSource) rfl
    rw [Task.on_bind_ok (Task.on_call_of first)]
    cases foundDestination : l.account? r.destination with
    | none =>
      have second : Memory.onLedger (times 1) l (.getAccount r.destination) = (.error _, l) :=
        Prod.ext (Ledger.getAccount_of_missing foundDestination) rfl
      exact ⟨_, Task.on_bind_error (Task.on_call_of second)⟩
    | some destination =>
      have second : Memory.onLedger (times 1) l (.getAccount r.destination) =
          (.ok destination, l) := Prod.ext (Ledger.getAccount_of_found foundDestination) rfl
      rw [Task.on_bind_ok (Task.on_call_of second)]
      exact ⟨_, Task.on_pure _ _⟩

end TransferRequest

namespace Coordinator

variable {ν : Type} {c : Coordinator} {ctx : Context} {r : TransferRequest}
  {inform : TransferResult → List ν}

theorem precheck_eq (c : Coordinator) (ctx : Context) (r : TransferRequest) :
    (c.precheck ctx r : Operation ν Unit) =
      c.run ctx r.lookup >>= fun accounts =>
        Operation.require (TransferRequest.vet ctx accounts) := by
  unfold precheck
  refine congrArg (c.run ctx r.lookup >>= ·) (funext fun ⟨source, destination⟩ => ?_)
  dsimp only [TransferRequest.vet]
  by_cases apart : source.currency ≠ destination.currency
  · rw [if_pos apart, if_pos apart]
    rfl
  · rw [if_neg apart, if_neg apart]

/-- The parts of a transfer, up to the one that fails. -/
theorem runs_transfer {trace : Procedure.Trace ν} {outcome : Except Error TransferResult}
    (run : (c.transfer inform ctx r).run.Runs trace outcome) :
    (∃ e, r.check = .error e ∧ trace = [] ∧ outcome = .error e) ∨
      (r.check = .ok () ∧ ∃ looking found,
        (c.runJob ctx (.ofTask r.lookup) ()).Runs looking (found, ()) ∧
        ((∃ e, found = .error e ∧ trace = looking ∧ outcome = .error e) ∨
          (∃ accounts e, found = .ok accounts ∧ TransferRequest.vet ctx accounts = .error e ∧
            trace = looking ∧ outcome = .error e) ∨
          (∃ accounts moving visited, found = .ok accounts ∧
            TransferRequest.vet ctx accounts = .ok () ∧ trace = looking ++ moving ∧
            (c.runJob ctx (r.job inform) [.validated]).Runs moving (outcome, visited)))) := by
  obtain ⟨e, failed, rfl⟩ | ⟨_, ⟨⟩, after, rfl, checked, prechecked⟩ := runs_exceptBind run
  · obtain ⟨rfl, unsound⟩ := runs_require.1 failed
    exact .inl ⟨e, unsound.symm, rfl, rfl⟩
  · obtain ⟨rfl, sound⟩ := runs_require.1 checked
    refine .inr ⟨sound.symm, ?_⟩
    rw [precheck_eq] at prechecked
    obtain ⟨e, failed, rfl⟩ | ⟨looking, ⟨⟩, moving, rfl, passed, final⟩ :=
      runs_exceptBind prechecked
    · obtain ⟨e', unfound, same⟩ | ⟨looking, accounts, _, rfl, found, vetted⟩ :=
        runs_exceptBind failed
      · cases same
        exact ⟨_, _, runs_run unfound, .inl ⟨e, rfl, rfl, rfl⟩⟩
      · obtain ⟨rfl, refused⟩ := runs_require.1 vetted
        rw [List.append_nil, List.nil_append]
        exact ⟨looking, _, runs_run found, .inr (.inl ⟨accounts, e, rfl, refused.symm, rfl, rfl⟩)⟩
    · obtain ⟨e', unfound, same⟩ | ⟨looking, accounts, _, rfl, found, vetted⟩ :=
        runs_exceptBind passed
      · cases same
      · obtain ⟨rfl, allowed⟩ := runs_require.1 vetted
        obtain ⟨moving, ⟨result, visited⟩, _, rfl, moved, rfl, rfl⟩ := runs_bind.1 final
        rw [List.append_nil, List.append_nil, List.nil_append]
        exact ⟨looking, _, runs_run found,
          .inr (.inr ⟨accounts, moving, visited, rfl, allowed.symm, rfl, moved⟩)⟩

end Coordinator
end DoubleEntry
