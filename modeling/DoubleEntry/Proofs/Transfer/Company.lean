import DoubleEntry.Proofs.Coordinator.Standing
import DoubleEntry.Proofs.Transfer.Procedure

/-!
# Transfers in company

A transfer looks at its two accounts in one transaction and books itself in another, and in between
others may commit.  As long as nothing fails it comes out as `Ledger.transfer` says for one of the
ledgers that were committed meanwhile, although the accounts were compared on an earlier one:
`standing_in_company`.
-/

namespace DoubleEntry

open Program Work

/-- The ledger that is left by a transfer. -/
def Ledger.left (l : Ledger) : Except Error (TransferResult × Ledger) → Ledger
  | .ok (_, l') => l'
  | .error _ => l

/-- The notices that a transfer sends. -/
def TransferResult.told {ν : Type} (inform : TransferResult → List ν) :
    Except Error (TransferResult × Ledger) → List ν
  | .ok (result, _) => inform result
  | .error _ => []

variable {ν : Type} {amid : Surroundings} {c : Coordinator} {ctx : Context} {r : TransferRequest}
  {inform : TransferResult → List ν} {s s' : Standing ν} {trace : Procedure.Trace ν}
  {b l l' : Ledger}

/-! ## Parties that stay the same -/

theorem TransferRequest.vet_congr {source destination source' destination' : Account}
    (owner : source'.owner = source.owner) (currency : source'.currency = source.currency)
    (currency' : destination'.currency = destination.currency) :
    vet ctx (source', destination') = vet ctx (source, destination) := by
  simp only [vet, owner, currency, currency']

/-- Two accounts that may trade with each other still may when others have committed. -/
theorem Ledger.PersistsIn.parties {source destination : Account} (persists : l.PersistsIn l')
    (both : l.parties r = .ok (source, destination))
    (vetted : TransferRequest.vet ctx (source, destination) = .ok ()) :
    ∃ source' destination', l'.parties r = .ok (source', destination') ∧
      TransferRequest.vet ctx (source', destination') = .ok () := by
  obtain ⟨foundSource, foundDestination⟩ := parties_eq_ok.1 both
  obtain ⟨source', foundSource', owner, currency⟩ := persists _ _ foundSource
  obtain ⟨destination', foundDestination', -, currency'⟩ := persists _ _ foundDestination
  exact ⟨source', destination', parties_eq_ok.2 ⟨foundSource', foundDestination'⟩,
    (TransferRequest.vet_congr owner currency currency').trans vetted⟩

namespace Coordinator

/-! ## The two transactions -/

/-- Looking up the accounts of a transfer finds them or says which one is missing, on a ledger that
was committed. -/
theorem standing_of_lookup (fair : amid.Fair) (reliable : c.ReliableFor amid ctx)
    {found : Except Error (Account × Account)}
    (run : (c.runJob ctx (.ofTask r.lookup) ()).Runs trace (found, ()))
    (way : Along (Standing.Takes amid) s trace s') :
    amid.passes s.seen s'.seen ∧ s'.sent = s.sent ∧ found = s'.seen.parties r := by
  obtain ⟨ctx', still, _, steps, b, l, passes, work, acts, seen, sent⟩ :=
    standing_of_reliable reliable run way
  obtain ⟨times, later, computed⟩ :=
    exec_of_along (runs_ofTask.1 work) (fair.carriesOut still acts) []
  obtain ⟨later', looked⟩ := TransferRequest.on_lookup (ν := ν) r b times []
  have same := looked.symm.trans computed
  generalize steps.registered = told at same sent
  cases same
  rw [ite_self] at seen
  rw [List.append_nil, ite_self] at sent
  rw [seen]
  exact ⟨passes, sent, rfl⟩

/-- The unit of work of a transfer between two accounts that may trade with each other. -/
theorem transfer_of_job (wf : b.WellFormed) (sound : r.check = .ok ())
    {source destination : Account} (both : b.parties r = .ok (source, destination))
    (vetted : TransferRequest.vet ctx (source, destination) = .ok ())
    {outcome : Except Error TransferResult} {before visited : List TransferState}
    {steps : Work.Record ν} (work : (r.job inform before).Runs steps (outcome, visited))
    (acts : Along (Work.Acts Ledger.CarriesOut) b steps l) (sent : List ν) :
    ∃ times, outcome = (b.transfer ctx.principal times r).map (·.1) ∧
      (if outcome.isOk then l else b) = b.left (b.transfer ctx.principal times r) ∧
      (if outcome.isOk then sent ++ steps.registered else sent) =
        sent ++ TransferResult.told inform (b.transfer ctx.principal times r) := by
  obtain ⟨times, later, computed⟩ := exec_of_along work acts []
  obtain ⟨positive, apart⟩ := Ledger.check_eq_ok.1 sound
  obtain ⟨foundSource, foundDestination⟩ := Ledger.parties_eq_ok.1 both
  obtain ⟨currency, owner⟩ := TransferRequest.vet_eq_ok.1 vetted
  have decided (times : TransferTimes) :=
    Ledger.transfer_of_balances times sound both currency owner
  obtain ⟨low, high⟩ := wf.balances source (Ledger.mem_of_account? foundSource).1
  obtain ⟨low', -⟩ := wf.balances destination (Ledger.mem_of_account? foundDestination).1
  by_cases short : source.balance < r.amount
  · have failed := (TransferRequest.exec_job_short apart foundSource foundDestination
      short).symm.trans (congrArg (·.1.1) computed)
    obtain rfl := failed
    refine ⟨⟨times 0, times 0, times 0⟩, ?_⟩
    rw [decided, if_pos short]
    exact ⟨rfl, rfl, (List.append_nil _).symm⟩
  · have funds := Int.not_lt.1 short
    have fits : source.balance - r.amount ≤ Amount.greatest := by omega
    by_cases full : Amount.greatest < destination.balance + r.amount
    · have failed := (TransferRequest.exec_job_full apart foundSource foundDestination funds fits
        full).symm.trans (congrArg (·.1.1) computed)
      obtain rfl := failed
      refine ⟨⟨times 0, times 0, times 0⟩, ?_⟩
      rw [decided, if_neg short, if_pos full]
      exact ⟨rfl, rfl, (List.append_nil _).symm⟩
    · obtain ⟨times', _, _, booked⟩ := TransferRequest.exec_job_booked apart positive foundSource
        foundDestination funds fits (by omega) (Int.not_lt.1 full)
      rw [booked] at computed
      generalize steps.registered = told at computed ⊢
      cases computed
      refine ⟨times', ?_⟩
      rw [decided, if_neg short, if_neg full]
      exact ⟨rfl, rfl, rfl⟩

/-- After a look at the accounts, the unit of work comes out as the transfer on a ledger that was
committed. -/
theorem standing_of_job (fair : amid.Fair) (reliable : c.ReliableFor amid ctx)
    (wf : s.seen.WellFormed) (sound : r.check = .ok ()) {source destination : Account}
    (both : s.seen.parties r = .ok (source, destination))
    (vetted : TransferRequest.vet ctx (source, destination) = .ok ())
    {outcome : Except Error TransferResult} {visited : List TransferState}
    (run : (c.runJob ctx (r.job inform) [.validated]).Runs trace (outcome, visited))
    (way : Along (Standing.Takes amid) s trace s') :
    ∃ b times, amid.passes s.seen b ∧
      outcome = (b.transfer ctx.principal times r).map (·.1) ∧
      s'.seen = b.left (b.transfer ctx.principal times r) ∧
      s'.sent = s.sent ++ TransferResult.told inform (b.transfer ctx.principal times r) := by
  obtain ⟨ctx', still, before, steps, b, l, passes, work, acts, seen, sent⟩ :=
    standing_of_reliable reliable run way
  obtain ⟨source', destination', both', vetted'⟩ := (fair.persists passes).parties both vetted
  obtain ⟨times, value, left, told⟩ := transfer_of_job (fair.schema passes wf) sound both' vetted'
    work (fair.carriesOut still acts) s.sent
  exact ⟨b, times, passes, value, seen.trans left, sent.trans told⟩

/-! ## The whole operation -/

/-- **A transfer in company**, where nothing fails: it comes out as `Ledger.transfer` says for some
ledger that was committed meanwhile. -/
theorem standing_in_company (fair : amid.Fair) (reliable : c.ReliableFor amid ctx)
    (wf : s.seen.WellFormed) {outcome : Except Error TransferResult}
    (run : (c.transfer inform ctx r).run.Runs trace outcome)
    (way : Along (Standing.Takes amid) s trace s') :
    ∃ b times, amid.passes s.seen b ∧
      outcome = (b.transfer ctx.principal times r).map (·.1) ∧
      s'.seen = b.left (b.transfer ctx.principal times r) ∧
      s'.sent = s.sent ++ TransferResult.told inform (b.transfer ctx.principal times r) := by
  let never : TransferTimes := ⟨.ofNanos 0, .ofNanos 0, .ofNanos 0⟩
  obtain ⟨e, unsound, rfl, rfl⟩ | ⟨sound, looking, found, looked, rest⟩ := runs_transfer run
  · cases way
    refine ⟨s.seen, never, amid.passes_refl _, ?_⟩
    rw [Ledger.transfer_of_unsound unsound]
    exact ⟨rfl, rfl, (List.append_nil _).symm⟩
  obtain ⟨e, rfl, rfl, rfl⟩ | ⟨accounts, e, rfl, refused, rfl, rfl⟩ |
    ⟨accounts, moving, visited, rfl, vetted, rfl, moved⟩ := rest
  · obtain ⟨passes, sent, missing⟩ := standing_of_lookup fair reliable looked way
    refine ⟨s'.seen, never, passes, ?_⟩
    rw [sent, Ledger.transfer_of_missing sound missing.symm]
    exact ⟨rfl, rfl, (List.append_nil _).symm⟩
  · obtain ⟨passes, sent, both⟩ := standing_of_lookup fair reliable looked way
    refine ⟨s'.seen, never, passes, ?_⟩
    rw [sent, Ledger.transfer_of_parties sound both.symm,
      TransferRequest.transferBetween_of_refused refused]
    exact ⟨rfl, rfl, (List.append_nil _).symm⟩
  · obtain ⟨s₁, before, after⟩ := along_append.1 way
    obtain ⟨passes, sent, both⟩ := standing_of_lookup fair reliable looked before
    obtain ⟨b, times, passes', value, seen, sent'⟩ := standing_of_job fair reliable
      (fair.schema passes wf) sound both.symm vetted moved after
    exact ⟨b, times, amid.passes_trans passes passes', value, seen, sent ▸ sent'⟩

end Coordinator
end DoubleEntry
