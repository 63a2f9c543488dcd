import DoubleEntry.Proofs.Store.Alone
import DoubleEntry.Proofs.Transfer.Company

/-!
# The outcome of a transfer

A transfer on a store in memory, by a client that is alone and is not interrupted, comes out as
`Ledger.transfer` says: with the same answer, the same ledger committed, and the notices of its
result.  `transfer_outcome` says so for every ledger that keeps the constraints of the schema, and
every request.
-/

namespace DoubleEntry

open Program Work Memory

namespace Coordinator

variable {ν : Type} {moments : Nat → Moment} {c : Coordinator} {ctx : Context}
  {r : TransferRequest} {inform : TransferResult → List ν} {s s' : Standing ν}
  {trace : Procedure.Trace ν}

/-- A whole transfer, as a client sees it that is alone. -/
theorem standing_of_transfer (wf : s.seen.WellFormed) (calm : c.CalmFor (alone moments) ctx)
    {outcome : Except Error TransferResult} (run : (c.transfer inform ctx r).run.Runs trace outcome)
    (way : Along (Standing.Takes (alone moments)) s trace s') :
    ∃ times, outcome = (s.seen.transfer ctx.principal times r).map (·.1) ∧
      s'.seen = s.seen.left (s.seen.transfer ctx.principal times r) ∧
      s'.sent = s.sent ++ TransferResult.told inform (s.seen.transfer ctx.principal times r) := by
  obtain ⟨b, times, rfl, found⟩ :=
    standing_in_company (fair_alone moments) calm.reliable wf run way
  exact ⟨times, found⟩

/-- The outcome of a transfer on a store in memory.  A request that is unsound by itself takes no
step on the store. -/
theorem transfer_outcome (c : Coordinator) (inform : TransferResult → List ν) (ctx : Context)
    (r : TransferRequest) (moments : Nat → Moment) (world : World State)
    (faultless : world.data.Faultless) (wf : world.data.committed.WellFormed)
    (allowed : ∀ n, ctx.check (moments n) = .ok ())
    (early : ∀ d, c.timeout = some d → ∀ n m, (moments n).now < (moments m).now + d.nanos) :
    let run := store.runAmid (fun n w => { w with moment := moments n })
      (c.transfer inform ctx r).run world
    ∃ times,
      let outcome := world.data.committed.transfer ctx.principal times r
      run.value = outcome.map (·.1) ∧
        run.seat.world.data.committed = world.data.committed.left outcome ∧
        run.seat.world.data.committed.WellFormed ∧
        run.seat.sent.reverse = TransferResult.told inform outcome ∧
        (r.check ≠ .ok () → run.trace = []) := by
  intro run
  have runs : (c.transfer inform ctx r).run.Runs run.trace run.value :=
    Store.runs_runAmid store _ _ _
  obtain ⟨s', way, mirrors⟩ : ∃ s', Along (Standing.Takes (alone moments))
      ⟨world.data.committed, none, [], []⟩ run.trace s' ∧ Mirrors run.seat s' :=
    along_alone (c.transfer inform ctx r).run faultless
  obtain ⟨times, value, seen, sent⟩ := standing_of_transfer wf (calm_alone allowed early) runs way
  have committed := mirrors.seen.symm.trans seen
  refine ⟨times, value, committed, ?_, mirrors.sent.symm.trans sent, ?_⟩
  · rw [committed]
    cases done : world.data.committed.transfer ctx.principal times r with
    | error e => exact wf
    | ok booked => exact wf.transfer done
  · intro unsound
    obtain ⟨e, -, untouched, -⟩ | ⟨sound, -⟩ := runs_transfer runs
    · exact untouched
    · exact absurd sound unsound

/-- Alice has one dollar and Bob has fifty cents. -/
def purses : Ledger :=
  { Ledger.empty with
    accounts := [⟨1, "alice", 100, .usd, .ofNanos 0⟩, ⟨2, "bob", 50, .usd, .ofNanos 0⟩]
    lastAccount := 2 }

/-- Alice gives thirty cents to Bob while the clock ticks on. -/
theorem transfer_outcome_purses :
    let world : World State := ⟨⟨0, []⟩, { State.empty with committed := purses }⟩
    let run := store.runAmid (fun n w => { w with moment := ⟨min n 40, []⟩ })
      ((⟨.standard, some (.ofMillis 1000), fun _ => 7⟩ : Coordinator).transfer
        (fun result => [result.transfer.id]) ((Context.background ⟨0⟩).actingAs "alice")
        ⟨1, 2, 30⟩).run world
    run.seat.world.data.committed.WellFormed ∧
      run.seat.world.data.committed.accounts.map (·.balance) = [70, 80] ∧
      run.seat.world.data.committed.entries.map (·.amount) = [-30, 30] ∧
      run.seat.sent.reverse = [1] := by
  intro world run
  have wf : purses.WellFormed := by
    constructor <;> simp [purses, Ledger.empty, Ledger.Numbered, Amount.greatest]
  have early (d : Duration) (limit : some (Duration.ofMillis 1000) = some d) (n m : Nat) :
      min n 40 < min m 40 + d.nanos := by
    cases limit
    simp only [Duration.ofMillis]
    omega
  obtain ⟨times, -, -, kept, -⟩ := transfer_outcome
    ⟨.standard, some (.ofMillis 1000), fun _ => 7⟩ (fun result => [result.transfer.id])
    ((Context.background ⟨0⟩).actingAs "alice") ⟨1, 2, 30⟩ (fun n => ⟨min n 40, []⟩) world
    ⟨rfl, rfl, rfl⟩ wf (fun n => rfl) early
  exact ⟨kept, by decide +kernel⟩

end Coordinator
end DoubleEntry
