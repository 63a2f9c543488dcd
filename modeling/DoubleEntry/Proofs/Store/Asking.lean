import DoubleEntry.Proofs.Store.Alone
import DoubleEntry.Proofs.Transfer.Procedure

/-!
# A single question

Some requests ask the store for one thing, in a transaction of its own, and report on the answer.
`Memory.answer_alone` says what a client is told that is alone with the store.
-/

namespace DoubleEntry.Memory

open Program Work

variable {ν : Type} {moments : Nat → Moment} {c : Coordinator} {ctx : Context} {asked : Call}

/-- In calm surroundings a call is answered by the committed ledger. -/
theorem answer_of_calm {s s' : Standing ν} {trace : Procedure.Trace ν}
    (calm : c.CalmFor (alone moments) ctx) {outcome : asked.Outcome}
    (run : (c.runJob ctx (.ofTask (Task.call asked)) ()).Runs trace (outcome, ()))
    (way : Along (Standing.Takes (alone moments)) s trace s') :
    ∃ now, outcome = (onLedger now s.seen asked).1 := by
  obtain ⟨ctx', still, _, steps, l, work, acts, -, -⟩ := Coordinator.standing_of_calm calm run way
  obtain rfl := runs_question.1 (runs_ofTask.1 work)
  obtain ⟨_, ⟨now, answered⟩, -⟩ := (fair_alone moments).carriesOut
    ⟨still.allowed, still.sound⟩ acts
  exact ⟨now, (congrArg Prod.fst answered).symm⟩

/-- A client that is alone with the store and is not interrupted gets what it asks of the committed
ledger. -/
theorem answer_alone {α : Type} {report : asked.Answer → α} {answer : asked.Answer}
    (c : Coordinator) (ctx : Context) (moments : Nat → Moment) (world : World State)
    (faultless : world.data.Faultless) (allowed : ∀ n, ctx.check (moments n) = .ok ())
    (early : ∀ d, c.timeout = some d → ∀ n m, (moments n).now < (moments m).now + d.nanos)
    (answered : ∀ now, (onLedger now world.data.committed asked).1 = .ok answer) :
    (store.runAmid (fun n w => { w with moment := moments n })
      (c.run ctx (Task.call asked) >>= fun found => pure (report found) : Operation ν α).run
        world).value = .ok (report answer) := by
  have runs := Store.runs_runAmid store (fun n w => { w with moment := moments n })
    (c.run ctx (Task.call asked) >>= fun found => pure (report found) : Operation ν α).run world
  obtain ⟨s', way, -⟩ := along_alone
    (c.run ctx (Task.call asked) >>= fun found => pure (report found) : Operation ν α).run faultless
  obtain ⟨e, failed, -⟩ | ⟨before, found, after, whole, asking, reported⟩ := runs_exceptBind runs
  · have ran := Coordinator.runs_run failed
    obtain ⟨now, same⟩ := answer_of_calm (calm_alone allowed early) ran way
    cases same.trans (answered now)
  · rw [whole] at way
    obtain ⟨s₁, way, -⟩ := along_append.1 way
    have ran := Coordinator.runs_run asking
    obtain ⟨now, same⟩ := answer_of_calm (calm_alone allowed early) ran way
    cases same.trans (answered now)
    exact reported.2

end DoubleEntry.Memory
