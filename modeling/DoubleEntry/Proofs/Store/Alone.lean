import DoubleEntry.Proofs.Coordinator.Standing
import DoubleEntry.Proofs.Store.Keeping

/-!
# Alone with the store in memory

A single client of a store in memory that is not told to fail.  The clock moves, and other tokens
may be cancelled, but every call is carried out, and only the commits of the client change what is
committed.  `Memory.along_alone` brings any run on the store down to the standing of the client.
-/

namespace DoubleEntry.Memory

open Store

variable {ν : Type} {moments : Nat → Moment}

/-- No fault is due. -/
structure State.Faultless (s : State) : Prop where
  commits : s.commitConflicts = 0
  rollbacks : s.rollbackFails = false
  transfers : s.transferFails = false

/-- The surroundings move on to one of some moments, and touch nothing else. -/
def MovesOn (moments : Nat → Moment) (w w' : World State) : Prop :=
  w'.data = w.data ∧ ∃ n, w'.moment = moments n

/-- The surroundings of a client that is alone with the store. -/
def alone (moments : Nat → Moment) : Surroundings where
  passes l l' := l' = l
  answers ctx l c outcome l' := l.CarriesOut c outcome l' ∨
    (∃ n e, ctx.check (moments n) = .error e) ∧ (∃ e, outcome = .error e) ∧ l' = l
  reads reading := ∃ n, (moments n).now = reading
  stops ctx := ∃ n e, ctx.check (moments n) = .error e
  breaks := False
  passes_refl _ := rfl
  passes_trans first later := later.trans first

/-- What a client that is alone knows of the store is how it is. -/
structure Mirrors (seat : Seat State Ledger ν) (s : Standing ν) : Prop where
  faultless : seat.world.data.Faultless
  seen : s.seen = seat.world.data.committed
  opened : s.opened.map (·.2) = seat.transaction
  sent : s.sent = seat.sent.reverse

theorem Mirrors.shut {seat : Seat State Ledger ν} {s : Standing ν} (mirrors : Mirrors seat s)
    (shut : seat.transaction = none) : s.opened = none := by
  have held := mirrors.opened
  rw [shut] at held
  exact Option.map_eq_none_iff.1 held

theorem freed_store (seat : Seat State Ledger ν) : store.freed seat = seat.world := by
  unfold freed
  split <;> rfl

theorem State.Faultless.note {s : State} (faultless : s.Faultless) (c : Call) :
    (s.note c).Faultless ∧ (s.note c).committed = s.committed := by
  unfold State.note
  split
  · exact ⟨⟨faultless.commits, faultless.rollbacks, faultless.transfers⟩, rfl⟩
  · exact ⟨⟨faultless.commits, faultless.rollbacks, rfl⟩, rfl⟩
  · exact ⟨faultless, rfl⟩

/-- Without faults, every call is carried out on the ledger. -/
theorem call_faultless {w : World State} (faultless : w.data.Faultless) (c : Call) (l : Ledger) :
    call c l w = ((onLedger (.ofNanos w.moment.now) l c).1,
      (onLedger (.ofNanos w.moment.now) l c).2, { w with data := w.data.note c }) := by
  have due : w.data.fault? c = none := by
    unfold State.fault?
    cases c <;> simp [faultless.transfers]
  simp only [call, due]

theorem call_of_faultless {c : Call} {l l' : Ledger} {w w' : World State} {outcome : c.Outcome}
    (faultless : w.data.Faultless) (called : call c l w = (outcome, l', w')) :
    l.CarriesOut c outcome l' ∧ w'.data.Faultless ∧ w'.data.committed = w.data.committed := by
  rw [call_faultless faultless] at called
  cases called
  exact ⟨⟨_, rfl⟩, faultless.note c⟩

theorem commit_faultless {w : World State} (faultless : w.data.Faultless) (l : Ledger) :
    commit l w = (.ok (), { w with data := { w.data with committed := l } }) := by
  simp only [commit, faultless.commits]

theorem rollback_faultless {w : World State} (faultless : w.data.Faultless) (l : Ledger) :
    rollback l w = (.ok (), w) := by
  simp only [rollback, faultless.rollbacks]
  rfl

/-- Every step on the store is a step of the standing of the client. -/
theorem takes_alone {seat seat' : Seat State Ledger ν} {q : Step ν} {answer : q.Answer}
    {s : Standing ν} (taken : store.Takes (MovesOn moments) seat q answer seat')
    (mirrors : Mirrors seat s) :
    ∃ s', s.Takes (alone moments) q answer s' ∧ Mirrors seat' s' := by
  obtain ⟨⟨moment, data⟩, ⟨rfl, n, rfl⟩, taken⟩ := taken
  have unopened := mirrors.shut
  obtain ⟨faultless, seen, opened, sent⟩ := mirrors
  cases q with
  | now =>
    cases taken
    exact ⟨s, ⟨⟨n, rfl⟩, rfl⟩, faultless, seen, opened, sent⟩
  | wait d | cancel token =>
    cases taken
    exact ⟨s, rfl, faultless, seen, opened, sent⟩
  | check ctx =>
    cases taken
    refine ⟨s, ⟨?_, rfl⟩, faultless, seen, opened, sent⟩
    cases checked : ctx.check (moments n) with
    | ok u => exact .inl rfl
    | error e => exact .inr ⟨n, e, checked⟩
  | notify notice =>
    cases taken
    exact ⟨_, rfl, faultless, seen, opened, by simp [sent]⟩
  | begin ctx =>
    obtain ⟨e, late, rfl, rfl⟩ | ⟨tx, w, begun, rfl, rfl⟩ | ⟨e, w, begun, -, -⟩ :=
      perform_begin taken
    · exact ⟨s, ⟨⟨n, e, late⟩, .inl rfl⟩, faultless, seen, opened, sent⟩
    · rw [freed_store] at begun
      cases begun
      exact ⟨_, ⟨s.seen, rfl, rfl⟩, ⟨faultless.commits, faultless.rollbacks, faultless.transfers⟩,
        seen, congrArg some seen, sent⟩
    · cases begun
  | call ctx c =>
    obtain ⟨e, late, rfl, rfl⟩ | ⟨shut, rfl, rfl⟩ | ⟨tx, tx', w, held, called, rfl⟩ :=
      perform_call taken
    · cases held : s.opened with
      | none =>
        refine ⟨s, ?_, faultless, seen, opened, sent⟩
        simp [Standing.Takes, held]
      | some open' =>
        refine ⟨s, ?_, faultless, seen, opened, sent⟩
        simp only [Standing.Takes, held]
        exact ⟨open'.2, .inr ⟨⟨n, e, late⟩, ⟨e, rfl⟩, rfl⟩, by rw [← held]⟩
    · refine ⟨s, ?_, faultless, seen, opened, sent⟩
      simp [Standing.Takes, unopened shut]
    · obtain ⟨⟨b, l⟩, held', rfl⟩ := Option.map_eq_some_iff.1 (opened.trans held)
      obtain ⟨carried, faultless', kept⟩ := call_of_faultless (w := ⟨moments n, _⟩) faultless called
      refine ⟨{ s with opened := some (b, tx') }, ?_, faultless', seen.trans kept.symm, rfl, sent⟩
      simp only [Standing.Takes, held']
      exact ⟨tx', .inl carried, rfl⟩
  | commit =>
    obtain ⟨shut, rfl, rfl⟩ | ⟨tx, w, held, ended, rfl⟩ := perform_commit taken
    · exact ⟨_, ⟨.inl (unopened shut), rfl⟩, faultless, seen, shut.symm, sent⟩
    · obtain ⟨⟨b, l⟩, held', rfl⟩ := Option.map_eq_some_iff.1 (opened.trans held)
      cases (commit_faultless (w := ⟨moments n, _⟩) faultless l).symm.trans ended
      exact ⟨_, ⟨b, l, held', rfl⟩, ⟨faultless.1, faultless.2, faultless.3⟩, rfl, rfl, sent⟩
  | rollback =>
    obtain ⟨shut, rfl, rfl⟩ | ⟨tx, w, held, ended, rfl⟩ := perform_rollback taken
    · exact ⟨_, ⟨.inr (.inl (unopened shut)), rfl⟩, faultless, seen, shut.symm, sent⟩
    · cases (rollback_faultless (w := ⟨moments n, _⟩) faultless tx).symm.trans ended
      exact ⟨_, ⟨.inl rfl, rfl⟩, faultless, seen, rfl, sent⟩

/-- A run on the store, from outside any transaction, as the client sees it. -/
theorem along_alone {α : Type} (p : Procedure ν α) {world : World State}
    (faultless : world.data.Faultless) :
    ∃ s', Program.Along (Standing.Takes (alone moments)) ⟨world.data.committed, none, [], []⟩
        (store.runAmid (fun n w => { w with moment := moments n }) p world).trace s' ∧
      Mirrors (store.runAmid (fun n w => { w with moment := moments n }) p world).seat s' :=
  (along_runAmid (fun n _ => ⟨rfl, n, rfl⟩) p world).simulate takes_alone
    ⟨faultless, rfl, rfl, rfl⟩

/-! ## Fair and calm -/

/-- There is nobody who could be unfair. -/
theorem fair_alone (moments : Nat → Moment) : (alone moments).Fair where
  persists same := same ▸ .refl _
  schema same wf := same ▸ wf
  carries answered := answered.imp_right And.left

theorem check_withTimeout {ctx : Context} {m : Moment} {reading : Nat} {d : Duration}
    (allowed : ctx.check m = .ok ()) (early : m.now < reading + d.nanos) :
    (ctx.withTimeout reading d).check m = .ok () := by
  obtain ⟨principal, token, deadline⟩ := ctx
  unfold Context.check at allowed ⊢
  split at allowed
  · cases allowed
  · rename_i waiting
    rw [Context.withTimeout, Context.withDeadline, if_neg waiting]
    cases deadline with
    | none => exact if_neg (Nat.not_le.2 early)
    | some current =>
      dsimp only at allowed ⊢
      split at allowed
      · cases allowed
      · rename_i inTime
        by_cases tighter : current < reading + d.nanos
        · rw [if_pos tighter, if_neg inTime]
        · rw [if_neg tighter, if_neg (Nat.not_le.2 early)]

/-- A client that is alone has calm surroundings as long as its context allows, and its timeout is
longer than the clock moves. -/
theorem calm_alone {c : Coordinator} {ctx : Context}
    (allowed : ∀ n, ctx.check (moments n) = .ok ())
    (early : ∀ d, c.timeout = some d → ∀ n m, (moments n).now < (moments m).now + d.nanos) :
    c.CalmFor (alone moments) ctx := by
  rintro ctx' (⟨-, rfl⟩ | ⟨d, reading, limit, ⟨m, rfl⟩, rfl⟩)
  · refine ⟨id, ?_, id⟩
    rintro ⟨n, e, late⟩
    cases (allowed n).symm.trans late
  · refine ⟨id, ?_, id⟩
    rintro ⟨n, e, late⟩
    cases (check_withTimeout (allowed n) (early d limit n m)).symm.trans late

/-- A clock that stops after forty nanoseconds is early for anyone who has a second. -/
theorem early_of_stopped (d : Duration) (limit : some (Duration.ofMillis 1000) = some d)
    (n m : Nat) : min n 40 < min m 40 + d.nanos := by
  cases limit
  simp only [Duration.ofMillis]
  omega

end DoubleEntry.Memory
