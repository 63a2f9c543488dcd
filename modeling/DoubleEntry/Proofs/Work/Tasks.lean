import DoubleEntry.Proofs.Work.OnLedger

/-!
# Tasks on a ledger

How the parts of a task are done on a bench, one lemma for each way of putting tasks together, and
what a task that succeeds must have been told on the way: it stops at its first failure, so every
call of it was answered (`Task.Strict`).
-/

namespace DoubleEntry

open Program Work

/-! ## Answers without failures -/

namespace Work.Record

variable {ν : Type}

/-- Every call was answered by the ledger: it did not fail, and its answer is not a report. -/
def Answered (steps : Record ν) : Prop :=
  ∀ c outcome, ⟨.call c, outcome⟩ ∈ steps → ¬ Ledger.Feigned c outcome

theorem answered_nil : Answered ([] : Record ν) :=
  fun _ _ mem => absurd mem List.not_mem_nil

theorem Answered.append {before after : Record ν} (first : before.Answered)
    (later : after.Answered) : Answered (before ++ after) := by
  intro c outcome mem
  rcases List.mem_append.1 mem with mem | mem
  · exact first c outcome mem
  · exact later c outcome mem

/-- Where every call was answered by the ledger, no fault took effect. -/
theorem Answered.along {steps : Record ν} {l l' : Ledger} (answered : steps.Answered)
    (way : Along (Acts Ledger.CarriesOutAmidFaults) l steps l') :
    Along (Acts Ledger.CarriesOut) l steps l' := by
  refine way.mono fun ⟨q, answer⟩ mem l l' taken => ?_
  cases q with
  | call c => exact taken.resolve_right fun fault => answered c answer mem fault.1
  | onCommit notice | wait d | cancel token => exact taken

end Work.Record

namespace Task

variable {ν α β : Type}

/-! ## Doing tasks -/

/-- Do a task on a bench. -/
def on (task : Task ν α) (b : Bench ν) : Except Error α × Bench ν :=
  task.run.exec Bench.answer b

theorem on_pure (a : α) (b : Bench ν) : (pure a : Task ν α).on b = (.ok a, b) := rfl

theorem on_throw (e : Error) (b : Bench ν) : (throw e : Task ν α).on b = (.error e, b) := rfl

theorem on_call (c : Call) (b : Bench ν) :
    (call c : Task ν c.Answer).on b = ((Memory.onLedger (b.times 0) b.ledger c).1, b.after c) := rfl

variable {x : Task ν α} {f : α → Task ν β} {b b' : Bench ν}

theorem on_bind_ok {a : α} (done : x.on b = (.ok a, b')) : (x >>= f).on b = (f a).on b' := by
  show (x.run >>= ExceptT.bindCont f).exec Bench.answer b = _
  rw [exec_bind, show x.run.exec Bench.answer b = (.ok a, b') from done]
  rfl

theorem on_bind_error {e : Error} (failed : x.on b = (.error e, b')) :
    (x >>= f).on b = (.error e, b') := by
  show (x.run >>= ExceptT.bindCont f).exec Bench.answer b = _
  rw [exec_bind, show x.run.exec Bench.answer b = (.error e, b') from failed]
  rfl

theorem on_call_of {c : Call} {outcome : c.Outcome} {l l' : Ledger} {times : Nat → Timestamp}
    {notices : List ν} (called : Memory.onLedger (times 0) l c = (outcome, l')) :
    (call c : Task ν c.Answer).on ⟨l, times, notices⟩ =
      (outcome, ⟨l', fun n => times (n + 1), notices⟩) := by
  rw [on_call, Bench.after, called]

/-! ### Claims -/

section Claims

variable {l : Ledger} {id first second : Int} {a a' : Account} {times : Nat → Timestamp}
  {notices : List ν}

theorem lockPair_of_eq (same : first = second) :
    (lockPair first second : Task ν (Account × Account)) =
      throw (.validation "cannot lock the same account twice") := by
  unfold lockPair
  rw [if_pos same]
  rfl

theorem lockPair_of_ne (apart : first ≠ second) :
    (lockPair first second : Task ν (Account × Account)) =
      call (.claim (min first second)) >>= fun low =>
        call (.claim (max first second)) >>= fun high =>
          pure (if first < second then (low, high) else (high, low)) := by
  unfold lockPair
  rw [if_neg apart]

theorem on_claim (found : l.account? id = some a) :
    (call (.claim id) : Task ν Account).on ⟨l, times, notices⟩ =
      (.ok a, ⟨l, fun n => times (n + 1), notices⟩) :=
  on_call_of (Prod.ext (Ledger.getAccount_of_found found) rfl)

theorem on_claim_missing (missing : l.account? id = none) :
    (call (.claim id) : Task ν Account).on ⟨l, times, notices⟩ =
      (.error (.noAccount id), ⟨l, fun n => times (n + 1), notices⟩) :=
  on_call_of (Prod.ext (Ledger.getAccount_of_missing missing) rfl)

/-- Two accounts are claimed in the order of their ids, and given back in the order asked for. -/
theorem on_lockPair (apart : first ≠ second) (foundFirst : l.account? first = some a)
    (foundSecond : l.account? second = some a') :
    (lockPair first second : Task ν (Account × Account)).on ⟨l, times, notices⟩ =
      (.ok (a, a'), ⟨l, fun n => times (n + 2), notices⟩) := by
  rw [lockPair_of_ne apart]
  by_cases below : first < second
  · rw [Int.min_eq_left (Int.le_of_lt below), Int.max_eq_right (Int.le_of_lt below),
      on_bind_ok (on_claim foundFirst), on_bind_ok (on_claim foundSecond), if_pos below]
    rfl
  · rw [Int.min_eq_right (Int.not_lt.1 below), Int.max_eq_left (Int.not_lt.1 below),
      on_bind_ok (on_claim foundSecond), on_bind_ok (on_claim foundFirst), if_neg below]
    rfl

/-- Accounts are not claimed if one of them is missing. -/
theorem on_lockPair_missing (missing : l.account? first = none ∨ l.account? second = none) :
    ∃ e b, (lockPair first second : Task ν (Account × Account)).on ⟨l, times, notices⟩ =
      (.error e, b) := by
  by_cases same : first = second
  · rw [lockPair_of_eq same]
    exact ⟨_, _, on_throw _ _⟩
  · rw [lockPair_of_ne same]
    have either : l.account? (min first second) = none ∨ l.account? (max first second) = none := by
      rcases Int.le_total first second with le | le
      · rwa [Int.min_eq_left le, Int.max_eq_right le]
      · rw [Int.min_eq_right le, Int.max_eq_left le]
        exact missing.symm
    cases low : l.account? (min first second) with
    | none => exact ⟨_, _, on_bind_error (on_claim_missing low)⟩
    | some a =>
      have high := either.resolve_left (by simp [low])
      exact ⟨_, _, (on_bind_ok (on_claim low)).trans (on_bind_error (on_claim_missing high))⟩

end Claims

/-! ## Tasks that succeed -/

/-- A task that succeeds only if every call of it was answered. -/
def Strict (x : Task ν α) : Prop :=
  ∀ (steps : Record ν) (a : α), x.run.Runs steps (.ok a) → steps.Answered

theorem strict_pure (a : α) : (pure a : Task ν α).Strict := by
  rintro steps _ ⟨rfl, -⟩
  exact Record.answered_nil

theorem strict_throw (e : Error) : (throw e : Task ν α).Strict := by
  rintro steps _ ⟨-, ends⟩
  cases ends

theorem strict_call {c : Call} (plain : c.isReport = false) :
    (call c : Task ν c.Answer).Strict := by
  rintro steps a run
  obtain rfl := runs_question.1 run
  intro c' outcome mem
  cases List.mem_singleton.1 mem
  rintro (⟨e, failed⟩ | report)
  · cases failed
  · cases plain.symm.trans report

theorem strict_bind (first : x.Strict) (later : ∀ a, (f a).Strict) : (x >>= f).Strict := by
  intro steps value run
  obtain ⟨e, -, ends⟩ | ⟨before, a, after, rfl, ran, rest⟩ := runs_exceptBind run
  · cases ends
  · exact (first before a ran).append (later a after value rest)

theorem strict_lockPair (first second : Int) :
    (lockPair first second : Task ν (Account × Account)).Strict := by
  by_cases same : first = second
  · rw [lockPair_of_eq same]
    exact strict_throw _
  · rw [lockPair_of_ne same]
    exact strict_bind (strict_call rfl) fun _ => strict_bind (strict_call rfl) fun _ =>
      strict_pure _

end Task

/-! ## Tasks as jobs -/

section Jobs

variable {ν α : Type} {task : Task ν α}

theorem runs_ofTask {steps : Record ν} {outcome : Except Error α} :
    (Job.ofTask task ()).Runs steps (outcome, ()) ↔ task.run.Runs steps outcome := by
  constructor
  · intro run
    obtain ⟨before, done, after, rfl, ran, rfl, ends⟩ := runs_bind.1 run
    cases ends
    rwa [List.append_nil]
  · intro run
    exact runs_bind.2 ⟨steps, outcome, [], (List.append_nil _).symm, run, rfl, rfl⟩

end Jobs

end DoubleEntry
