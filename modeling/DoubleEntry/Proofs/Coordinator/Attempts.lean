import DoubleEntry.Coordinator
import DoubleEntry.Proofs.Store.Keeping

/-!
# The attempts of a coordinator

How the run of a job looks from outside, whatever its surroundings answer.  `Attempted` lists the
five ways of a single attempt, from its beginning to its end; `Tried` puts the attempts of a whole
run one after another.  `runs_attempt` and `runs_attempts` say that there are no other ways.

`outlasts_runJob` sums up what outlasts a run: if it succeeds, one commit and the notices of the
committed attempt, all at the end; if it fails, nothing.

What a coordinator does between the attempts has nothing to do with transactions (`Step.Aside`).
-/

namespace DoubleEntry

open Program

/-- The steps of a unit of work, with their answers. -/
abbrev Work.Record (ν : Type) : Type := List ((s : WorkStep ν) × s.Answer)

namespace Work.Record

variable {ν : Type}

/-- The steps on the store that carry out the steps of a unit of work. -/
def enacted (ctx : Context) : Record ν → Procedure.Trace ν
  | [] => []
  | ⟨.call c, outcome⟩ :: rest => ⟨.call ctx c, outcome⟩ :: enacted ctx rest
  | ⟨.onCommit _, _⟩ :: rest => enacted ctx rest
  | ⟨.wait d, _⟩ :: rest => ⟨.wait d, ()⟩ :: enacted ctx rest
  | ⟨.cancel token, _⟩ :: rest => ⟨.cancel token, ()⟩ :: enacted ctx rest

/-- The notices that a unit of work registered, in this order. -/
def registered : Record ν → List ν
  | [] => []
  | ⟨.onCommit notice, _⟩ :: rest => notice :: registered rest
  | _ :: rest => registered rest

/-- The steps on the store that carry out a unit of work and commit it. -/
def committing (ctx : Context) (steps : Record ν) : Procedure.Trace ν :=
  ⟨.begin ctx, .ok ()⟩ :: (steps.enacted ctx ++ [⟨.check ctx, .ok ()⟩, ⟨.commit, .ok ()⟩])

@[simp] theorem passing_enacted (ctx : Context) (steps : Record ν) :
    Store.Passing (steps.enacted ctx) := by
  induction steps with
  | nil => exact Store.passing_nil
  | cons s rest ih => rcases s with ⟨⟨⟩, _⟩ <;> simpa [enacted, Store.Lasting] using ih

theorem publications_committing (ctx : Context) (steps : Record ν) :
    Store.publications (steps.committing ctx) = 1 := by
  have quiet := Store.publications_of_passing (passing_enacted ctx steps)
  rw [Store.publications] at quiet ⊢
  simp [committing, Store.isPublication, quiet]

end Work.Record

/-- A step that has nothing to do with a transaction. -/
def Step.Aside {ν : Type} : Step ν → Prop
  | .call .. | .begin _ | .commit | .rollback => False
  | _ => True

/-- The failure of an attempt whose work has failed, by the outcome of its rollback. -/
def Coordinator.abandoned (cause : Error) : Except Error Unit → Error
  | .ok () => cause
  | .error rollback => .transactionAbort cause rollback

namespace Coordinator

variable {κ ν α : Type} {ctx : Context} {job : Job κ ν α}

open Work.Record Store

/-! ## A single attempt -/

/-- The ways of an attempt: the steps it takes, its outcome with the notices to be sent, and the
state it leaves. -/
inductive Attempted (ctx : Context) (job : Job κ ν α) (state : κ) :
    Procedure.Trace ν → Except Error (α × List ν) → κ → Prop
  /-- No transaction was opened. -/
  | refused (e : Error) : Attempted ctx job state [⟨.begin ctx, .error e⟩] (.error e) state
  /-- The work failed. -/
  | failed {steps : Work.Record ν} {cause : Error} {state' : κ}
      (work : (job state).Runs steps (.error cause, state')) (ended : Except Error Unit) :
      Attempted ctx job state
        (⟨.begin ctx, .ok ()⟩ :: (steps.enacted ctx ++ [⟨.rollback, ended⟩]))
        (.error (abandoned cause ended)) state'
  /-- The work succeeded, but its context no longer allows it. -/
  | cancelled {steps : Work.Record ν} {value : α} {state' : κ}
      (work : (job state).Runs steps (.ok value, state')) (cause : Error)
      (ended : Except Error Unit) :
      Attempted ctx job state
        (⟨.begin ctx, .ok ()⟩ ::
          (steps.enacted ctx ++ [⟨.check ctx, .error cause⟩, ⟨.rollback, ended⟩]))
        (.error (abandoned cause ended)) state'
  /-- The work succeeded, but could not be committed. -/
  | conflicted {steps : Work.Record ν} {value : α} {state' : κ}
      (work : (job state).Runs steps (.ok value, state')) (e : Error) :
      Attempted ctx job state
        (⟨.begin ctx, .ok ()⟩ :: (steps.enacted ctx ++ [⟨.check ctx, .ok ()⟩, ⟨.commit, .error e⟩]))
        (.error e) state'
  /-- The work succeeded and was committed. -/
  | committed {steps : Work.Record ν} {value : α} {state' : κ}
      (work : (job state).Runs steps (.ok value, state')) :
      Attempted ctx job state (steps.committing ctx) (.ok (value, steps.registered)) state'

/-- Carrying out work takes the steps that enact it, and gathers the notices it registers. -/
theorem runs_carryOut {work : Work ν α} {notices notices' : List ν} {trace : Procedure.Trace ν}
    {value : α} (run : (carryOut ctx notices work).Runs trace (value, notices')) :
    ∃ steps : Work.Record ν, work.Runs steps value ∧ trace = steps.enacted ctx ∧
      notices' = notices ++ steps.registered := by
  induction work generalizing notices trace with
  | done a =>
    obtain ⟨rfl, ends⟩ := run
    cases ends
    exact ⟨[], ⟨rfl, rfl⟩, rfl, by simp [registered]⟩
  | ask s next ih =>
    cases s with
    | onCommit notice =>
      obtain ⟨steps, asked, rfl, rfl⟩ := ih () run
      exact ⟨⟨.onCommit notice, ()⟩ :: steps, ⟨(), steps, rfl, asked⟩, rfl, by simp [registered]⟩
    | call c =>
      obtain ⟨outcome, rest, rfl, later⟩ := run
      obtain ⟨steps, asked, rfl, rfl⟩ := ih outcome later
      exact ⟨⟨.call c, outcome⟩ :: steps, ⟨outcome, steps, rfl, asked⟩, rfl, rfl⟩
    | wait d =>
      obtain ⟨_, rest, rfl, later⟩ := run
      obtain ⟨steps, asked, rfl, rfl⟩ := ih () later
      exact ⟨⟨.wait d, ()⟩ :: steps, ⟨(), steps, rfl, asked⟩, rfl, rfl⟩
    | cancel token =>
      obtain ⟨_, rest, rfl, later⟩ := run
      obtain ⟨steps, asked, rfl, rfl⟩ := ih () later
      exact ⟨⟨.cancel token, ()⟩ :: steps, ⟨(), steps, rfl, asked⟩, rfl, rfl⟩

theorem runs_abandon {cause e : Error} {trace : Procedure.Trace ν}
    (run : (abandon cause).Runs trace e) :
    ∃ ended, trace = [⟨.rollback, ended⟩] ∧ e = abandoned cause ended := by
  obtain ⟨_, ended, after, rfl, first, last⟩ := runs_bind.1 run
  obtain rfl := runs_question.1 first
  rcases ended with rollback | ⟨⟩ <;> obtain ⟨rfl, rfl⟩ := last <;> exact ⟨_, rfl, rfl⟩

/-- Concluding an attempt either gives the transaction up, by the failure of its work or of its
context, or tries to commit it. -/
theorem runs_conclude {worked : Except Error α} {notices : List ν} {trace : Procedure.Trace ν}
    {outcome : Except Error (α × List ν)} (run : (conclude ctx worked notices).Runs trace outcome) :
    (∃ cause ended, worked = .error cause ∧ trace = [⟨.rollback, ended⟩] ∧
        outcome = .error (abandoned cause ended)) ∨
      (∃ value cause ended, worked = .ok value ∧
        trace = [⟨.check ctx, .error cause⟩, ⟨.rollback, ended⟩] ∧
        outcome = .error (abandoned cause ended)) ∨
      (∃ value e, worked = .ok value ∧ trace = [⟨.check ctx, .ok ()⟩, ⟨.commit, .error e⟩] ∧
        outcome = .error e) ∨
      (∃ value, worked = .ok value ∧ trace = [⟨.check ctx, .ok ()⟩, ⟨.commit, .ok ()⟩] ∧
        outcome = .ok (value, notices)) := by
  rcases worked with cause | value
  · obtain ⟨_, e, _, rfl, dropped, rfl, rfl⟩ := runs_bind.1 run
    obtain ⟨ended, rfl, rfl⟩ := runs_abandon dropped
    exact .inl ⟨cause, ended, rfl, rfl, rfl⟩
  · obtain ⟨_, checked, _, rfl, first, later⟩ := runs_bind.1 run
    obtain rfl := runs_question.1 first
    rcases checked with cause | ⟨⟩
    · obtain ⟨_, e, _, rfl, dropped, rfl, rfl⟩ := runs_bind.1 later
      obtain ⟨ended, rfl, rfl⟩ := runs_abandon dropped
      exact .inr (.inl ⟨value, cause, ended, rfl, rfl, rfl⟩)
    · obtain ⟨_, published, _, rfl, commit, last⟩ := runs_bind.1 later
      obtain rfl := runs_question.1 commit
      rcases published with e | ⟨⟩ <;> obtain ⟨rfl, rfl⟩ := last
      · exact .inr (.inr (.inl ⟨value, e, rfl, rfl, rfl⟩))
      · exact .inr (.inr (.inr ⟨value, rfl, rfl, rfl⟩))

/-- There are no other ways of an attempt. -/
theorem runs_attempt {state state' : κ} {trace : Procedure.Trace ν}
    {outcome : Except Error (α × List ν)}
    (run : (attempt ctx job state).Runs trace (outcome, state')) :
    Attempted ctx job state trace outcome state' := by
  obtain ⟨_, begun, after, rfl, first, later⟩ := runs_bind.1 run
  obtain rfl := runs_question.1 first
  rcases begun with e | ⟨⟩
  · obtain ⟨rfl, ends⟩ := later
    cases ends
    exact .refused e
  · obtain ⟨_, ⟨⟨worked, left⟩, notices⟩, _, rfl, carried, closing⟩ := runs_bind.1 later
    obtain ⟨steps, work, rfl, rfl⟩ := runs_carryOut carried
    obtain ⟨_, concluded, _, rfl, closed, rfl, ends⟩ := runs_bind.1 closing
    cases ends
    rw [List.append_nil]
    obtain ⟨cause, ended, rfl, rfl, rfl⟩ | ⟨value, cause, ended, rfl, rfl, rfl⟩ |
      ⟨value, e, rfl, rfl, rfl⟩ | ⟨value, rfl, rfl, rfl⟩ := runs_conclude closed
    · exact .failed work ended
    · exact .cancelled work cause ended
    · exact .conflicted work e
    · exact .committed work

/-- An attempt that fails leaves nothing that outlasts it. -/
theorem Attempted.passing {state state' : κ} {trace : Procedure.Trace ν} {e : Error}
    (run : Attempted ctx job state trace (.error e) state') : Passing trace := by
  cases run <;> simp [Lasting]

/-- An attempt that succeeds is the one way that ends with a commit. -/
theorem Attempted.steps_of_ok {state state' : κ} {trace : Procedure.Trace ν} {value : α}
    {notices : List ν} (run : Attempted ctx job state trace (.ok (value, notices)) state') :
    ∃ steps : Work.Record ν, (job state).Runs steps (.ok value, state') ∧
      trace = steps.committing ctx ∧ notices = steps.registered := by
  cases run with
  | committed work => exact ⟨_, work, rfl, rfl⟩

/-! ## All attempts -/

theorem runs_pause {d : Duration} {trace : Procedure.Trace ν} {answer : Except Error Unit}
    (run : (pause ctx d).Runs trace answer) :
    trace = [⟨.check ctx, answer⟩] ∨
      trace = [⟨.check ctx, .ok ()⟩, ⟨.wait d, ()⟩, ⟨.check ctx, answer⟩] := by
  obtain ⟨_, checked, _, rfl, first, later⟩ := runs_bind.1 run
  obtain rfl := runs_question.1 first
  rcases checked with e | ⟨⟩
  · obtain ⟨rfl, rfl⟩ := later
    exact .inl rfl
  · dsimp only at later
    split at later
    · obtain ⟨rfl, rfl⟩ := later
      exact .inl rfl
    · obtain ⟨_, ⟨⟩, _, rfl, waited, last⟩ := runs_bind.1 later
      obtain rfl := runs_question.1 waited
      obtain rfl := runs_question.1 last
      exact .inr rfl

theorem passing_of_pause {d : Duration} {trace : Procedure.Trace ν} {answer : Except Error Unit}
    (run : (pause ctx d).Runs trace answer) : Passing trace := by
  obtain rfl | rfl := runs_pause run <;> simp [Lasting]

theorem runs_notifyAll {notices : List ν} {trace : Procedure.Trace ν} {u : Unit}
    (run : (notifyAll notices).Runs trace u) : trace = notified notices := by
  induction notices generalizing trace with
  | nil => exact run.1
  | cons notice rest ih =>
    obtain ⟨_, ⟨⟩, _, rfl, sent, later⟩ := runs_bind.1 run
    obtain rfl := runs_question.1 sent
    rw [ih later]
    rfl

/-- The ways of trying a job for the `n`-th time, and after a transient failure up to `retries` more
times: the steps, the outcome, and the state of the job afterwards. -/
inductive Tried (c : Coordinator) (ctx : Context) (job : Job κ ν α) :
    (retries n : Nat) → κ → Procedure.Trace ν → Except Error α → κ → Prop
  /-- The attempt succeeded. -/
  | succeeded {retries n : Nat} {state state' : κ} {trace : Procedure.Trace ν} {value : α}
      {notices : List ν} (last : Attempted ctx job state trace (.ok (value, notices)) state') :
      Tried c ctx job retries n state (trace ++ notified notices) (.ok value) state'
  /-- The attempt failed, and it was the last. -/
  | gaveUp {retries n : Nat} {state state' : κ} {trace : Procedure.Trace ν} {e : Error}
      (last : Attempted ctx job state trace (.error e) state')
      (final : retries = 0 ∨ e.isTransient = false) :
      Tried c ctx job retries n state trace (.error e) state'
  /-- The context ran out in the pause after an attempt that failed. -/
  | interrupted {more n : Nat} {state state' : κ} {trace waiting : Procedure.Trace ν}
      {e late : Error} (last : Attempted ctx job state trace (.error e) state')
      (transient : e.isTransient = true)
      (paused : (pause ctx (c.policy.delay n (c.draw n))).Runs waiting (.error late)) :
      Tried c ctx job (more + 1) n state (trace ++ waiting) (.error late) state'
  /-- The attempt failed, and the job was tried again. -/
  | again {more n : Nat} {state between state' : κ} {trace waiting rest : Procedure.Trace ν}
      {e : Error} {outcome : Except Error α}
      (first : Attempted ctx job state trace (.error e) between) (transient : e.isTransient = true)
      (paused : (pause ctx (c.policy.delay n (c.draw n))).Runs waiting (.ok ()))
      (later : Tried c ctx job more (n + 1) between rest outcome state') :
      Tried c ctx job (more + 1) n state (trace ++ (waiting ++ rest)) outcome state'

/-- There are no other ways of trying a job. -/
theorem runs_attempts {c : Coordinator} {retries n : Nat} {state state' : κ}
    {trace : Procedure.Trace ν} {outcome : Except Error α}
    (run : (c.attempts ctx job retries n state).Runs trace (outcome, state')) :
    Tried c ctx job retries n state trace outcome state' := by
  induction retries generalizing n state trace with
  | zero =>
    rw [attempts] at run
    obtain ⟨_, ⟨result, left⟩, _, rfl, tried, later⟩ := runs_bind.1 run
    have attempted := runs_attempt tried
    rcases result with e | ⟨value, notices⟩
    · obtain ⟨rfl, ends⟩ := later
      cases ends
      rw [List.append_nil]
      exact .gaveUp attempted (.inl rfl)
    · obtain ⟨_, ⟨⟩, _, rfl, sent, rfl, ends⟩ := runs_bind.1 later
      cases ends
      rw [runs_notifyAll sent, List.append_nil]
      exact .succeeded attempted
  | succ more ih =>
    rw [attempts] at run
    obtain ⟨_, ⟨result, left⟩, _, rfl, tried, later⟩ := runs_bind.1 run
    have attempted := runs_attempt tried
    rcases result with e | ⟨value, notices⟩
    · dsimp only at later
      split at later
      · rename_i transient
        obtain ⟨_, answer, _, rfl, paused, rest⟩ := runs_bind.1 later
        rcases answer with late | ⟨⟩
        · obtain ⟨rfl, ends⟩ := rest
          cases ends
          rw [List.append_nil]
          exact .interrupted attempted transient paused
        · exact .again attempted transient paused (ih rest)
      · rename_i lasting
        obtain ⟨rfl, ends⟩ := later
        cases ends
        rw [List.append_nil]
        exact .gaveUp attempted (.inr (Bool.eq_false_iff.2 lasting))
    · obtain ⟨_, ⟨⟩, _, rfl, sent, rfl, ends⟩ := runs_bind.1 later
      cases ends
      rw [runs_notifyAll sent, List.append_nil]
      exact .succeeded attempted

/-- What outlasts the run of a job, tried several times or not: if it succeeds, one commit and the
notices of the committed attempt at the end; if it fails, nothing. -/
def Outlasts (ctx : Context) (job : Job κ ν α) (trace : Procedure.Trace ν) :
    Except Error α → κ → Prop
  | .ok value, state' => ∃ tried, ∃ steps : Work.Record ν, ∃ state, Passing tried ∧
      (job state).Runs steps (.ok value, state') ∧
      trace = tried ++ (steps.committing ctx ++ notified steps.registered)
  | .error _, _ => Passing trace

theorem Outlasts.append {earlier trace : Procedure.Trace ν} {outcome : Except Error α} {state : κ}
    (passing : Passing earlier) (outlasts : Outlasts ctx job trace outcome state) :
    Outlasts ctx job (earlier ++ trace) outcome state := by
  rcases outcome with e | value
  · exact passing_append.2 ⟨passing, outlasts⟩
  · obtain ⟨tried, steps, state₁, passed, work, rfl⟩ := outlasts
    exact ⟨earlier ++ tried, steps, state₁, passing_append.2 ⟨passing, passed⟩, work,
      (List.append_assoc ..).symm⟩

theorem Tried.outlasts {c : Coordinator} {retries n : Nat} {state state' : κ}
    {trace : Procedure.Trace ν} {outcome : Except Error α}
    (tried : Tried c ctx job retries n state trace outcome state') :
    Outlasts ctx job trace outcome state' := by
  induction tried with
  | succeeded last =>
    obtain ⟨steps, work, rfl, rfl⟩ := last.steps_of_ok
    exact ⟨[], steps, _, passing_nil, work, rfl⟩
  | gaveUp last _ => exact last.passing
  | interrupted last _ paused =>
    exact passing_append.2 ⟨last.passing, passing_of_pause paused⟩
  | again first _ paused _ ih => exact .append first.passing (.append (passing_of_pause paused) ih)

/-! ## Whole runs -/

theorem runs_limited {c : Coordinator} {ctx ctx' : Context} {trace : Procedure.Trace ν}
    (run : (c.limited ctx).Runs trace ctx') :
    (c.timeout = none ∧ trace = [] ∧ ctx' = ctx) ∨
      (∃ d reading, c.timeout = some d ∧ trace = [⟨.now, reading⟩] ∧
        ctx' = ctx.withTimeout reading d) := by
  unfold limited at run
  split at run
  · rename_i d limit
    obtain ⟨_, reading, _, rfl, looked, rfl, rfl⟩ := runs_bind.1 run
    obtain rfl := runs_question.1 looked
    exact .inr ⟨d, reading, limit, rfl, rfl⟩
  · rename_i limitless
    obtain ⟨rfl, rfl⟩ := run
    exact .inl ⟨limitless, rfl, rfl⟩

/-- The run of a job looks at the clock if it has a timeout, and then tries the job. -/
theorem runs_runJob {c : Coordinator} {ctx : Context} {state state' : κ}
    {trace : Procedure.Trace ν} {outcome : Except Error α}
    (run : (c.runJob ctx job state).Runs trace (outcome, state')) :
    ∃ ctx' looking tries, trace = looking ++ tries ∧
      (c.limited ctx : Procedure ν Context).Runs looking ctx' ∧
      Tried c ctx' job (c.policy.maxAttempts - 1) 1 state tries outcome state' := by
  obtain ⟨looking, ctx', tries, rfl, limited, tried⟩ := runs_bind.1 run
  exact ⟨ctx', looking, tries, rfl, limited, runs_attempts tried⟩

/-- What outlasts the run of a job. -/
theorem outlasts_runJob {c : Coordinator} {ctx : Context} {state state' : κ}
    {trace : Procedure.Trace ν} {outcome : Except Error α}
    (run : (c.runJob ctx job state).Runs trace (outcome, state')) :
    ∃ ctx', Outlasts ctx' job trace outcome state' := by
  obtain ⟨ctx', looking, tries, rfl, limited, tried⟩ := runs_runJob run
  refine ⟨ctx', .append ?_ tried.outlasts⟩
  obtain ⟨-, rfl, -⟩ | ⟨d, reading, -, rfl, -⟩ := runs_limited limited <;> simp [Lasting]

/-! ## Between the transactions -/

theorem aside_limited (c : Coordinator) (ctx : Context) :
    (c.limited ctx : Procedure ν Context).AsksOnly Step.Aside := by
  unfold limited
  split
  · exact ⟨trivial, fun _ => trivial⟩
  · exact trivial

theorem aside_pause (d : Duration) : (pause ctx d : Procedure ν _).AsksOnly Step.Aside := by
  refine ⟨trivial, fun checked => ?_⟩
  cases checked with
  | error e => exact trivial
  | ok u =>
    show AsksOnly _ (if d = .zero then pure (.ok ()) else _ : Procedure ν (Except Error Unit))
    split
    · exact trivial
    · exact ⟨trivial, fun _ => ⟨trivial, fun _ => trivial⟩⟩

theorem aside_notifyAll (notices : List ν) : (notifyAll notices).AsksOnly Step.Aside := by
  induction notices with
  | nil => exact trivial
  | cons notice rest ih => exact ⟨trivial, fun _ => ih⟩

end Coordinator
end DoubleEntry
