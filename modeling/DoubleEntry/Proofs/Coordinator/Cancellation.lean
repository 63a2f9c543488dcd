import DoubleEntry.Proofs.Coordinator.Atomicity
import DoubleEntry.Proofs.Coordinator.Discipline

/-!
# Cancellation

A run of a job can be cut before any of its steps, and its context may be over from there on: its
token has been cancelled, by whomever, or its deadline is reached.  Unless the work has passed its
last check by then, the run is called off, whatever the work does:

* `Store.Keeping.Withdraws` — a step that reaches the store only if it is a rollback;
* `Store.Keeping.Cut` — a way through the steps of a run, cut in two;
* `Store.Keeping.CalledOff` — what becomes of the run: no call, no beginning and no commit reaches
  the store any more, the transaction that may be open is rolled back, and the run fails.

`Tried.cut` reads off the steps of a run how it goes on after a cut, and `runJob_called_off` is the
main result.
-/

namespace DoubleEntry

open Program

/-! ## Steps in a context that is over -/

namespace Step

variable {ν : Type}

/-- The context that guards a step. -/
def guard? : Step ν → Option Context
  | .check ctx => some ctx
  | .begin ctx => some ctx
  | .call ctx _ => some ctx
  | _ => none

/-- Whether a step is one by which a run takes effect: the commit, and the notices that follow. -/
def takesEffect : Step ν → Bool
  | .commit => true
  | .notify _ => true
  | _ => false

end Step

namespace Store

variable {ν : Type} {ctx : Context}

/-- A step that a context guards was turned down. -/
def Declined : (q : Step ν) × q.Answer → Prop
  | ⟨.check _, answer⟩ => ∃ reason, answer = .error (.cancelled reason)
  | ⟨.begin _, answer⟩ => ∃ reason, answer = .error (.cancelled reason)
  | ⟨.call _ _, answer⟩ => ∃ reason, answer = .error (.cancelled reason)
  | _ => True

/-- The steps are guarded by no other context. -/
def Under (ctx : Context) (trace : Procedure.Trace ν) : Prop :=
  ∀ e ∈ trace, ∀ ctx', e.1.guard? = some ctx' → ctx' = ctx

@[simp] theorem under_nil : Under ctx ([] : Procedure.Trace ν) :=
  List.forall_mem_nil _

@[simp] theorem under_cons {e : (q : Step ν) × q.Answer} {rest : Procedure.Trace ν} :
    Under ctx (e :: rest) ↔ (∀ ctx', e.1.guard? = some ctx' → ctx' = ctx) ∧ Under ctx rest :=
  List.forall_mem_cons

@[simp] theorem under_append {before after : Procedure.Trace ν} :
    Under ctx (before ++ after) ↔ Under ctx before ∧ Under ctx after :=
  List.forall_mem_append

@[simp] theorem under_notified (notices : List ν) : Under ctx (notified notices) := by
  intro e mem
  obtain ⟨notice, -, rfl⟩ := List.mem_map.1 mem
  exact nofun

theorem declined_of_takesOver {σ τ : Type} {store : Store σ τ} {stirs : World σ → World σ → Prop}
    {seat seat' : Seat σ τ ν} {q : Step ν} {answer : q.Answer}
    (taken : store.TakesOver stirs ctx seat q answer seat')
    (guarded : ∀ ctx', q.guard? = some ctx' → ctx' = ctx) : Declined ⟨q, answer⟩ := by
  obtain ⟨w, -, past, taken⟩ := taken
  obtain ⟨reason, failed⟩ := past.check
  cases q with
  | now | wait d | cancel token | notify notice | commit | rollback => exact trivial
  | check ctx' | begin ctx' | call ctx' c =>
    obtain rfl := guarded ctx' rfl
    simp only [perform, failed] at taken
    exact ⟨reason, (congrArg Prod.fst taken).symm⟩

theorem check_not_mem_of_declined {after : Procedure.Trace ν}
    (declined : ∀ e ∈ after, Declined e) : ⟨.check ctx, .ok ()⟩ ∉ after := by
  intro mem
  obtain ⟨reason, passed⟩ := declined _ mem
  cases passed

theorem begin_not_mem_of_declined {after : Procedure.Trace ν}
    (declined : ∀ e ∈ after, Declined e) : ⟨.begin ctx, .ok ()⟩ ∉ after := by
  intro mem
  obtain ⟨reason, passed⟩ := declined _ mem
  cases passed

/-- The next step is none by which a run takes effect. -/
def InTime (after : Procedure.Trace ν) : Prop :=
  ∃ e rest, after = e :: rest ∧ e.1.takesEffect = false

theorem InTime.ne_nil {after : Procedure.Trace ν} (inTime : InTime after) : after ≠ [] := by
  obtain ⟨e, rest, rfl, -⟩ := inTime
  exact List.cons_ne_nil _ _

theorem InTime.of_append {after later : Procedure.Trace ν} (inTime : InTime (after ++ later))
    (some : after ≠ []) : InTime after := by
  obtain ⟨e, rest, eq, early⟩ := inTime
  cases after with
  | nil => exact absurd rfl some
  | cons e' rest' =>
    cases eq
    exact ⟨e, rest', rfl, early⟩

end Store

/-! ## Cuts -/

section Cuts

variable {β : Type} {first second before after : List β}

/-- A cut falls into the second part of a list or leaves something of the first after it. -/
theorem cut_append (eq : first ++ second = before ++ after) :
    (∃ m, before = first ++ m ∧ second = m ++ after) ∨
      ∃ m, m ≠ [] ∧ first = before ++ m ∧ after = m ++ second := by
  obtain ⟨m, rfl, rfl⟩ | ⟨m, rfl, rfl⟩ := List.append_eq_append_iff.1 eq
  · exact .inl ⟨m, rfl, rfl⟩
  · cases m with
    | nil => exact .inl ⟨[], by simp, rfl⟩
    | cons e m => exact .inr ⟨e :: m, List.cons_ne_nil _ _, rfl, rfl⟩

/-- What comes after a cut ends as the whole does. -/
theorem cut_concat {last : β} (eq : first ++ [last] = before ++ after) (some : after ≠ []) :
    ∃ rest, after = rest ++ [last] ∧ before ++ rest = first := by
  obtain rfl | ⟨rest, last', rfl⟩ := List.eq_nil_or_concat' after
  · exact absurd rfl some
  · rw [← List.append_assoc] at eq
    obtain ⟨rfl, same⟩ := List.append_inj' eq rfl
    cases same
    exact ⟨rest, rfl, rfl⟩

end Cuts

namespace Coordinator

variable {κ ν α : Type} {c : Coordinator} {ctx : Context} {job : Job κ ν α}

open Store Work.Record

/-! ## Attempts that are cut -/

/-- An attempt is cut while its transaction is open: its work comes to `worked`, and after the cut
the transaction is given up by a rollback that is answered by `ended`. -/
inductive Caught (ctx : Context) (job : Job κ ν α) (state : κ) :
    (before after : Procedure.Trace ν) → Except Error α → Except Error Unit → Prop
  | intro {begun rest : Procedure.Trace ν} {record : Work.Record ν} {worked : Except Error α}
      {ended : Except Error Unit} {left : κ} (work : (job state).Runs record (worked, left))
      (steps : begun ++ rest = record.enacted ctx ∨
        ∃ cause, begun ++ rest = record.enacted ctx ++ [⟨.check ctx, .error cause⟩]) :
      Caught ctx job state (⟨.begin ctx, .ok ()⟩ :: begun) (rest ++ [⟨.rollback, ended⟩]) worked
        ended

/-- Unless its work failed for another reason, or its rollback failed, an attempt tells that it was
cancelled. -/
def Tells (worked : Except Error α) (ended : Except Error Unit) (e : Error) : Prop :=
  (∀ cause, worked = .error cause → ∃ reason, cause = .cancelled reason) → ended = .ok () →
    ∃ reason, e = .cancelled reason

theorem Caught.bracketed {state : κ} {before after : Procedure.Trace ν} {worked : Except Error α}
    {ended : Except Error Unit} (caught : Caught ctx job state before after worked ended) :
    Bracketed false before true := by
  obtain ⟨work, steps⟩ := caught
  rename_i begun rest record left
  refine ⟨rfl, bracketed_of_inner fun e mem => ?_⟩
  have inside : e ∈ record.enacted ctx ∨ ∃ cause, e = ⟨.check ctx, .error cause⟩ := by
    have mem : e ∈ begun ++ rest := List.mem_append_left _ mem
    obtain eq | ⟨cause, eq⟩ := steps
    · exact .inl (eq ▸ mem)
    · rw [eq, List.mem_append, List.mem_singleton] at mem
      exact mem.imp_right fun last => ⟨cause, last⟩
  obtain mem | ⟨cause, rfl⟩ := inside
  · obtain ⟨c, outcome, rfl⟩ | ⟨d, rfl⟩ | ⟨token, rfl⟩ := of_mem_enacted mem <;> simp
  · simp

section Attempted

variable {state left : κ} {trace before after : Procedure.Trace ν}
  {outcome : Except Error (α × List ν)}

theorem takesEffect_enacted {record : Work.Record ν} {e : (q : Step ν) × q.Answer}
    (mem : e ∈ record.enacted ctx) : e.1.takesEffect = false := by
  obtain ⟨c, outcome, rfl⟩ | ⟨d, rfl⟩ | ⟨token, rfl⟩ := of_mem_enacted mem <;> rfl

/-- An attempt that is to take effect passes its check after any cut. -/
theorem not_cut_of_commit {first : Procedure.Trace ν} {answer : Except Error Unit}
    (eq : first ++ [⟨.check ctx, .ok ()⟩, ⟨.commit, answer⟩] = before ++ after)
    (inTime : InTime after) (declined : ∀ e ∈ after, Declined e) : False := by
  have unchecked : ⟨.check ctx, .ok ()⟩ ∉ after := check_not_mem_of_declined declined
  obtain ⟨m, -, rest⟩ | ⟨m, -, -, rfl⟩ := cut_append eq
  · obtain ⟨e, more, rfl, early⟩ := inTime
    rcases m with _ | ⟨e₁, _ | ⟨e₂, m⟩⟩
    · cases rest
      exact unchecked (.head _)
    · cases rest
      cases early
    · simp at rest
  · exact unchecked (by simp)

/-- A transaction that is given up was open at the cut, unless it opened afterwards. -/
theorem cut_of_rollback {middle : Procedure.Trace ν} {ended : Except Error Unit}
    (eq : ⟨.begin ctx, .ok ()⟩ :: (middle ++ [⟨.rollback, ended⟩]) = before ++ after)
    (inTime : InTime after) (declined : ∀ e ∈ after, Declined e) :
    ∃ begun rest, before = ⟨.begin ctx, .ok ()⟩ :: begun ∧ after = rest ++ [⟨.rollback, ended⟩] ∧
      begun ++ rest = middle := by
  obtain ⟨e, more, rfl, -⟩ := inTime
  cases before with
  | nil =>
    cases eq
    exact absurd (.head _) (begin_not_mem_of_declined declined)
  | cons e' begun =>
    obtain ⟨rfl, tail⟩ := List.cons.inj eq
    obtain ⟨rest, ends, steps⟩ := cut_concat tail (List.cons_ne_nil _ _)
    exact ⟨begun, rest, rfl, ends, steps⟩

/-- An attempt whose context is over from a cut on fails: it is refused, or caught in the middle. -/
theorem Attempted.cut (attempted : Attempted ctx job state trace outcome left)
    (eq : trace = before ++ after) (inTime : InTime after)
    (declined : ∀ e ∈ after, Declined e)
    (checks : ∀ late, ⟨.check ctx, .error late⟩ ∈ trace → ∃ reason, late = .cancelled reason) :
    ∃ e, outcome = .error e ∧ (∀ x ∈ trace, x.1.takesEffect = false) ∧
      ((before = [] ∧ ∃ reason, e = .cancelled reason) ∨
        ∃ worked ended, Caught ctx job state before after worked ended ∧ Tells worked ended e) := by
  cases attempted with
  | refused e =>
    obtain ⟨e', rest, rfl, -⟩ := inTime
    obtain rfl : before = [] := by
      cases before <;> simp_all
    cases eq
    obtain ⟨reason, failed⟩ := declined _ (.head _)
    cases failed
    exact ⟨_, rfl, by simp [Step.takesEffect], .inl ⟨rfl, reason, rfl⟩⟩
  | @failed record cause _ work ended =>
    obtain ⟨begun, rest, rfl, rfl, steps⟩ := cut_of_rollback eq inTime declined
    refine ⟨_, rfl, ?_, .inr ⟨_, _, .intro work (.inl steps), ?_⟩⟩
    · simp only [List.mem_cons, List.mem_append, List.not_mem_nil, or_false]
      rintro x (rfl | mem | rfl)
      · rfl
      · exact takesEffect_enacted mem
      · rfl
    · rintro told rfl
      exact told cause rfl
  | @cancelled record _ _ work cause ended =>
    have eq' : ⟨.begin ctx, .ok ()⟩ :: ((record.enacted ctx ++ [⟨.check ctx, .error cause⟩]) ++
      [⟨.rollback, ended⟩]) = before ++ after := by simpa using eq
    obtain ⟨begun, rest, rfl, rfl, steps⟩ := cut_of_rollback eq' inTime declined
    refine ⟨_, rfl, ?_, .inr ⟨_, _, .intro work (.inr ⟨cause, steps⟩), ?_⟩⟩
    · simp only [List.mem_cons, List.mem_append, List.not_mem_nil, or_false]
      rintro x (rfl | mem | rfl | rfl)
      · rfl
      · exact takesEffect_enacted mem
      · rfl
      · rfl
    · rintro - rfl
      exact checks cause (by simp)
  | conflicted work e =>
    rw [← List.cons_append] at eq
    exact (not_cut_of_commit eq inTime declined).elim
  | committed work =>
    rw [committing, ← List.cons_append] at eq
    exact (not_cut_of_commit eq inTime declined).elim

/-- The same of an attempt in the course of a longer run. -/
theorem Attempted.cut_left {m later : Procedure.Trace ν}
    (attempted : Attempted ctx job state trace outcome left) (eq : trace = before ++ m)
    (some : m ≠ []) (inTime : InTime (m ++ later)) (declined : ∀ e ∈ m ++ later, Declined e)
    (checks : ∀ late, ⟨.check ctx, .error late⟩ ∈ trace ++ later →
      ∃ reason, late = .cancelled reason) :
    ∃ e, outcome = .error e ∧ (∀ x ∈ trace, x.1.takesEffect = false) ∧
      ((before = [] ∧ ∃ reason, e = .cancelled reason) ∨
        ∃ worked ended, Caught ctx job state before m worked ended ∧ Tells worked ended e) :=
  attempted.cut eq (inTime.of_append some)
    (fun x mem => declined x (List.mem_append_left _ mem))
    (fun late mem => checks late (List.mem_append_left _ mem))

end Attempted

/-! ## Runs that are cut -/

/-- A run is stopped from a cut on: outside any transaction it is told that it was cancelled, and if
an attempt is caught with its transaction open, the run reports its failure. -/
inductive Stopped (ctx : Context) (job : Job κ ν α) (state : κ) (before after : Procedure.Trace ν) :
    Except Error α → Prop
  | between {reason : String} (shut : Bracketed false before false) :
      Stopped ctx job state before after (.error (.cancelled reason))
  | inside (tries : List (Try κ ν α)) {state' : κ} {begun rest later : Procedure.Trace ν}
      {worked : Except Error α} {ended : Except Error Unit} {e : Error}
      (attempted : ∀ t ∈ tries, Attempted ctx job t.state t.steps t.outcome t.left)
      (opened : Bracketed false before true)
      (before_eq : before = tries.flatMap (fun t => t.steps ++ t.waiting) ++ begun)
      (after_eq : after = rest ++ later)
      (threads : Try.Threads state tries state')
      (caught : Caught ctx job state' begun rest worked ended)
      (tells : Tells worked ended e) : Stopped ctx job state before after (.error e)

/-- A pause consists of checks and of waiting. -/
theorem of_mem_pause {d : Duration} {trace : Procedure.Trace ν} {answer : Except Error Unit}
    (run : (pause ctx d).Runs trace answer) {e : (q : Step ν) × q.Answer} (mem : e ∈ trace) :
    (∃ answer, e = ⟨.check ctx, answer⟩) ∨ ∃ d, e = ⟨.wait d, ()⟩ := by
  obtain rfl | rfl := runs_pause run
  · obtain rfl := List.mem_singleton.1 mem
    exact .inl ⟨_, rfl⟩
  · simp only [List.mem_cons, List.not_mem_nil, or_false] at mem
    obtain rfl | rfl | rfl := mem
    · exact .inl ⟨_, rfl⟩
    · exact .inr ⟨_, rfl⟩
    · exact .inl ⟨_, rfl⟩

/-- A pause that is cut ends with a check after the cut. -/
theorem mem_of_pause_cut {d : Duration} {m after : Procedure.Trace ν} {answer : Except Error Unit}
    (run : (pause ctx d).Runs (m ++ after) answer) (some : after ≠ []) :
    ⟨.check ctx, answer⟩ ∈ after := by
  have last := getLast?_of_pause run
  rw [List.getLast?_append_of_ne_nil _ some] at last
  exact List.mem_of_getLast? last

section Tried

variable {retries n : Nat} {state state' : κ} {trace before after : Procedure.Trace ν}
  {outcome : Except Error α}

/-- A run is stopped as well if there was one more try before. -/
theorem Stopped.cons {steps waiting : Procedure.Trace ν} {e : Error} {between : κ} {d : Duration}
    (first : Attempted ctx job state steps (.error e) between)
    (paused : (pause ctx d).Runs waiting (.ok ()))
    (stopped : Stopped ctx job between before after outcome) :
    Stopped ctx job state (steps ++ waiting ++ before) after outcome := by
  have shut := first.bracketed.append (bracketed_of_pause paused)
  cases stopped with
  | between still => exact .between (shut.append still)
  | inside tries attempted opened before_eq after_eq threads caught tells =>
    refine .inside (⟨state, steps, .error e, between, waiting⟩ :: tries)
      (List.forall_mem_cons.2 ⟨first, attempted⟩) (shut.append opened) ?_
      after_eq ⟨rfl, threads⟩ caught tells
    simp [before_eq]

/-- A run that is cut in its last attempt, or in the pause that follows in vain, is stopped. -/
theorem stopped_of_interrupted {steps waiting : Procedure.Trace ν} {e late : Error} {d : Duration}
    (last : Attempted ctx job state steps (.error e) state') (transient : e.isTransient = true)
    (paused : (pause ctx d).Runs waiting (.error late)) (eq : steps ++ waiting = before ++ after)
    (inTime : InTime after) (declined : ∀ e ∈ after, Declined e)
    (checks : ∀ late, ⟨.check ctx, .error late⟩ ∈ steps ++ waiting →
      ∃ reason, late = .cancelled reason) :
    Stopped ctx job state before after (.error late : Except Error α) ∧
      ∀ x ∈ after, x.1.takesEffect = false := by
  have calm : ∀ x ∈ waiting, x.1.takesEffect = false := by
    intro x mem
    obtain ⟨answer, rfl⟩ | ⟨d, rfl⟩ := of_mem_pause paused mem <;> rfl
  obtain ⟨m, rfl, rfl⟩ | ⟨m, some, attempt, rfl⟩ := cut_append eq
  · obtain ⟨reason, failed⟩ := declined _ (mem_of_pause_cut paused inTime.ne_nil)
    cases failed
    refine ⟨.between (last.bracketed.append (bracketed_of_inner fun x mem => ?_)),
      fun x mem => calm x (List.mem_append_right _ mem)⟩
    obtain ⟨answer, rfl⟩ | ⟨d, rfl⟩ := of_mem_pause paused (List.mem_append_left _ mem) <;> simp
  · have ends := List.mem_of_getLast? (getLast?_of_pause paused)
    obtain ⟨reason, failed⟩ := declined _ (List.mem_append_right _ ends)
    cases failed
    obtain ⟨e, failure, quiet, ⟨-, reason, rfl⟩ | ⟨worked, ended, caught, -⟩⟩ :=
      last.cut_left attempt some inTime declined checks
    · cases failure
      cases transient
    · cases failure
      refine ⟨.inside [] nofun caught.bracketed rfl rfl rfl caught fun _ _ => ⟨reason, rfl⟩, ?_⟩
      intro x mem
      obtain early | later := List.mem_append.1 mem
      · exact quiet x (attempt ▸ List.mem_append_right _ early)
      · exact calm x later

/-- A run of attempts that is cut is stopped. -/
theorem Tried.cut (tried : Tried c ctx job retries n state trace outcome state')
    (eq : trace = before ++ after) (inTime : InTime after)
    (declined : ∀ e ∈ after, Declined e)
    (checks : ∀ late, ⟨.check ctx, .error late⟩ ∈ trace → ∃ reason, late = .cancelled reason) :
    Stopped ctx job state before after outcome ∧ ∀ x ∈ after, x.1.takesEffect = false := by
  have unchecked : ⟨.check ctx, .ok ()⟩ ∉ after := check_not_mem_of_declined declined
  induction tried generalizing before with
  | @succeeded _ _ _ _ steps value notices last =>
    obtain ⟨m, -, told⟩ | ⟨m, some, attempt, rfl⟩ := cut_append eq
    · obtain ⟨e, more, rfl, early⟩ := inTime
      have notice : e ∈ notified notices := told ▸ List.mem_append_right _ (.head _)
      obtain ⟨notice, -, rfl⟩ := List.mem_map.1 notice
      cases early
    · obtain ⟨_, failure, -⟩ := last.cut_left attempt some inTime declined checks
      cases failure
  | gaveUp last final =>
    obtain ⟨e, failure, quiet, ⟨rfl, reason, rfl⟩ | ⟨worked, ended, caught, tells⟩⟩ :=
      last.cut eq inTime declined checks
    · cases failure
      exact ⟨.between rfl, fun x mem => quiet x (eq ▸ mem)⟩
    · cases failure
      refine ⟨.inside [] nofun caught.bracketed rfl (List.append_nil _).symm rfl caught tells, ?_⟩
      exact fun x mem => quiet x (eq ▸ List.mem_append_right _ mem)
  | interrupted last transient paused =>
    exact stopped_of_interrupted last transient paused eq inTime declined checks
  | again first transient paused later ih =>
    -- The pause went well, so its last check passed, and the cut can only come after it.
    have ends := List.mem_of_getLast? (getLast?_of_pause paused)
    obtain ⟨m, rfl, rest_eq⟩ | ⟨m, some, attempt, rfl⟩ := cut_append eq
    · obtain ⟨m, rfl, rfl⟩ | ⟨m', some, waited, rfl⟩ := cut_append rest_eq
      · obtain ⟨stopped, quiet⟩ :=
          ih rfl fun late mem => checks late (by simp [List.mem_append.1 mem])
        rw [← List.append_assoc]
        exact ⟨stopped.cons first paused, quiet⟩
      · rw [waited] at paused
        exact absurd (List.mem_append_left _ (mem_of_pause_cut paused some)) unchecked
    · exact absurd (by simp [ends]) unchecked

/-- Every attempt begins by opening a transaction. -/
theorem Tried.head (tried : Tried c ctx job retries n state trace outcome state') :
    ∃ answer rest, trace = ⟨.begin ctx, answer⟩ :: rest := by
  have head {state left : κ} {trace : Procedure.Trace ν} {outcome : Except Error (α × List ν)}
      (attempted : Attempted ctx job state trace outcome left) :
      ∃ answer rest, trace = ⟨.begin ctx, answer⟩ :: rest := by
    cases attempted <;> exact ⟨_, _, rfl⟩
  cases tried with
  | succeeded last =>
    obtain ⟨answer, rest, rfl⟩ := head last
    exact ⟨answer, _, rfl⟩
  | gaveUp last final => exact head last
  | interrupted last transient paused =>
    obtain ⟨answer, rest, rfl⟩ := head last
    exact ⟨answer, _, rfl⟩
  | again first transient paused later =>
    obtain ⟨answer, rest, rfl⟩ := head first
    exact ⟨answer, _, rfl⟩

@[simp] theorem under_enacted (steps : Work.Record ν) : Under ctx (steps.enacted ctx) := by
  intro e mem
  obtain ⟨c, outcome, rfl⟩ | ⟨d, rfl⟩ | ⟨token, rfl⟩ := of_mem_enacted mem <;> simp [Step.guard?]

theorem Attempted.under {state left : κ} {trace : Procedure.Trace ν}
    {outcome : Except Error (α × List ν)}
    (attempted : Attempted ctx job state trace outcome left) : Under ctx trace := by
  cases attempted <;> simp [committing, Step.guard?]

theorem under_of_pause {d : Duration} {trace : Procedure.Trace ν} {answer : Except Error Unit}
    (run : (pause ctx d).Runs trace answer) : Under ctx trace := by
  obtain rfl | rfl := runs_pause run <;> simp [Step.guard?]

theorem Tried.under (tried : Tried c ctx job retries n state trace outcome state') :
    Under ctx trace := by
  induction tried with
  | succeeded last => exact under_append.2 ⟨last.under, under_notified _⟩
  | gaveUp last _ => exact last.under
  | interrupted last _ paused => exact under_append.2 ⟨last.under, under_of_pause paused⟩
  | again first _ paused _ ih =>
    exact under_append.2 ⟨first.under, under_append.2 ⟨under_of_pause paused, ih⟩⟩

end Tried

/-- The context in which a run works, by the steps of the run: with the timeout, from where it
looked at the clock. -/
def within (c : Coordinator) (ctx : Context) : Procedure.Trace ν → Context
  | ⟨.now, reading⟩ :: _ => match c.timeout with
    | some d => ctx.withTimeout reading d
    | none => ctx
  | _ => ctx

theorem over_within {m : Moment} (past : ctx.Over m) (trace : Procedure.Trace ν) :
    (c.within ctx trace).Over m := by
  unfold within
  split
  · split
    · exact past.withTimeout _ _
    · exact past
  · exact past

/-- A run may look at the clock, and then makes its attempts within its context. -/
theorem tried_within {state state' : κ} {trace : Procedure.Trace ν} {outcome : Except Error α}
    (run : (c.runJob ctx job state).Runs trace (outcome, state')) :
    ∃ looking tries, trace = looking ++ tries ∧
      (looking = [] ∨ ∃ reading, looking = [⟨.now, reading⟩]) ∧
      Tried c (c.within ctx trace) job (c.policy.maxAttempts - 1) 1 state tries outcome state' := by
  obtain ⟨ctx', looking, tries, rfl, limited, tried⟩ := runs_runJob run
  refine ⟨looking, tries, rfl, ?_⟩
  obtain ⟨-, rfl, rfl⟩ | ⟨d, reading, limit, rfl, rfl⟩ := runs_limited limited
  · obtain ⟨answer, rest, rfl⟩ := tried.head
    exact ⟨.inl rfl, tried⟩
  · refine ⟨.inr ⟨reading, rfl⟩, ?_⟩
    simpa only [List.singleton_append, within, limit] using tried

end Coordinator

/-! ## Runs in a context that is over -/

namespace Store

variable {σ τ ν Λ : Type} {store : Store σ τ} (keeping : store.Keeping Λ)

/-- Whether a step that is taken at some moment reaches the store. -/
def Reaches (m : Moment) : Step ν → Prop
  | .begin ctx => ctx.check m = .ok ()
  | .call ctx _ => ctx.check m = .ok ()
  | .commit => True
  | .rollback => True
  | _ => False

namespace Keeping

/-- What may go on around a run: all that leaves the committed ledger alone, and time its course. -/
def Endures (w w' : World σ) : Prop := keeping.Spares w w' ∧ w.moment.Onward w'.moment

/-- A step amid surroundings that reaches the store only if it is a rollback. -/
def Withdraws (seat : Seat σ τ ν) (q : Step ν) (answer : q.Answer) (seat' : Seat σ τ ν) : Prop :=
  ∃ w, keeping.Endures seat.world w ∧ (Reaches w.moment q → q = .rollback) ∧
    store.perform q { seat with world := w } = (answer, seat')

/-- A way through some steps from `start` to `finish`, cut in two: after the steps `before`, and
after what the surroundings did then, somebody stands `here`. -/
structure Cut (start : Seat σ τ ν) (before : Procedure.Trace ν) (here : Seat σ τ ν)
    (after : Procedure.Trace ν) (finish : Seat σ τ ν) : Prop where
  earlier : ∃ w, Along (store.Takes keeping.Endures) start before { here with world := w } ∧
    keeping.Endures w here.world
  later : Along (store.Takes keeping.Endures) here after finish

section Cut

variable {keeping} {start here finish : Seat σ τ ν} {before after : Procedure.Trace ν}

/-- What was read off the steps before a cut tells whether a transaction is open there. -/
theorem Cut.opened {opened : Bool} (cut : keeping.Cut start before here after finish)
    (shut : start.transaction = none) (first : Bracketed false before opened) :
    here.transaction.isSome = opened := by
  obtain ⟨w, earlier, -⟩ := cut.earlier
  simpa using opened_of_bracketed earlier first (by rw [shut]; rfl)

/-- Checks that fail on the way say that the request is cancelled. -/
theorem Cut.cancelled (cut : keeping.Cut start before here after finish) (ctx : Context)
    (late : Error) (mem : ⟨.check ctx, .error late⟩ ∈ before ++ after) :
    ∃ reason, late = .cancelled reason := by
  obtain mem | mem := List.mem_append.1 mem
  · obtain ⟨w, earlier, -⟩ := cut.earlier
    obtain ⟨_, _, taken⟩ := earlier.exists_of_mem mem
    exact cancelled_of_takes taken
  · obtain ⟨_, _, taken⟩ := cut.later.exists_of_mem mem
    exact cancelled_of_takes taken

end Cut

/-- The run of a job is called off at a cut: from there on a rollback is all that reaches the store,
and the one transaction that may be open is rolled back.  The run fails, has left the committed
ledger alone and has sent nothing. -/
structure CalledOff {κ α : Type} (ctx : Context) (job : Job κ ν α) (state : κ) (start : Seat σ τ ν)
    (before : Procedure.Trace ν) (here : Seat σ τ ν) (after : Procedure.Trace ν)
    (finish : Seat σ τ ν) (outcome : Except Error α) : Prop where
  withdraws : Along keeping.Withdraws here after finish
  rollbacks : after.countP isRollback = if here.transaction.isSome then 1 else 0
  shut : finish.transaction = none
  kept : keeping.ledger finish = keeping.ledger start
  unsent : finish.sent = start.sent
  failed : ∃ e, outcome = .error e
  /-- Outside any transaction the failure is that the request was cancelled. -/
  between : here.transaction = none → ∃ reason, outcome = .error (.cancelled reason)
  /-- An attempt that is caught with its transaction open came after others, and the failure is the
  same unless its work failed for another reason or the rollback failed. -/
  inside : here.transaction.isSome → ∃ looking tries state' begun rest later worked ended e,
    before = looking ++ (tries.flatMap (fun t => t.steps ++ t.waiting) ++ begun) ∧
    after = rest ++ later ∧ looking.countP isBegin = 0 ∧
    (∀ t ∈ tries, Coordinator.Attempted ctx job t.state t.steps t.outcome t.left) ∧
    Coordinator.Try.Threads state tries state' ∧
    Coordinator.Caught ctx job state' begun rest worked ended ∧
    outcome = .error e ∧ Coordinator.Tells worked ended e

end Keeping
end Store

namespace Coordinator

variable {σ τ ν Λ κ α : Type} {store : Store σ τ} {keeping : store.Keeping Λ} {c : Coordinator}
  {ctx : Context} {job : Job κ ν α} {state state' : κ} {before after : Procedure.Trace ν}
  {outcome : Except Error α} {start here finish : Seat σ τ ν}

open Store

/-- All steps of a run are guarded by its context, if at all, and its transactions are bracketed. -/
theorem under_of_run {trace : Procedure.Trace ν}
    (run : (c.runJob ctx job state).Runs trace (outcome, state')) :
    Under (c.within ctx trace) trace ∧ Bracketed false trace false := by
  obtain ⟨looking, tries, eq, looks, tried⟩ := tried_within run
  have looked : Under (c.within ctx trace) looking ∧ Bracketed false looking false := by
    obtain rfl | ⟨reading, rfl⟩ := looks <;> simp [Step.guard?, Bracketed]
  refine ⟨?_, eq ▸ looked.2.append tried.bracketed⟩
  intro e mem
  rw [eq] at mem
  exact (List.mem_append.1 mem).elim (looked.1 e) (tried.under e)

/-- A run that is cut before it takes effect is stopped, if all that its context guards is turned
down from there on. -/
theorem stopped_of_run (run : (c.runJob ctx job state).Runs (before ++ after) (outcome, state'))
    (inTime : InTime after) (declined : ∀ e ∈ after, Declined e)
    (checks : ∀ ctx' late, ⟨.check ctx', .error late⟩ ∈ before ++ after →
      ∃ reason, late = .cancelled reason) :
    (∀ x ∈ after, x.1.takesEffect = false) ∧ ∃ looking m, before = looking ++ m ∧
      Bracketed false looking false ∧ looking.countP isBegin = 0 ∧
      Stopped (c.within ctx (before ++ after)) job state m after outcome := by
  obtain ⟨looking, tries, eq, looks, tried⟩ := tried_within run
  have looked : Bracketed false looking false ∧ looking.countP isBegin = 0 := by
    obtain rfl | ⟨reading, rfl⟩ := looks <;> exact ⟨rfl, rfl⟩
  obtain ⟨m, rfl, rfl⟩ | ⟨m, some, whole, rfl⟩ := cut_append eq.symm
  · obtain ⟨stopped, quiet⟩ := tried.cut rfl inTime declined fun late mem =>
      checks _ late (by rw [eq]; exact List.mem_append_right _ mem)
    exact ⟨quiet, looking, m, rfl, looked.1, looked.2, stopped⟩
  · -- The cut comes before the first attempt.
    obtain ⟨reading, rfl⟩ := looks.resolve_left fun none =>
      some (List.append_eq_nil_iff.1 (whole.symm.trans none)).2
    obtain ⟨rfl, rfl⟩ : before = [] ∧ m = [⟨.now, reading⟩] := by
      cases before with
      | nil => exact ⟨rfl, whole.symm⟩
      | cons e rest => simp_all
    obtain ⟨answer, rest, first⟩ := tried.head
    obtain ⟨stopped, quiet⟩ := tried.cut (List.nil_append _).symm ⟨_, rest, first, rfl⟩
      (fun e mem => declined e (List.mem_append_right _ mem))
      (fun late mem => checks _ late (by rw [eq]; exact List.mem_append_right _ mem))
    refine ⟨fun x mem => ?_, [], [], rfl, rfl, rfl, ?_⟩
    · obtain looked | later := List.mem_append.1 mem
      · cases List.mem_singleton.1 looked
        rfl
      · exact quiet x later
    · cases stopped with
      | between still => exact .between still
      | inside tries attempted opened => cases opened

/-- A run that fails has left the committed ledger alone and has sent nothing. -/
theorem kept_of_error {e : Error}
    (run : (c.runJob ctx job state).Runs (before ++ after) (.error e, state'))
    (cut : keeping.Cut start before here after finish) :
    keeping.ledger finish = keeping.ledger start ∧ finish.sent = start.sent := by
  obtain ⟨⟨w, earlier, stirred⟩, later⟩ := cut
  obtain ⟨ctx', passing⟩ := outlasts_runJob run
  obtain ⟨passingBefore, passingAfter⟩ := passing_append.1 passing
  have spares (trace : Procedure.Trace ν) {s s' : Seat σ τ ν}
      (way : Along (store.Takes keeping.Endures) s trace s') : keeping.Way s trace s' :=
    way.mono fun _ _ _ _ ⟨w, endures, taken⟩ => ⟨w, endures.1, taken⟩
  obtain ⟨kept, unsent⟩ := Keeping.way_of_passing (spares before earlier) passingBefore
  obtain ⟨kept', unsent'⟩ := Keeping.way_of_passing (spares after later) passingAfter
  exact ⟨kept'.trans (stirred.1.trans kept), unsent'.trans unsent⟩

section Over

variable {own : Context}
  (late : Along (store.TakesOver keeping.Endures own) here after finish)
  (guarded : ∀ e ∈ after, ∀ ctx', e.1.guard? = some ctx' → ctx' = own)

include late guarded

theorem declined_of_over : ∀ e ∈ after, Declined e := by
  intro e mem
  obtain ⟨_, _, taken⟩ := late.exists_of_mem mem
  exact declined_of_takesOver taken (guarded e mem)

/-- In a context that is over a run withdraws, unless it is about to take effect. -/
theorem withdraws_of_over (quiet : ∀ e ∈ after, e.1.takesEffect = false) :
    Along keeping.Withdraws here after finish := by
  refine late.mono ?_
  rintro ⟨q, answer⟩ mem s s' ⟨w, endures, past, taken⟩
  refine ⟨w, endures, fun reaches => ?_, taken⟩
  obtain ⟨reason, failed⟩ := past.check
  cases q with
  | rollback => rfl
  | commit => cases quiet _ mem
  | now | check ctx | wait d | cancel token | notify notice => exact reaches.elim
  | begin ctx' | call ctx' c =>
    obtain rfl := guarded _ mem ctx' rfl
    cases reaches.symm.trans failed

end Over

/-- The transaction that is open at a cut is rolled back after it. -/
theorem rollbacks_of_declined {opened : Bool} (rest : Bracketed opened after false)
    (declined : ∀ e ∈ after, Declined e) (quiet : ∀ e ∈ after, e.1.takesEffect = false) :
    after.countP isRollback = if opened then 1 else 0 := by
  refine rollbacks_of_bracketed rest fun e mem => ⟨fun commit => ?_, ?_⟩
  · have quiet := quiet e mem
    rw [commit] at quiet
    cases quiet
  · have declined := declined e mem
    unfold isOpening
    split
    · obtain ⟨reason, begun⟩ := declined
      cases begun
    · rfl

/-- **Cancellation.**  A run whose context is over from a cut on is called off there. -/
theorem runJob_called_off (steady : store.Steady)
    (run : (c.runJob ctx job state).Runs (before ++ after) (outcome, state'))
    (shut : start.transaction = none) (cut : keeping.Cut start before here after finish)
    (past : ctx.Over here.world.moment ∨
      (c.within ctx (before ++ after)).Over here.world.moment) (inTime : InTime after) :
    keeping.CalledOff (c.within ctx (before ++ after)) job state start before here after finish
      outcome := by
  have past : (c.within ctx (before ++ after)).Over here.world.moment :=
    past.elim (fun past => over_within past _) id
  have late := along_over steady (fun _ _ => And.right) cut.later past
  obtain ⟨under, whole⟩ := under_of_run run
  have guarded : ∀ e ∈ after, ∀ ctx', e.1.guard? = some ctx' → ctx' = _ :=
    fun e mem => under e (List.mem_append_right _ mem)
  have declined := declined_of_over late guarded
  obtain ⟨quiet, looking, m, rfl, looked, unbegun, stopped⟩ :=
    stopped_of_run run inTime declined cut.cancelled
  obtain ⟨opened, first, rest⟩ := bracketed_append.1 whole
  have isSome := cut.opened shut first
  obtain ⟨e, rfl⟩ : ∃ e, outcome = .error e := by
    cases stopped <;> exact ⟨_, rfl⟩
  obtain ⟨kept, unsent⟩ := kept_of_error run cut
  constructor
  case withdraws => exact withdraws_of_over late guarded quiet
  case rollbacks => exact isSome ▸ rollbacks_of_declined rest declined quiet
  case shut => simpa using opened_of_bracketed cut.later rest isSome
  case kept => exact kept
  case unsent => exact unsent
  case failed => exact ⟨e, rfl⟩
  case between =>
    intro none
    cases stopped with
    | between still => exact ⟨_, rfl⟩
    | inside tries attempted caughtOpen before_eq after_eq threads caught tells =>
      have opened := cut.opened shut (looked.append caughtOpen)
      simp [none] at opened
  case inside =>
    intro some
    cases stopped with
    | between still =>
      have closed := cut.opened shut (looked.append still)
      simp [closed] at some
    | inside tries attempted caughtOpen before_eq after_eq threads caught tells =>
      exact ⟨looking, tries, _, _, _, _, _, _, _, congrArg _ before_eq, after_eq, unbegun,
        attempted, threads, caught, rfl, tells⟩

/-- A job that gives up its own token, and takes no notice of what it is told afterwards. -/
def heedless : Job Unit Nat Int := fun () => do
  Program.question (.onCommit 1 : WorkStep Nat)
  Program.question (.cancel ⟨0⟩ : WorkStep Nat)
  let _ ← Program.question (.call (.createAccount "carol" .usd 5) : WorkStep Nat)
  pure (.ok 7, ())

/-- The account is not opened, the transaction is rolled back, and the job is not tried again. -/
theorem runJob_called_off_heedless :
    let ctx := Context.background ⟨0⟩
    let e := Error.cancelled "cancelled by caller"
    let start : Seat Memory.State Ledger Nat := Store.outside ⟨⟨0, []⟩, .empty⟩
    let here : Seat Memory.State Ledger Nat :=
      ⟨⟨⟨0, [⟨0⟩]⟩, { Memory.State.empty with begins := 1 }⟩, some .empty, []⟩
    Memory.keeping.CalledOff ctx heedless () start [⟨.begin ctx, .ok ()⟩, ⟨.cancel ⟨0⟩, ()⟩] here
      [⟨.call ctx (.createAccount "carol" .usd 5), .error e⟩, ⟨.check ctx, .error e⟩,
        ⟨.rollback, .ok ()⟩] { here with transaction := none } (.error e) := by
  intro ctx e start here
  let c : Coordinator := ⟨.standard, none, fun _ => 7⟩
  let before : Procedure.Trace Nat := [⟨.begin ctx, .ok ()⟩, ⟨.cancel ⟨0⟩, ()⟩]
  let after : Procedure.Trace Nat :=
    [⟨.call ctx (.createAccount "carol" .usd 5), .error e⟩, ⟨.check ctx, .error e⟩,
      ⟨.rollback, .ok ()⟩]
  have run : (c.runJob ctx heedless ()).Runs (before ++ after) (.error e, ()) := by
    show (c.attempts ctx heedless _ 1 ()).Runs _ _
    rw [attempts]
    exact ⟨.ok (), _, rfl, (), _, rfl, .error e, _, rfl, .error e, _, rfl, .ok (), _, rfl, rfl, rfl⟩
  have stays (w : World Memory.State) : Memory.keeping.Endures w w := ⟨rfl, .refl _⟩
  have cut : Memory.keeping.Cut start before here after { here with transaction := none } := by
    constructor
    · exact ⟨here.world, ⟨_, ⟨_, stays _, rfl⟩, _, ⟨_, stays _, rfl⟩, rfl⟩, stays _⟩
    · exact ⟨_, ⟨_, stays _, rfl⟩, _, ⟨_, stays _, rfl⟩, _, ⟨_, stays _, rfl⟩, rfl⟩
  exact runJob_called_off Memory.steady run rfl cut (.inl (.inl (.head _))) ⟨_, _, rfl, rfl⟩

end Coordinator
end DoubleEntry
