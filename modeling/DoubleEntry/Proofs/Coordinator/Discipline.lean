import DoubleEntry.Proofs.Coordinator.Atomicity
import DoubleEntry.Proofs.Store.Onward
import Mathlib.Data.List.Infix

/-!
# The discipline of retrying

A run of a job is a list of attempts with pauses in between.  `Coordinator.Disciplined` says what a
store sees of it, whatever the store answers, whatever the work does and whatever goes on around:

* there are at most as many attempts as the policy allows, and at least one;
* every transaction that is opened is ended once, by a commit or a rollback, before the next one
  begins and before the run is over (`Store.Bracketed`);
* there is another attempt only after a conflict, and only if the context allows it after a pause;
  every other failure ends the run;
* a rollback that fails ends the run as well, with both failures.

`runJob_disciplined` is the main statement.
-/

namespace DoubleEntry

open Program

namespace Work.Record

variable {ν : Type} {ctx : Context}

open Store

/-- Work makes calls, waits and cancels tokens. -/
theorem of_mem_enacted {steps : Record ν} {e : (q : Step ν) × q.Answer}
    (mem : e ∈ steps.enacted ctx) :
    (∃ c outcome, e = ⟨.call ctx c, outcome⟩) ∨ (∃ d, e = ⟨.wait d, ()⟩) ∨
      ∃ token, e = ⟨.cancel token, ()⟩ := by
  induction steps with
  | nil => cases mem
  | cons s rest ih =>
    rcases s with ⟨⟨c⟩ | ⟨notice⟩ | ⟨d⟩ | ⟨token⟩, answer⟩
    · rcases List.mem_cons.1 mem with rfl | later
      · exact .inl ⟨c, answer, rfl⟩
      · exact ih later
    · exact ih mem
    · rcases List.mem_cons.1 mem with rfl | later
      · exact .inr (.inl ⟨d, rfl⟩)
      · exact ih later
    · rcases List.mem_cons.1 mem with rfl | later
      · exact .inr (.inr ⟨token, rfl⟩)
      · exact ih later

theorem isBegin_enacted (steps : Record ν) : (steps.enacted ctx).countP isBegin = 0 := by
  refine List.countP_eq_zero.2 fun e mem => ?_
  obtain ⟨c, outcome, rfl⟩ | ⟨d, rfl⟩ | ⟨token, rfl⟩ := of_mem_enacted mem <;> simp [isBegin]

theorem rollback_not_mem_enacted {steps : Record ν} {ended : Except Error Unit} :
    ⟨.rollback, ended⟩ ∉ steps.enacted ctx := by
  intro mem
  obtain ⟨c, outcome, eq⟩ | ⟨d, eq⟩ | ⟨token, eq⟩ := of_mem_enacted mem <;> cases eq

end Work.Record

namespace Coordinator

variable {κ ν α : Type} {c : Coordinator} {ctx : Context} {job : Job κ ν α}

open Store Work.Record

/-! ## Attempts one after the other -/

/-- An attempt in the course of a run: the state of the job before and after it, its steps and its
outcome, and the steps of the pause that followed. -/
structure Try (κ ν α : Type) where
  state : κ
  steps : Procedure.Trace ν
  outcome : Except Error (α × List ν)
  left : κ
  waiting : Procedure.Trace ν

/-- An attempt runs into a failure `e` that may be a conflict: the transaction could not be opened,
or the work failed and was rolled back, or it could not be committed. -/
inductive Try.FailsWith (ctx : Context) (job : Job κ ν α) (t : Try κ ν α) (e : Error) : Prop
  | begin (steps : t.steps = [⟨.begin ctx, .error e⟩])
  | work {record : Work.Record ν} (run : (job t.state).Runs record (.error e, t.left))
      (steps : t.steps = ⟨.begin ctx, .ok ()⟩ :: (record.enacted ctx ++ [⟨.rollback, .ok ()⟩]))
  | commit {record : Work.Record ν} {value : α}
      (run : (job t.state).Runs record (.ok value, t.left))
      (steps : t.steps = ⟨.begin ctx, .ok ()⟩ ::
        (record.enacted ctx ++ [⟨.check ctx, .ok ()⟩, ⟨.commit, .error e⟩]))

/-- The reason why an attempt gave its transaction up: the failure of its work, or of the check
after work that succeeded. -/
inductive Try.GivesUpFor (ctx : Context) (job : Job κ ν α) (t : Try κ ν α) (cause : Error) : Prop
  | work {record : Work.Record ν} (run : (job t.state).Runs record (.error cause, t.left))
      {ended : Except Error Unit}
      (steps : t.steps = ⟨.begin ctx, .ok ()⟩ :: (record.enacted ctx ++ [⟨.rollback, ended⟩]))
  | check {record : Work.Record ν} {value : α} (run : (job t.state).Runs record (.ok value, t.left))
      {ended : Except Error Unit}
      (steps : t.steps = ⟨.begin ctx, .ok ()⟩ ::
        (record.enacted ctx ++ [⟨.check ctx, .error cause⟩, ⟨.rollback, ended⟩]))

/-- How a run ends after its last attempt: with its value and its notices, or with its failure,
which is no conflict or has used up the budget, or with that of the context in the pause. -/
inductive Try.Concludes (ctx : Context) (spent : Prop) (t : Try κ ν α) :
    Except Error α → List ν → Prop
  | succeeded {value : α} {notices : List ν} (ok : t.outcome = .ok (value, notices))
      (still : t.waiting = []) : Concludes ctx spent t (.ok value) notices
  | failed {e : Error} (failure : t.outcome = .error e) (still : t.waiting = [])
      (final : spent ∨ e.isTransient = false) : Concludes ctx spent t (.error e) []
  | interrupted {e late : Error} {d : Duration} (failure : t.outcome = .error e)
      (transient : e.isTransient = true) (unspent : ¬ spent)
      (paused : (pause ctx d).Runs t.waiting (.error late)) :
      Concludes ctx spent t (.error late) []

/-- Each attempt takes the job on in the state in which the one before has left it. -/
def Try.Threads : κ → List (Try κ ν α) → κ → Prop
  | state, [], state' => state' = state
  | state, t :: rest, state' => t.state = state ∧ Threads t.left rest state'

/-- The attempts of a run that may take so many of them, what it came to, and the notices that were
sent. -/
structure Series (ctx : Context) (job : Job κ ν α) (budget : Nat) (tries : List (Try κ ν α))
    (outcome : Except Error α) (told : List ν) : Prop where
  length_le : tries.length ≤ budget
  attempted : ∀ t ∈ tries, Attempted ctx job t.state t.steps t.outcome t.left
  again : ∀ t ∈ tries.dropLast, (∃ e, t.outcome = .error e ∧ e.isTransient = true) ∧
    ∃ d, (pause ctx d).Runs t.waiting (.ok ())
  last : ∃ t, tries.getLast? = some t ∧ t.Concludes ctx (tries.length = budget) outcome told

theorem Series.single {budget : Nat} {t : Try κ ν α} {outcome : Except Error α} {told : List ν}
    (room : 1 ≤ budget) (attempted : Attempted ctx job t.state t.steps t.outcome t.left)
    (concludes : t.Concludes ctx (1 = budget) outcome told) :
    Series ctx job budget [t] outcome told where
  length_le := room
  attempted := List.forall_mem_singleton.2 attempted
  again := nofun
  last := ⟨t, rfl, concludes⟩

/-- Trying a job makes a series of attempts. -/
theorem Tried.series {retries n : Nat} {state state' : κ} {trace : Procedure.Trace ν}
    {outcome : Except Error α} (tried : Tried c ctx job retries n state trace outcome state') :
    ∃ tries told, trace = tries.flatMap (fun t => t.steps ++ t.waiting) ++ notified told ∧
      Try.Threads state tries state' ∧ Series ctx job (retries + 1) tries outcome told := by
  induction tried with
  | @succeeded retries _ state left steps value notices last =>
    let only : Try κ ν α := ⟨state, steps, .ok (value, notices), left, []⟩
    have ends : only.Concludes ctx (1 = retries + 1) (.ok value) notices := .succeeded rfl rfl
    exact ⟨[only], notices, by simp [only], ⟨rfl, rfl⟩, .single (by omega) last ends⟩
  | @gaveUp retries _ state left steps e last final =>
    let only : Try κ ν α := ⟨state, steps, .error e, left, []⟩
    have ends : only.Concludes ctx (1 = retries + 1) (.error e) [] :=
      .failed rfl rfl (final.imp_left (by omega))
    exact ⟨[only], [], by simp [only, notified], ⟨rfl, rfl⟩, .single (by omega) last ends⟩
  | @interrupted more _ state left steps waiting e late last transient paused =>
    let only : Try κ ν α := ⟨state, steps, .error e, left, waiting⟩
    have ends : only.Concludes ctx (1 = more + 1 + 1) (.error late) [] :=
      .interrupted rfl transient (by omega) paused
    exact ⟨[only], [], by simp [only, notified], ⟨rfl, rfl⟩, .single (by omega) last ends⟩
  | @again more _ state between _ steps waiting _ e _ first transient paused _ ih =>
    obtain ⟨tries, told, rfl, threads, fits, attempted, again, t, ends, concludes⟩ := ih
    let head : Try κ ν α := ⟨state, steps, .error e, between, waiting⟩
    have some_more : tries ≠ [] := by
      rintro rfl
      cases ends
    refine ⟨head :: tries, told, by simp [head], ⟨rfl, threads⟩, ?_⟩
    constructor
    case length_le => simpa using fits
    case attempted => exact List.forall_mem_cons.2 ⟨first, attempted⟩
    case again =>
      rw [List.dropLast_cons_of_ne_nil some_more]
      exact List.forall_mem_cons.2 ⟨⟨⟨e, rfl, transient⟩, _, paused⟩, again⟩
    case last =>
      refine ⟨t, ?_, by simpa using concludes⟩
      rw [List.getLast?_cons, ends]
      rfl

/-! ## What the store sees -/

section Attempted

variable {state state' : κ} {trace : Procedure.Trace ν} {outcome : Except Error (α × List ν)}

theorem Attempted.begins (attempted : Attempted ctx job state trace outcome state') :
    trace.countP isBegin = 1 := by
  cases attempted <;> simp [committing, isBegin_enacted, isBegin, List.countP_cons]

/-- The rollback of an attempt that fails fails with the attempt's work given up, and the attempt
says so. -/
theorem Attempted.aborted {r : Error} (attempted : Attempted ctx job state trace outcome state')
    (rollback : ⟨.rollback, .error r⟩ ∈ trace) (waiting : Procedure.Trace ν) :
    ∃ cause, Try.GivesUpFor ctx job ⟨state, trace, outcome, state', waiting⟩ cause ∧
      outcome = .error (.transactionAbort cause r) := by
  cases attempted with
  | refused e => simp at rollback
  | @failed record cause _ work ended =>
    obtain rfl : ended = .error r := by
      simpa [rollback_not_mem_enacted, eq_comm] using rollback
    exact ⟨cause, .work work rfl, rfl⟩
  | cancelled work cause ended =>
    obtain rfl : ended = .error r := by
      simpa [rollback_not_mem_enacted, eq_comm] using rollback
    exact ⟨cause, .check work rfl, rfl⟩
  | conflicted work e | committed work =>
    simp [committing, rollback_not_mem_enacted] at rollback

/-- An attempt that runs into a conflict has it from the opening of its transaction, from its work
or from the commit; and where it gave its transaction up, the rollback succeeded. -/
theorem Attempted.failsWith {e : Error} (attempted : Attempted ctx job state trace outcome state')
    (failure : outcome = .error e) (transient : e.isTransient = true)
    (checks : ∀ late, ⟨.check ctx, .error late⟩ ∈ trace → ∃ reason, late = .cancelled reason)
    (waiting : Procedure.Trace ν) :
    Try.FailsWith ctx job ⟨state, trace, outcome, state', waiting⟩ e := by
  cases attempted with
  | refused e =>
    cases failure
    exact .begin rfl
  | failed work ended =>
    cases failure
    rcases ended with r | ⟨⟩
    · cases transient
    · exact .work work rfl
  | cancelled work cause ended =>
    cases failure
    obtain ⟨reason, rfl⟩ := checks cause (by simp)
    rcases ended with r | ⟨⟩ <;> cases transient
  | conflicted work e =>
    cases failure
    exact .commit work rfl
  | committed work => cases failure

end Attempted

theorem begins_of_pause {d : Duration} {trace : Procedure.Trace ν} {answer : Except Error Unit}
    (run : (pause ctx d).Runs trace answer) : trace.countP isBegin = 0 := by
  obtain rfl | rfl := runs_pause run <;> rfl

/-- A pause ends with a check of the context, whose answer is that of the pause. -/
theorem getLast?_of_pause {d : Duration} {trace : Procedure.Trace ν} {answer : Except Error Unit}
    (run : (pause ctx d).Runs trace answer) : trace.getLast? = some ⟨.check ctx, answer⟩ := by
  obtain rfl | rfl := runs_pause run <;> rfl

namespace Series

variable {budget : Nat} {tries : List (Try κ ν α)} {outcome : Except Error α} {told : List ν}

/-- An attempt is one that was followed by another, or the one that ended the run. -/
theorem early_or_last (series : Series ctx job budget tries outcome told) {t : Try κ ν α}
    (mem : t ∈ tries) :
    t ∈ tries.dropLast ∨
      (tries.getLast? = some t ∧ t.Concludes ctx (tries.length = budget) outcome told) := by
  obtain ⟨final, ends, concludes⟩ := series.last
  rw [← List.dropLast_append_getLast? final ends, List.mem_append, List.mem_singleton] at mem
  rcases mem with early | rfl
  · exact .inl early
  · exact .inr ⟨ends, concludes⟩

/-- A pause follows an attempt unless the run is over. -/
theorem waiting (series : Series ctx job budget tries outcome told) {t : Try κ ν α}
    (mem : t ∈ tries) :
    t.waiting = [] ∨ ∃ d answer, (pause ctx d).Runs t.waiting answer := by
  obtain early | ⟨-, concludes⟩ := series.early_or_last mem
  · obtain ⟨-, d, paused⟩ := series.again t early
    exact .inr ⟨d, _, paused⟩
  · cases concludes with
    | succeeded ok still => exact .inl still
    | failed failure still final => exact .inl still
    | interrupted failure transient unspent paused => exact .inr ⟨_, _, paused⟩

/-- A failure that is no conflict is that of the last attempt, and the run reports it. -/
theorem reported (series : Series ctx job budget tries outcome told) {t : Try κ ν α}
    (mem : t ∈ tries) {e : Error} (failure : t.outcome = .error e)
    (lasting : e.isTransient = false) :
    tries.getLast? = some t ∧ t.waiting = [] ∧ outcome = .error e := by
  obtain early | ⟨ends, concludes⟩ := series.early_or_last mem
  · obtain ⟨⟨e', failure', transient⟩, -⟩ := series.again t early
    cases failure.symm.trans failure'
    cases lasting.symm.trans transient
  · refine ⟨ends, ?_⟩
    cases concludes with
    | succeeded ok still => cases failure.symm.trans ok
    | failed failure' still final =>
      cases failure.symm.trans failure'
      exact ⟨still, rfl⟩
    | interrupted failure' transient unspent paused =>
      cases failure.symm.trans failure'
      cases lasting.symm.trans transient

/-- When the budget is used up and the last attempt failed, the run reports its failure. -/
theorem exhausted (series : Series ctx job budget tries outcome told)
    (spent : tries.length = budget) (failing : ∀ t ∈ tries, ∃ e, t.outcome = .error e) :
    ∃ t e, tries.getLast? = some t ∧ t.outcome = .error e ∧ outcome = .error e := by
  obtain ⟨t, ends, concludes⟩ := series.last
  obtain ⟨e, failure⟩ := failing t (List.mem_of_getLast? ends)
  refine ⟨t, e, ends, failure, ?_⟩
  cases concludes with
  | succeeded ok still => cases failure.symm.trans ok
  | failed failure' still final =>
    cases failure.symm.trans failure'
    rfl
  | interrupted failure' transient unspent paused => exact absurd spent unspent

theorem begins_try (series : Series ctx job budget tries outcome told) {t : Try κ ν α}
    (mem : t ∈ tries) : (t.steps ++ t.waiting).countP isBegin = 1 := by
  have attempted := series.attempted t mem
  rw [List.countP_append, attempted.begins]
  obtain still | ⟨d, answer, paused⟩ := series.waiting mem
  · rw [still]
    rfl
  · rw [begins_of_pause paused]

theorem begins_tries {tries : List (Try κ ν α)}
    (each : ∀ t ∈ tries, (t.steps ++ t.waiting).countP isBegin = 1) :
    (tries.flatMap fun t => t.steps ++ t.waiting).countP isBegin = tries.length := by
  induction tries with
  | nil => rfl
  | cons t rest ih =>
    obtain ⟨once, later⟩ := List.forall_mem_cons.1 each
    rw [List.flatMap_cons, List.countP_append, once, ih later, List.length_cons, Nat.add_comm]

end Series

/-! ## Whole runs -/

/-- What the store sees of the run of a job under `c`: the attempts that were made in the context
`ctx`, how they led to the outcome of the run, and the notices that were sent. -/
structure Disciplined (c : Coordinator) (ctx : Context) (job : Job κ ν α) (tries : List (Try κ ν α))
    (trace : Procedure.Trace ν) (outcome : Except Error α) (told : List ν) : Prop where
  /-- A run looks at the clock at most, makes its attempts with the pauses between them, and sends
  its notices. -/
  steps : ∃ looking, (looking = [] ∨ ∃ reading, looking = [⟨.now, reading⟩]) ∧
    trace = looking ++ (tries.flatMap (fun t => t.steps ++ t.waiting) ++ notified told)
  /-- Every attempt is one of the five, so it commits exactly if its work succeeded and the check
  that followed did. -/
  attempted : ∀ t ∈ tries, Attempted ctx job t.state t.steps t.outcome t.left
  begins : trace.countP isBegin = tries.length
  budget : tries.length ≤ max 1 c.policy.maxAttempts
  bracketed : Bracketed false trace false
  /-- There is another attempt only after a conflict, if the context still allows it. -/
  again : ∀ t ∈ tries.dropLast, t.waiting.getLast? = some ⟨.check ctx, .ok ()⟩ ∧
    ∃ e, t.outcome = .error e ∧ e.isTransient = true ∧ t.FailsWith ctx job e
  last : ∃ t, tries.getLast? = some t ∧
    t.Concludes ctx (tries.length = max 1 c.policy.maxAttempts) outcome told
  /-- Any failure but a conflict is the last, and the run reports it. -/
  reported : ∀ t ∈ tries, ∀ e, t.outcome = .error e → e.isTransient = false →
    tries.getLast? = some t ∧ t.waiting = [] ∧ outcome = .error e
  /-- If conflicts use the budget up, the run reports the last of them. -/
  exhausted : tries.length = max 1 c.policy.maxAttempts →
    (∀ t ∈ tries, ∃ e, t.outcome = .error e ∧ e.isTransient = true) →
    ∃ t e, tries.getLast? = some t ∧ t.outcome = .error e ∧ outcome = .error e
  /-- A rollback that fails ends the run, whatever the work was given up for. -/
  aborted : ∀ t ∈ tries, ∀ r, ⟨.rollback, .error r⟩ ∈ t.steps →
    ∃ cause, t.GivesUpFor ctx job cause ∧ tries.getLast? = some t ∧
      outcome = .error (.transactionAbort cause r)

/-- Every run of a job keeps the discipline, amid whatever surroundings. -/
theorem disciplined_of_run {σ τ : Type} {store : Store σ τ} {stirs : World σ → World σ → Prop}
    {seat seat' : Seat σ τ ν} {state state' : κ} {trace : Procedure.Trace ν}
    {outcome : Except Error α} (run : (c.runJob ctx job state).Runs trace (outcome, state'))
    (way : Along (store.Takes stirs) seat trace seat') :
    ∃ ctx' tries told, (∃ looking, (c.limited ctx : Procedure ν Context).Runs looking ctx') ∧
      Try.Threads state tries state' ∧ Disciplined c ctx' job tries trace outcome told := by
  obtain ⟨ctx', looking, _, rfl, limited, tried⟩ := runs_runJob run
  obtain ⟨tries, told, rfl, threads, series⟩ := tried.series
  have budget : c.policy.maxAttempts - 1 + 1 = max 1 c.policy.maxAttempts := by omega
  rw [budget] at series
  have looks : looking = [] ∨ ∃ reading, looking = [⟨.now, reading⟩] := by
    obtain ⟨-, rfl, -⟩ | ⟨d, reading, -, rfl, -⟩ := runs_limited limited
    · exact .inl rfl
    · exact .inr ⟨reading, rfl⟩
  have looked : looking.countP isBegin = 0 := by
    obtain rfl | ⟨reading, rfl⟩ := looks <;> rfl
  have count := Series.begins_tries fun t mem => series.begins_try mem
  refine ⟨ctx', tries, told, ⟨looking, limited⟩, threads, ?_⟩
  constructor
  case steps => exact ⟨looking, looks, rfl⟩
  case attempted => exact series.attempted
  case begins => simp only [List.countP_append, looked, count, isBegin_notified]; omega
  case budget => exact series.length_le
  case bracketed => exact bracketed_of_runJob run
  case again =>
    intro t early
    obtain ⟨⟨e, failure, transient⟩, d, paused⟩ := series.again t early
    refine ⟨getLast?_of_pause paused, e, failure, transient, ?_⟩
    have mem := List.mem_of_mem_dropLast early
    refine (series.attempted t mem).failsWith failure transient (fun late checked => ?_) t.waiting
    obtain ⟨_, _, taken⟩ := way.exists_of_mem (e := ⟨.check ctx', .error late⟩) <|
      List.mem_append_right _ <| List.mem_append_left _ <|
        List.mem_flatMap.2 ⟨t, mem, List.mem_append_left _ checked⟩
    exact cancelled_of_takes taken
  case last => exact series.last
  case reported => exact fun t mem e failure lasting => series.reported mem failure lasting
  case exhausted =>
    intro spent conflicts
    exact series.exhausted spent fun t mem => (conflicts t mem).imp fun _ => And.left
  case aborted =>
    intro t mem r rollback
    obtain ⟨cause, givesUp, failure⟩ := (series.attempted t mem).aborted rollback t.waiting
    obtain ⟨ends, -, outcome⟩ := series.reported mem failure rfl
    exact ⟨cause, givesUp, ends, outcome⟩

/-- Whatever store, faults, work and surroundings a coordinator has to do with, it makes as many
attempts as its policy allows at most, ends every transaction it opens, and tries again only after a
conflict. -/
theorem runJob_disciplined {σ τ : Type} (store : Store σ τ) (stir : Nat → World σ → World σ)
    (c : Coordinator) (ctx : Context) (job : Job κ ν α) (state : κ) (world : World σ) :
    let run := store.runAmid stir (c.runJob ctx job state) world
    ∃ ctx' tries told, (∃ looking, (c.limited ctx : Procedure ν Context).Runs looking ctx') ∧
      Try.Threads state tries run.value.2 ∧
      Disciplined c ctx' job tries run.trace run.value.1 told := by
  intro run
  have way : Along (store.Takes fun _ _ => True) (outside world) run.trace run.seat :=
    along_runAmid (fun _ _ => trivial) _ world
  exact disciplined_of_run (runs_runAmid store stir _ world) way

end Coordinator
end DoubleEntry
