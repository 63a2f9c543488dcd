import DoubleEntry.Proofs.Coordinator.Cancellation

/-!
# Deadlines only tighten

Limits are put on a context one after another: readings of the clock, and times from a reading on.
Each of them can only bring the deadline forward.

* `Context.deadline_limitAll` — the deadline is the earliest of all that were given.
* `Context.Tightens` — a context that lets its request go on no longer than another one does.
* `Coordinator.exists_worksIn` — a run works in such a context of its caller's.
* `Context.limits_tighten` — **limits only tighten**, in whatever order they come, for contexts and
  for the runs of a coordinator; and what is over stays over.
-/

namespace DoubleEntry

/-! ## Limits -/

/-- A limit that is put on a request. -/
inductive Limit where
  /-- From this reading of the clock on it is over. -/
  | deadline (reading : Nat)
  /-- It is over so long after this reading of the clock. -/
  | timeout (now : Nat) (d : Duration)
  deriving DecidableEq, Repr

/-- The reading of the clock from which on a request is over by this limit. -/
def Limit.reading : Limit → Nat
  | .deadline reading => reading
  | .timeout now d => now + d.nanos

namespace Context

/-- Put a limit on a request. -/
def limit (ctx : Context) : Limit → Context
  | .deadline reading => ctx.withDeadline reading
  | .timeout now d => ctx.withTimeout now d

/-- Put limits on a request, one after another. -/
def limitAll (ctx : Context) (limits : List Limit) : Context :=
  limits.foldl limit ctx

/-- Put a limit on a request, where the clock has a last reading and cannot represent a later
one. -/
def limit? (latest : Nat) (ctx : Context) (l : Limit) : Option Context :=
  if l.reading ≤ latest then some (ctx.limit l) else none

/-- All readings that may end a request: its own deadline, and those of the limits. -/
def ends (ctx : Context) (limits : List Limit) : List Nat :=
  ctx.deadline.toList ++ limits.map Limit.reading

variable {ctx ctx' ctx'' : Context} {l : Limit} {limits : List Limit} {m m' : Moment}

theorem limit_eq (ctx : Context) (l : Limit) : ctx.limit l = ctx.withDeadline l.reading := by
  cases l <;> rfl

@[simp] theorem principal_limit : (ctx.limit l).principal = ctx.principal := by
  cases l <;> rfl

@[simp] theorem token_limit : (ctx.limit l).token = ctx.token := by
  cases l <;> rfl

theorem deadline_limit : (ctx.limit l).deadline = (ctx.ends [l]).min? := by
  rw [limit_eq, ends, withDeadline]
  cases ctx.deadline with
  | none => rfl
  | some current =>
    show some (if current < l.reading then current else l.reading) = some (min current l.reading)
    congr 1
    split <;> omega

theorem limitAll_cons : ctx.limitAll (l :: limits) = (ctx.limit l).limitAll limits := rfl

@[simp] theorem principal_limitAll : (ctx.limitAll limits).principal = ctx.principal := by
  induction limits generalizing ctx with
  | nil => rfl
  | cons l limits ih => rw [limitAll_cons, ih, principal_limit]

@[simp] theorem token_limitAll : (ctx.limitAll limits).token = ctx.token := by
  induction limits generalizing ctx with
  | nil => rfl
  | cons l limits ih => rw [limitAll_cons, ih, token_limit]

/-- To put a limit first is to have its reading among those of the context. -/
theorem min?_ends_limit : ((ctx.limit l).ends limits).min? = (ctx.ends (l :: limits)).min? := by
  rw [ends, ends, deadline_limit, ends]
  cases ctx.deadline with
  | none => rfl
  | some current => rfl

/-- The deadline is the earliest of all that were given. -/
theorem deadline_limitAll : (ctx.limitAll limits).deadline = (ctx.ends limits).min? := by
  induction limits generalizing ctx with
  | nil =>
    show ctx.deadline = (ctx.deadline.toList ++ []).min?
    cases ctx.deadline <;> rfl
  | cons l limits ih => rw [limitAll_cons, ih, min?_ends_limit]

theorem eq_of_fields (principal : ctx.principal = ctx'.principal) (token : ctx.token = ctx'.token)
    (deadline : ctx.deadline = ctx'.deadline) : ctx = ctx' := by
  cases ctx
  cases ctx'
  simp_all

theorem min?_perm {readings readings' : List Nat} (perm : readings.Perm readings') :
    readings.min? = readings'.min? := by
  refine Option.ext fun reading => ?_
  simp only [List.min?_eq_some_iff, perm.mem_iff]

/-- Limits may come in any order. -/
theorem limitAll_perm {limits' : List Limit} (perm : limits.Perm limits') :
    ctx.limitAll limits = ctx.limitAll limits' := by
  refine eq_of_fields (by simp) (by simp) ?_
  rw [deadline_limitAll, deadline_limitAll]
  exact min?_perm ((perm.map _).append_left _)

/-- Where the clock has a last reading, limits can be put on a request that do not lie beyond it,
and have the same effect. -/
theorem foldlM_limit?_eq_some {latest : Nat} :
    limits.foldlM (limit? latest) ctx = some ctx' ↔
      (∀ l ∈ limits, l.reading ≤ latest) ∧ ctx.limitAll limits = ctx' := by
  induction limits generalizing ctx with
  | nil =>
    show some ctx = some ctx' ↔ _
    simp [limitAll]
  | cons l limits ih =>
    rw [List.foldlM_cons, List.forall_mem_cons, limitAll_cons, limit?]
    by_cases early : l.reading ≤ latest
    · rw [if_pos early, and_iff_right early]
      exact ih
    · rw [if_neg early]
      simp [early]

/-! ## Tighter contexts -/

/-- A context that serves the same caller as another one, and is over by the time that the other one
is. -/
structure Tightens (ctx' ctx : Context) : Prop where
  principal : ctx'.principal = ctx.principal
  token : ctx'.token = ctx.token
  deadline : ∀ reading ∈ ctx.deadline, ∃ reading' ∈ ctx'.deadline, reading' ≤ reading

theorem Tightens.refl (ctx : Context) : ctx.Tightens ctx :=
  ⟨rfl, rfl, fun reading mem => ⟨reading, mem, Nat.le_refl _⟩⟩

theorem tightens_limitAll (ctx : Context) (limits : List Limit) :
    (ctx.limitAll limits).Tightens ctx := by
  refine ⟨principal_limitAll, token_limitAll, fun reading mem => ?_⟩
  have own : reading ∈ ctx.ends limits := List.mem_append_left _ (Option.mem_toList.2 mem)
  obtain ⟨earliest, found⟩ := Option.isSome_iff_exists.1 (List.isSome_min?_of_mem own)
  exact ⟨earliest, deadline_limitAll.trans found, (List.min?_eq_some_iff.1 found).2 reading own⟩

theorem Tightens.over (tightens : ctx'.Tightens ctx) (past : ctx.Over m) : ctx'.Over m := by
  obtain cancelled | ⟨deadline, limit, passed⟩ := past
  · exact .inl (tightens.token ▸ cancelled)
  · obtain ⟨earlier, limit', le⟩ := tightens.deadline deadline limit
    exact .inr ⟨earlier, limit', Nat.le_trans le passed⟩

/-- A context is over where its check fails. -/
theorem over_of_check {e : Error} (failed : ctx.check m = .error e) : ctx.Over m := by
  unfold check at failed
  split at failed
  · rename_i cancelled
    exact .inl (by simpa [Moment.isCancelled] using cancelled)
  · split at failed
    · rename_i deadline limit
      split at failed
      · rename_i passed
        exact .inr ⟨deadline, limit, passed⟩
      · cases failed
    · cases failed

end Context

/-! ## Runs -/

namespace Coordinator

variable {κ ν α : Type} {c : Coordinator} {ctx : Context} {job : Job κ ν α} {state state' : κ}
variable {trace : Procedure.Trace ν} {outcome : Except Error α}

/-- Every step of a run that checks a context checks the same one.  It is the caller's, with the
coordinator's timeout from the reading of the clock that the run begins with. -/
structure WorksIn (c : Coordinator) (ctx ctx' : Context) (trace : Procedure.Trace ν) : Prop where
  under : Store.Under ctx' trace
  tightens : ctx'.Tightens ctx
  untimed : c.timeout = none → ctx' = ctx
  timed : ∀ d ∈ c.timeout, ∃ now rest,
    trace = ⟨.now, now⟩ :: rest ∧ ctx' = ctx.limit (.timeout now d)

theorem exists_worksIn (run : (c.runJob ctx job state).Runs trace (outcome, state')) :
    ∃ ctx', c.WorksIn ctx ctx' trace := by
  obtain ⟨ctx', looking, tries, rfl, limited, tried⟩ := runs_runJob run
  refine ⟨ctx', ?_⟩
  obtain ⟨limitless, rfl, rfl⟩ | ⟨d, now, limit, rfl, rfl⟩ := runs_limited limited
  · refine ⟨tried.under, .refl _, fun _ => rfl, fun d timed => ?_⟩
    cases limitless.symm.trans timed
  · have looked : Store.Under (ctx.withTimeout now d)
        [(⟨.now, now⟩ : (q : Step ν) × q.Answer)] := by
      simp [Step.guard?]
    constructor
    case under => exact Store.under_append.2 ⟨looked, tried.under⟩
    case tightens => exact Context.tightens_limitAll ctx [.timeout now d]
    case untimed =>
      intro limitless
      cases limitless.symm.trans limit
    case timed =>
      intro d' timed
      cases limit.symm.trans timed
      exact ⟨now, tries, rfl, rfl⟩

end Coordinator

namespace Context

/-- **Limits only tighten.**  After any limits, a context has the earliest deadline of its own and
theirs, whatever their order, and the same principal and token; a clock with a last reading makes no
difference as long as it can represent them.  So a run of a coordinator, with any timeout, works in
a context with no later deadline than its caller's.  Once the check of a context has failed, it
fails at every later moment, also with further limits. -/
theorem limits_tighten (ctx : Context) (limits : List Limit) :
    (ctx.limitAll limits).deadline = (ctx.ends limits).min? ∧
    (ctx.limitAll limits).principal = ctx.principal ∧ (ctx.limitAll limits).token = ctx.token ∧
    (∀ limits' : List Limit, limits'.Perm limits → ctx.limitAll limits' = ctx.limitAll limits) ∧
    (∀ latest ctx', limits.foldlM (limit? latest) ctx = some ctx' ↔
      (∀ l ∈ limits, l.reading ≤ latest) ∧ ctx.limitAll limits = ctx') ∧
    (∀ {κ ν α : Type} (c : Coordinator) (job : Job κ ν α) (state state' : κ)
      (trace : Procedure.Trace ν) (outcome : Except Error α),
      (c.runJob ctx job state).Runs trace (outcome, state') → ∃ ctx', c.WorksIn ctx ctx' trace) ∧
    ∀ m m' e, m.Onward m' → ctx.check m = .error e →
      (∃ reason, ctx.check m' = .error (.cancelled reason)) ∧
      ∃ reason, (ctx.limitAll limits).check m' = .error (.cancelled reason) := by
  refine ⟨deadline_limitAll, principal_limitAll, token_limitAll, ?order, ?clock, ?runs, ?later⟩
  case order => exact fun limits' perm => limitAll_perm perm
  case clock => exact fun latest ctx' => foldlM_limit?_eq_some
  case runs => exact fun c job state state' trace outcome run => Coordinator.exists_worksIn run
  case later =>
    intro m m' e later failed
    have past := (over_of_check failed).onward later
    exact ⟨past.check, ((tightens_limitAll ctx limits).over past).check⟩

/-- A job that does nothing. -/
def idle : Job Unit Empty Nat := fun () => pure (.ok 0, ())

/-- A request that is over at 50 stays so with a timeout of 30 ns from 30 on and a deadline at 55,
in either order, but a clock that ends at 55 cannot represent the timeout.  A run that has 9 ns from
7 on works until 16, and the request is over for good from 50 on. -/
theorem limits_tighten_hasty :
    let ctx : Context := ⟨some ⟨"alice"⟩, ⟨0⟩, some 50⟩
    let limits : List Limit := [.timeout 30 ⟨30⟩, .deadline 55]
    let c : Coordinator := ⟨.once, some ⟨9⟩, fun _ => 0⟩
    (ctx.limitAll limits).deadline = some 50 ∧
      ctx.limitAll limits.reverse = ctx.limitAll limits ∧
      limits.foldlM (limit? 55) ctx = none ∧
      (∃ ctx', ctx'.deadline = some 16 ∧
        Store.Under ctx' ((c.runJob ctx idle ()).transcript Memory.store.perform
          (Store.outside ⟨⟨7, []⟩, .empty⟩))) ∧
      ctx.check ⟨50, []⟩ = .error (.cancelled "deadline exceeded") ∧
      ∃ reason, ctx.check ⟨51, [⟨3⟩]⟩ = .error (.cancelled reason) := by
  intro ctx limits c
  obtain ⟨deadline, -, -, order, clock, runs, later⟩ := limits_tighten ctx limits
  refine ⟨deadline, order _ limits.reverse_perm, ?_, ?_, rfl, ?_⟩
  · refine Option.eq_none_iff_forall_ne_some.2 fun ctx' limited => ?_
    exact absurd ((clock 55 ctx').1 limited).1 (by decide)
  · obtain ⟨ctx', works⟩ := runs c idle () _ _ _
      (Program.runs_transcript _ (Store.outside ⟨⟨7, []⟩, Memory.State.empty⟩))
    obtain ⟨now, rest, begins, rfl⟩ := works.timed _ rfl
    cases begins
    exact ⟨_, rfl, works.under⟩
  · exact (later ⟨50, []⟩ ⟨51, [⟨3⟩]⟩ _ ⟨by decide, List.nil_subset _⟩ rfl).1

end Context

end DoubleEntry
