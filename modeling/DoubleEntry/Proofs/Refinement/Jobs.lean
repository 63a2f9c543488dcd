import DoubleEntry.Proofs.Refinement.Together

/-!
# Jobs on both stores

A coordinator that does two jobs that are alike, one on the store in memory and one on the database,
begins, commits, rolls back and tries again at the same steps, and the two outcomes agree:
`together_runJob`.  If they are successes, the tables show the ledger that the job has left; if they
are failures, they show the one from before (`Ended`).
-/

namespace DoubleEntry.Refinement

open Program Coordinator

variable {κ κ' ν α β α' β' : Type} {m m' : Nat → Moment} {p₀ p : Register} {l₀ l : Ledger}
  {ctx ctx' : Context} {R : Register → Ledger → α → β → Prop}

/-- How something ends on both sides that began with `p` and `l`. -/
inductive Ended (p : Register) (l : Ledger) (R : Register → Ledger → α → β → Prop) :
    Except Error α → Except Error β → Between ν where
  | ok {p' : Register} {l' : Ledger} {a : α} {b : β} {seat : Seat Memory.State Ledger ν}
      {seat' : Seat Relational.State Relational.Transaction ν} (part : p ≤ p')
      (values : R p' l' a b) (outside : Outside p' l' seat seat') :
      Ended p l R (.ok a) (.ok b) seat seat'
  | error {e e' : Error} {seat : Seat Memory.State Ledger ν}
      {seat' : Seat Relational.State Relational.Transaction ν} (failures : e.Agrees p.pairing e')
      (outside : Outside p l seat seat') : Ended p l R (.error e) (.error e') seat seat'

theorem together_ended_error {e e' : Error} (failures : e.Agrees p.pairing e') :
    Together m m' (Outside p l : Between ν) (.done (.error e)) (.done (.error e')) (Ended p l R) :=
  together_done fun _ _ outside => .error failures outside

/-- After an end there is a success on both sides to go on from, or a failure. -/
theorem together_of_ended {o : Except Error α} {o' : Except Error β} {x : Procedure ν α'}
    {x' : Procedure ν β'} {post : α' → β' → Between ν}
    (ok : ∀ p' l' a b, o = .ok a → o' = .ok b → p ≤ p' → R p' l' a b →
      Together m m' (Outside p' l') x x' post)
    (error : ∀ e e', o = .error e → o' = .error e' → e.Agrees p.pairing e' →
      Together m m' (Outside p l) x x' post) :
    Together m m' (Ended p l R o o') x x' post := by
  intro n seat seat' ended
  cases ended with
  | ok part values outside => exact ok _ _ _ _ rfl rfl part values n seat seat' outside
  | error failures outside => exact error _ _ rfl rfl failures n seat seat' outside

/-! ## Units of work -/

/-- Work that is alike is done alike, inside a transaction. -/
theorem together_carryOut {good : Register → Ledger → α → β → Prop} {work : Work ν α}
    {work' : Work ν β} (dated : ∀ n, (m' n).Dated) (inStep : InStep m m' ctx ctx')
    (alike : Work.Alike p₀ good p l work work') {notices notices' : List ν}
    (many : notices.length = notices'.length) :
    Together m m' (Inside p₀ l₀ p l) (carryOut ctx notices work) (carryOut ctx' notices' work')
      fun a b seat seat' => ∃ p' l', (good p' l' a.1 b.1 ∧ a.2.length = b.2.length) ∧
        Inside p₀ l₀ p' l' seat seat' := by
  induction alike generalizing notices notices' with
  | done values => exact together_done fun seat seat' inside => ⟨_, _, ⟨values, many⟩, inside⟩
  | call corresponds _ ih =>
    -- The outcomes agree by the ids of the beginning, the values by those given out meanwhile.
    refine Together.bind (together_call dated inStep corresponds) fun o o' => ?_
    refine together_of_exists fun p' => together_of_exists fun l' => together_of_pure ?_
    rintro ⟨part, agree⟩
    exact ih p' l' o o' part agree many
  | onCommit notice notice' _ ih => exact ih (by simp [many])

/-! ## Attempts -/

theorem together_abandon {cause cause' : Error} (causes : cause.Agrees p₀.pairing cause') :
    Together m m' (Inside p₀ l₀ p l : Between ν) (abandon cause) (abandon cause')
      fun e e' seat seat' => e.Agrees p₀.pairing e' ∧ Outside p₀ l₀ seat seat' := by
  refine Together.bind together_rollback fun _ _ => together_of_pure ?_
  rintro ⟨rfl, rfl⟩
  exact together_done fun _ _ outside => ⟨causes, outside⟩

theorem together_giveUp {cause cause' : Error} (causes : cause.Agrees p.pairing cause')
    {p' : Register} {l' : Ledger} :
    Together m m' (Inside p l p' l' : Between ν)
      (abandon cause >>= fun e => pure (.error e)) (abandon cause' >>= fun e => pure (.error e))
      (Ended p l R) :=
  Together.bind (together_abandon causes) fun _ _ => together_of_pure fun failures =>
    together_ended_error failures

/-- The outcome of an attempt, with the notices to be sent. -/
def WithNotices (R : Register → Ledger → α → β → Prop) (p : Register) (l : Ledger)
    (x : α × List ν) (y : β × List ν) : Prop :=
  R p l x.1 y.1 ∧ x.2.length = y.2.length

/-- The work has come to an end in a transaction; it is committed on both sides or on none. -/
theorem together_conclude (inStep : InStep m m' ctx ctx') {o : Except Error α}
    {o' : Except Error β} {notices notices' : List ν} (many : notices.length = notices'.length)
    {p' : Register} {l' : Ledger} (agree : Outcome.Agrees p.pairing (R p' l') o o') :
    Together m m' (Inside p l p' l') (conclude ctx o notices) (conclude ctx' o' notices')
      (Ended p l (WithNotices R)) := by
  cases agree with
  | error causes => exact together_giveUp causes
  | ok values =>
    refine Together.bind (together_check still_inside inStep) fun _ checked => together_of_pure ?_
    rintro rfl
    cases checked with
    | error e => exact together_giveUp (.same e)
    | ok u =>
      refine Together.bind together_commit fun _ _ => together_of_pure ?_
      rintro ⟨rfl, rfl, part⟩
      exact together_done fun _ _ outside => .ok part ⟨values, many⟩ outside

/-- An attempt at two jobs that are alike ends alike. -/
theorem together_attempt (dated : ∀ n, (m' n).Dated) (inStep : InStep m m' ctx ctx')
    {job : Job κ ν α} {job' : Job κ' ν β} (alike : Job.Alike R p l job job') (state : κ)
    (state' : κ') :
    Together m m' (Outside p l) (attempt ctx job state) (attempt ctx' job' state')
      fun r r' => Ended p l (WithNotices R) r.1 r'.1 := by
  refine Together.bind (together_begin inStep) fun _ _ => together_of_or ?_ ?_
  · refine together_of_pure ?_
    rintro ⟨rfl, rfl⟩
    refine Together.bind (together_carryOut dated inStep (alike state state') rfl) ?_
    rintro ⟨⟨o, left⟩, notices⟩ ⟨⟨o', left'⟩, notices'⟩
    refine together_of_exists fun p' => together_of_exists fun l' => together_of_pure ?_
    rintro ⟨agree, many⟩
    exact Together.bind (together_conclude inStep many agree) fun r r' =>
      together_done fun _ _ ended => ended
  · refine together_of_exists fun e => together_of_pure ?_
    rintro ⟨rfl, rfl⟩
    exact together_done fun _ _ outside => .error (.same e) outside

/-! ## Runs -/

theorem together_pause {I : Between ν} (still : Still I) (inStep : InStep m m' ctx ctx')
    (d : Duration) :
    Together m m' I (pause ctx d) (pause ctx' d) fun a b seat seat' => b = a ∧ I seat seat' := by
  refine Together.bind (together_check still inStep) fun _ checked => together_of_pure ?_
  rintro rfl
  cases checked with
  | error e => exact together_done fun _ _ start => ⟨rfl, start⟩
  | ok u =>
    by_cases short : d = .zero
    · simp only [if_pos short]
      exact together_done fun _ _ start => ⟨rfl, start⟩
    · simp only [if_neg short]
      exact Together.bind (together_wait still d) fun _ _ => together_check still inStep

theorem together_notifyAll {notices notices' : List ν} (many : notices.length = notices'.length) :
    Together m m' (Outside p l) (notifyAll notices) (notifyAll notices')
      fun _ _ => Outside p l := by
  induction notices generalizing notices' with
  | nil =>
    obtain rfl := List.length_eq_zero_iff.1 many.symm
    exact together_done fun _ _ outside => outside
  | cons notice rest ih =>
    obtain ⟨notice', rest', rfl⟩ := List.exists_cons_of_length_eq_add_one many.symm
    exact Together.bind (together_notify notice notice') fun _ _ => ih (Nat.succ.inj many)

/-- After a commit the notices go out. -/
theorem together_announce {p' : Register} {l' : Ledger} {a : α} {b : β} {state : κ} {state' : κ'}
    {notices notices' : List ν} (part : p ≤ p')
    (values : WithNotices R p' l' (a, notices) (b, notices')) :
    Together m m' (Outside p' l') (notifyAll notices >>= fun _ => pure (Except.ok a, state))
      (notifyAll notices' >>= fun _ => pure (Except.ok b, state'))
      fun r r' => Ended p l R r.1 r'.1 :=
  Together.bind (together_notifyAll values.2) fun _ _ =>
    together_done fun _ _ outside => .ok part values.1 outside

theorem together_attempts (c : Coordinator) (dated : ∀ n, (m' n).Dated)
    (inStep : InStep m m' ctx ctx') {job : Job κ ν α} {job' : Job κ' ν β}
    (alike : Job.Alike R p l job job') (retries tried : Nat) (state : κ) (state' : κ') :
    Together m m' (Outside p l) (c.attempts ctx job retries tried state)
      (c.attempts ctx' job' retries tried state') fun r r' => Ended p l R r.1 r'.1 := by
  induction retries generalizing tried state state' with
  | zero =>
    rw [attempts, attempts]
    refine Together.bind (together_attempt dated inStep alike state state') ?_
    rintro ⟨o, left⟩ ⟨o', left'⟩
    refine together_of_ended ?_ ?_
    · rintro p' l' ⟨a, notices⟩ ⟨b, notices'⟩ rfl rfl part values
      exact together_announce part values
    · rintro e e' rfl rfl failures
      exact together_done fun _ _ outside => .error failures outside
  | succ more ih =>
    rw [attempts, attempts]
    refine Together.bind (together_attempt dated inStep alike state state') ?_
    rintro ⟨o, left⟩ ⟨o', left'⟩
    refine together_of_ended ?_ ?_
    · rintro p' l' ⟨a, notices⟩ ⟨b, notices'⟩ rfl rfl part values
      exact together_announce part values
    · rintro e e' rfl rfl failures
      -- Failures that agree are both transient or both not, so both sides pause or both give up.
      dsimp only
      rw [failures.isTransient]
      by_cases transient : e.isTransient = true
      · rw [if_pos transient, if_pos transient]
        refine Together.bind (together_pause still_outside inStep _) fun _ paused =>
          together_of_pure ?_
        rintro rfl
        cases paused with
        | error late => exact together_done fun _ _ outside => .error (.same late) outside
        | ok u => exact ih (tried + 1) left left'
      · rw [if_neg transient, if_neg transient]
        exact together_done fun _ _ outside => .error failures outside

/-- The context of a job whose timeout begins at a reading of the clock. -/
def contextFrom (c : Coordinator) (ctx : Context) (reading : Nat) : Context :=
  match c.timeout with
  | some d => ctx.withTimeout reading d
  | none => ctx

/-- Contexts are checked with the same outcome at every step of the two runs of a coordinator,
whenever their timeouts begin. -/
def RunsInStep (c : Coordinator) (ctx : Context) (m m' : Nat → Moment) : Prop :=
  ∀ k, InStep m m' (contextFrom c ctx (m k).now) (contextFrom c ctx (m' k).now)

/-- Contexts that allow everything on both sides are in step, if the timeouts are longer than the
clocks move. -/
theorem runsInStep_of_allowed {c : Coordinator} (allowed : ∀ n, ctx.check (m n) = .ok ())
    (allowed' : ∀ n, ctx.check (m' n) = .ok ())
    (early : ∀ d, c.timeout = some d → ∀ n k, (m n).now < (m k).now + d.nanos)
    (early' : ∀ d, c.timeout = some d → ∀ n k, (m' n).now < (m' k).now + d.nanos) :
    RunsInStep c ctx m m' := by
  intro k n
  unfold contextFrom
  cases limit : c.timeout with
  | none => rw [allowed, allowed']
  | some d =>
    rw [Memory.check_withTimeout (allowed n) (early d limit n k),
      Memory.check_withTimeout (allowed' n) (early' d limit n k)]

theorem together_limited {c : Coordinator} (inStep : RunsInStep c ctx m m') :
    Together m m' (Outside p l : Between ν) (c.limited ctx) (c.limited ctx)
      fun ctx₁ ctx₁' seat seat' => InStep m m' ctx₁ ctx₁' ∧ Outside p l seat seat' := by
  unfold limited
  unfold RunsInStep contextFrom at inStep
  cases limit : c.timeout with
  | none =>
    simp only [limit] at inStep
    exact together_done fun _ _ outside => ⟨inStep 0, outside⟩
  | some d =>
    simp only [limit] at inStep
    refine Together.bind (together_now still_outside) fun _ _ => together_of_pure ?_
    rintro ⟨k, rfl, rfl⟩
    exact together_done fun _ _ outside => ⟨inStep k, outside⟩

/-- **Jobs that are alike end alike** on the two stores, however often they are tried. -/
theorem together_runJob {c : Coordinator} (dated : ∀ n, (m' n).Dated)
    (inStep : RunsInStep c ctx m m') {job : Job κ ν α} {job' : Job κ' ν β}
    (alike : Job.Alike R p l job job') (state : κ) (state' : κ') :
    Together m m' (Outside p l) (c.runJob ctx job state) (c.runJob ctx job' state')
      fun r r' => Ended p l R r.1 r'.1 :=
  Together.bind (together_limited inStep) fun _ _ => together_of_pure fun inStep =>
    together_attempts c dated inStep alike _ _ state state'

/-! ## Operations -/

/-- Two operations end alike. -/
def EndAlike (m m' : Nat → Moment) (p : Register) (l : Ledger)
    (R : Register → Ledger → α → β → Prop) (x : Operation ν α) (x' : Operation ν β) : Prop :=
  Together m m' (Outside p l) x.run x'.run (Ended p l R)

section Operations

variable {x : Operation ν α} {x' : Operation ν β} {agree : α → β → Prop}
  {R' : Register → Ledger → α' → β' → Prop}

theorem endAlike_run {c : Coordinator} (dated : ∀ n, (m' n).Dated)
    (inStep : RunsInStep c ctx m m') {task : Task ν α} {task' : Task ν β}
    (alike : task.Alike p R p l task') :
    EndAlike m m' p l R (c.run ctx task) (c.run ctx task') :=
  Together.bind (together_runJob dated inStep (Job.alike_ofTask alike) () ())
    fun _ _ => together_done fun _ _ ended => ended

theorem endAlike_pure {a : α} {b : β} (values : R p l a b) :
    EndAlike m m' p l R (pure a : Operation ν α) (pure b) :=
  together_done fun _ _ outside => .ok p.le_refl values outside

/-- A check that does not depend on the store. -/
theorem endAlike_require {o : Except Error α} {agree : α → α → Prop} (values : ∀ a, agree a a) :
    EndAlike m m' p l (Unmoved p l agree) (Operation.require o : Operation ν α)
      (Operation.require o) := by
  cases o with
  | ok a => exact endAlike_pure ⟨rfl, rfl, values a⟩
  | error e => exact together_ended_error (.same e)

/-- After an operation that leaves everything as it is, the next one starts where it started. -/
theorem EndAlike.bind {f : α → Operation ν α'} {f' : β → Operation ν β'}
    (first : EndAlike m m' p l (Unmoved p l agree) x x')
    (later : ∀ a b, agree a b → EndAlike m m' p l R' (f a) (f' b)) :
    EndAlike m m' p l R' (x >>= f) (x' >>= f') := by
  show Together _ _ _ (x.run >>= ExceptT.bindCont f) (x'.run >>= ExceptT.bindCont f') _
  refine Together.bind first fun o o' => together_of_ended ?_ ?_
  · rintro _ _ a b rfl rfl - ⟨rfl, rfl, values⟩
    exact later a b values
  · rintro e e' rfl rfl failures
    exact together_ended_error failures

theorem EndAlike.map (alike : EndAlike m m' p l R x x') {f : α → α'} {g : β → β'}
    (values : ∀ p' l' a b, R p' l' a b → R' p' l' (f a) (g b)) :
    EndAlike m m' p l R' (f <$> x) (g <$> x') := by
  show Together _ _ _ (x >>= fun a => pure (f a)).run (x' >>= fun b => pure (g b)).run _
  show Together _ _ _ (x.run >>= ExceptT.bindCont _) (x'.run >>= ExceptT.bindCont _) _
  refine Together.bind alike fun o o' => together_of_ended ?_ ?_
  · rintro p' l' a b rfl rfl part related
    exact together_done fun _ _ outside => .ok part (values p' l' a b related) outside
  · rintro e e' rfl rfl failures
    exact together_ended_error failures

end Operations
end DoubleEntry.Refinement
