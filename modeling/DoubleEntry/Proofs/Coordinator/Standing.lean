import DoubleEntry.Proofs.Ledger.Schema
import DoubleEntry.Proofs.Work.OnLedger

/-!
# The standing of a client

How a ledger store with one transaction at a time looks to one of its clients.  A `Standing` is what
the client has seen and done: the ledger it last saw committed, its open transaction, what it has
published, and the notices it has sent.  What the others and the faults may do to it is a
`Surroundings`.

`Outlasts.standing` says where the run of a job leaves a client: if it succeeds, the ledger that the
work left behind is published, on top of one that was committed; if it fails, nothing is.
`standing_of_reliable` says more for surroundings in which nothing fails: the outcome is that of the
work on one of the ledgers that were committed.  In surroundings that keep still besides, that is
the ledger which the client found (`standing_of_calm`).
-/

namespace DoubleEntry

open Program

/-- What goes on around a client of a store. -/
structure Surroundings where
  /-- How the committed ledger may change from one transaction of the client to the next. -/
  passes : Ledger → Ledger → Prop
  /-- How calls are answered, under a context. -/
  answers : Context → Ledger → (c : Call) → c.Outcome → Ledger → Prop
  /-- What the clock may show. -/
  reads : Nat → Prop
  /-- Whether a step that is guarded by the context may fail. -/
  stops : Context → Prop
  /-- Whether commits and rollbacks may fail. -/
  breaks : Prop
  passes_refl : ∀ l, passes l l
  passes_trans : ∀ {l l' l''}, passes l l' → passes l' l'' → passes l l''

/-- Neither the steps under the context nor the store fail, though others may commit. -/
structure Surroundings.Reliable (amid : Surroundings) (ctx : Context) : Prop where
  allowed : ¬ amid.stops ctx
  sound : ¬ amid.breaks

/-- Nobody else commits, and neither the steps under the context nor the store fail. -/
structure Surroundings.Calm (amid : Surroundings) (ctx : Context) : Prop where
  still : ∀ {l l'}, amid.passes l l' → l' = l
  allowed : ¬ amid.stops ctx
  sound : ¬ amid.breaks

/-- Others leave accounts with their owners and keep the constraints of the schema, and calls are
carried out as long as their context allows. -/
structure Surroundings.Fair (amid : Surroundings) : Prop where
  persists : ∀ {l l'}, amid.passes l l' → l.PersistsIn l'
  schema : ∀ {l l'}, amid.passes l l' → l.WellFormed → l'.WellFormed
  carries : ∀ {ctx l c outcome l'}, amid.answers ctx l c outcome l' →
    l.CarriesOut c outcome l' ∨ amid.stops ctx

theorem Surroundings.Fair.carriesOut {ν : Type} {amid : Surroundings} {ctx : Context}
    {l l' : Ledger} (fair : amid.Fair) (reliable : amid.Reliable ctx) {steps : Work.Record ν}
    (way : Along (Work.Acts (amid.answers ctx)) l steps l') :
    Along (Work.Acts Ledger.CarriesOut) l steps l' := by
  refine way.mono fun ⟨q, answer⟩ _ l l' taken => ?_
  cases q with
  | call c => exact (fair.carries taken).resolve_right reliable.allowed
  | onCommit notice | wait d | cancel token => exact taken

/-- Where a client stands that sends notices of type `ν`. -/
structure Standing (ν : Type) where
  /-- The ledger that the client last saw committed. -/
  seen : Ledger
  /-- The open transaction: the ledger it began on, and what it has made of it. -/
  opened : Option (Ledger × Ledger)
  /-- The transactions that the client has committed, with what they began on. -/
  published : List (Ledger × Ledger)
  sent : List ν

namespace Standing

variable {ν : Type} {amid : Surroundings} {s s' : Standing ν} {ctx : Context}

/-- What a step does to the standing of a client. -/
def Takes (amid : Surroundings) (s : Standing ν) : (q : Step ν) → q.Answer → Standing ν → Prop
  | .check ctx, answer, s' => (answer = .ok () ∨ amid.stops ctx) ∧ s' = s
  | .begin _, .ok (), s' =>
    ∃ b, amid.passes s.seen b ∧ s' = { s with seen := b, opened := some (b, b) }
  | .begin ctx, .error _, s' => amid.stops ctx ∧ (s' = s ∨ s' = { s with opened := none })
  | .call ctx c, outcome, s' =>
    match s.opened with
    | none => (∃ e, outcome = .error e) ∧ s' = s
    | some (b, l) => ∃ l', amid.answers ctx l c outcome l' ∧ s' = { s with opened := some (b, l') }
  | .commit, .ok (), s' => ∃ b l, s.opened = some (b, l) ∧
    s' = ⟨l, none, s.published ++ [(b, l)], s.sent⟩
  | .commit, .error _, s' => (s.opened = none ∨ amid.breaks) ∧ s' = { s with opened := none }
  | .rollback, answer, s' => (answer = .ok () ∨ s.opened = none ∨ amid.breaks) ∧
    s' = { s with opened := none }
  | .notify notice, _, s' => s' = { s with sent := s.sent ++ [notice] }
  | .now, reading, s' => amid.reads reading ∧ s' = s
  | .wait _, _, s' => s' = s
  | .cancel _, _, s' => s' = s

/-- Steps that do not outlast their transactions publish and send nothing. -/
theorem takes_passing {q : Step ν} {answer : q.Answer} (taken : s.Takes amid q answer s')
    (passing : ¬ Store.Lasting q answer) :
    s'.published = s.published ∧ s'.sent = s.sent ∧ amid.passes s.seen s'.seen := by
  cases q with
  | notify notice => exact absurd trivial passing
  | wait d | cancel token =>
    cases taken
    exact ⟨rfl, rfl, amid.passes_refl _⟩
  | now | check ctx | rollback =>
    obtain ⟨-, rfl⟩ := taken
    exact ⟨rfl, rfl, amid.passes_refl _⟩
  | begin ctx =>
    rcases answer with e | ⟨⟩
    · obtain ⟨-, rfl | rfl⟩ := taken <;> exact ⟨rfl, rfl, amid.passes_refl _⟩
    · obtain ⟨b, passes, rfl⟩ := taken
      exact ⟨rfl, rfl, passes⟩
  | call ctx c =>
    obtain ⟨seen, opened, published, sent⟩ := s
    rcases opened with _ | ⟨b, l⟩
    · obtain ⟨-, rfl⟩ := taken
      exact ⟨rfl, rfl, amid.passes_refl _⟩
    · obtain ⟨l', -, rfl⟩ := taken
      exact ⟨rfl, rfl, amid.passes_refl _⟩
  | commit =>
    rcases answer with e | ⟨⟩
    · obtain ⟨-, rfl⟩ := taken
      exact ⟨rfl, rfl, amid.passes_refl _⟩
    · exact absurd trivial passing

theorem along_passing {trace : Procedure.Trace ν} (way : Along (Takes amid) s trace s')
    (passing : Store.Passing trace) :
    s'.published = s.published ∧ s'.sent = s.sent ∧ amid.passes s.seen s'.seen := by
  refine Along.keeps (P := fun t => t.published = s.published ∧ t.sent = s.sent ∧
    amid.passes s.seen t.seen) way ?_ ⟨rfl, rfl, amid.passes_refl _⟩
  rintro e mem t t' taken ⟨published, sent, passes⟩
  obtain ⟨published', sent', passes'⟩ := takes_passing taken (passing e mem)
  exact ⟨published'.trans published, sent'.trans sent, amid.passes_trans passes passes'⟩

/-- A unit of work turns the ledger of its transaction into another one. -/
theorem along_enacted {steps : Work.Record ν} {b l : Ledger}
    (way : Along (Takes amid) s (steps.enacted ctx) s') (opened : s.opened = some (b, l)) :
    ∃ l', Along (Work.Acts (amid.answers ctx)) l steps l' ∧
      s' = { s with opened := some (b, l') } := by
  induction steps generalizing s l with
  | nil =>
    cases way
    refine ⟨l, rfl, ?_⟩
    rw [← opened]
  | cons step rest ih =>
    obtain ⟨q, answer⟩ := step
    cases q with
    | call c =>
      obtain ⟨next, taken, way⟩ := way
      simp only [Takes, opened] at taken
      obtain ⟨l₁, answered, rfl⟩ := taken
      obtain ⟨l', later, rfl⟩ := ih way rfl
      exact ⟨l', ⟨l₁, answered, later⟩, rfl⟩
    | onCommit notice =>
      obtain ⟨l', later, rfl⟩ := ih way opened
      exact ⟨l', ⟨l, rfl, later⟩, rfl⟩
    | wait d | cancel token =>
      obtain ⟨next, rfl, way⟩ := way
      obtain ⟨l', later, rfl⟩ := ih way opened
      exact ⟨l', ⟨l, rfl, later⟩, rfl⟩

theorem along_committing {steps : Work.Record ν}
    (way : Along (Takes amid) s (steps.committing ctx) s') :
    ∃ b l, amid.passes s.seen b ∧ Along (Work.Acts (amid.answers ctx)) b steps l ∧
      s' = ⟨l, none, s.published ++ [(b, l)], s.sent⟩ := by
  obtain ⟨begun, ⟨b, passes, rfl⟩, way⟩ := way
  obtain ⟨worked, during, way⟩ := along_append.1 way
  obtain ⟨l, acts, rfl⟩ := along_enacted during rfl
  obtain ⟨_, ⟨-, rfl⟩, _, ⟨b', l', same, rfl⟩, rfl⟩ := way
  cases same
  exact ⟨b, l, passes, acts, rfl⟩

theorem along_notified {notices : List ν}
    (way : Along (Takes amid) s (Store.notified notices) s') :
    s' = { s with sent := s.sent ++ notices } := by
  induction notices generalizing s with
  | nil =>
    cases way
    rw [List.append_nil]
  | cons notice rest ih =>
    obtain ⟨next, rfl, way⟩ := way
    rw [ih way, List.append_assoc]
    rfl

end Standing

namespace Coordinator

variable {κ ν α : Type} {amid : Surroundings} {s s' : Standing ν} {ctx : Context}
  {job : Job κ ν α} {trace : Procedure.Trace ν}

open Standing

/-- Where the run of a job leaves a client: a success publishes what the work made of a committed
ledger and sends its notices, a failure leaves nothing. -/
theorem Outlasts.standing {outcome : Except Error α} {state' : κ}
    (outlasts : Outlasts ctx job trace outcome state') (way : Along (Takes amid) s trace s') :
    match outcome with
    | .ok value => ∃ b l, ∃ steps : Work.Record ν, ∃ state, amid.passes s.seen b ∧
        (job state).Runs steps (.ok value, state') ∧
        Along (Work.Acts (amid.answers ctx)) b steps l ∧
        s' = ⟨l, none, s.published ++ [(b, l)], s.sent ++ steps.registered⟩
    | .error _ => s'.published = s.published ∧ s'.sent = s.sent ∧ amid.passes s.seen s'.seen := by
  rcases outcome with e | value
  · exact along_passing way outlasts
  · obtain ⟨tried, steps, state, passing, work, rfl⟩ := outlasts
    obtain ⟨s₁, before, way⟩ := along_append.1 way
    obtain ⟨published, sent, passes⟩ := along_passing before passing
    obtain ⟨s₂, committed, told⟩ := along_append.1 way
    obtain ⟨b, l, passes', acts, rfl⟩ := along_committing committed
    have left := along_notified told
    rw [published, sent] at left
    exact ⟨b, l, steps, state, amid.passes_trans passes passes', work, acts, left⟩

/-! ## Surroundings in which nothing fails -/

/-- An attempt in reliable surroundings ends as its work does, on the ledger that it began on. -/
theorem Attempted.standing_of_reliable (reliable : amid.Reliable ctx) {state state' : κ}
    {outcome : Except Error (α × List ν)}
    (attempted : Attempted ctx job state trace outcome state')
    (way : Along (Takes amid) s trace s') :
    ∃ steps : Work.Record ν, ∃ b l, amid.passes s.seen b ∧
      (job state).Runs steps (outcome.map (·.1), state') ∧
      Along (Work.Acts (amid.answers ctx)) b steps l ∧ s'.sent = s.sent ∧
      s'.seen = (if outcome.isOk then l else b) ∧
      ∀ done, outcome = .ok done → done.2 = steps.registered := by
  cases attempted with
  | refused e =>
    obtain ⟨_, ⟨stops, -⟩, -⟩ := way
    exact absurd stops reliable.allowed
  | failed work ended =>
    obtain ⟨_, ⟨b, passes, rfl⟩, way⟩ := way
    obtain ⟨_, during, _, ⟨ends, rfl⟩, rfl⟩ := along_append.1 way
    obtain ⟨l, acts, rfl⟩ := along_enacted during rfl
    obtain rfl := (ends.resolve_right (by simp [reliable.sound]))
    exact ⟨_, b, l, passes, work, acts, rfl, rfl, nofun⟩
  | cancelled work cause ended =>
    obtain ⟨_, -, way⟩ := way
    obtain ⟨_, -, _, ⟨checked, -⟩, -⟩ := along_append.1 way
    exact absurd (checked.resolve_left nofun) reliable.allowed
  | conflicted work e =>
    obtain ⟨_, ⟨b, -, rfl⟩, way⟩ := way
    obtain ⟨_, during, _, ⟨-, rfl⟩, _, ⟨broken, -⟩, -⟩ := along_append.1 way
    obtain ⟨l, -, rfl⟩ := along_enacted during rfl
    exact absurd (broken.resolve_left nofun) reliable.sound
  | committed work =>
    obtain ⟨b, l, passes, acts, rfl⟩ := along_committing way
    refine ⟨_, b, l, passes, work, acts, rfl, rfl, ?_⟩
    rintro _ ⟨⟩
    rfl

/-- In reliable surroundings a job is tried until its work succeeds or fails for good, and its
outcome is that of the work on a ledger that was committed when the last attempt began. -/
theorem Tried.standing_of_reliable (reliable : amid.Reliable ctx) {c : Coordinator}
    {retries n : Nat} {state state' : κ} {outcome : Except Error α}
    (tried : Tried c ctx job retries n state trace outcome state')
    (way : Along (Takes amid) s trace s') :
    ∃ state₁, ∃ steps : Work.Record ν, ∃ b l, amid.passes s.seen b ∧
      (job state₁).Runs steps (outcome, state') ∧
      Along (Work.Acts (amid.answers ctx)) b steps l ∧
      s'.seen = (if outcome.isOk then l else b) ∧
      s'.sent = (if outcome.isOk then s.sent ++ steps.registered else s.sent) := by
  induction tried generalizing s with
  | succeeded last =>
    obtain ⟨s₁, way, told⟩ := along_append.1 way
    obtain ⟨steps, b, l, passes, work, acts, sent, seen, notices⟩ :=
      last.standing_of_reliable reliable way
    obtain rfl := along_notified told
    refine ⟨_, steps, b, l, passes, work, acts, seen, ?_⟩
    show s₁.sent ++ _ = s.sent ++ _
    rw [sent, ← notices _ rfl]
  | gaveUp last final =>
    obtain ⟨steps, b, l, passes, work, acts, sent, seen, -⟩ :=
      last.standing_of_reliable reliable way
    exact ⟨_, steps, b, l, passes, work, acts, seen, sent⟩
  | interrupted last transient paused =>
    obtain ⟨s₁, -, waited⟩ := along_append.1 way
    have stops : amid.stops ctx := by
      obtain rfl | rfl := runs_pause paused
      · obtain ⟨_, ⟨checked, -⟩, -⟩ := waited
        exact checked.resolve_left nofun
      · obtain ⟨_, -, _, -, _, ⟨checked, -⟩, -⟩ := waited
        exact checked.resolve_left nofun
    exact absurd stops reliable.allowed
  | again first transient paused later ih =>
    obtain ⟨s₁, way, rest⟩ := along_append.1 way
    obtain ⟨s₂, waited, rest⟩ := along_append.1 rest
    obtain ⟨_, b₁, _, passes₁, -, -, sent₁, seen₁, -⟩ := first.standing_of_reliable reliable way
    obtain ⟨-, sent₂, passes₂⟩ := along_passing waited (passing_of_pause paused)
    obtain ⟨state₁, steps, b, l, passes, work, acts, seen, sent⟩ := ih rest
    have seen₁ : s₁.seen = b₁ := seen₁
    rw [seen₁] at passes₂
    rw [sent₂, sent₁] at sent
    exact ⟨state₁, steps, b, l, amid.passes_trans passes₁ (amid.passes_trans passes₂ passes), work,
      acts, seen, sent⟩

/-! ## Whole runs -/

/-- What a coordinator may make of a context before it tries a job: the context itself, or that
context with the timeout from some reading of the clock on. -/
def Limits (amid : Surroundings) (c : Coordinator) (ctx ctx' : Context) : Prop :=
  c.timeout = none ∧ ctx' = ctx ∨
    ∃ d reading, c.timeout = some d ∧ amid.reads reading ∧ ctx' = ctx.withTimeout reading d

/-- The surroundings are reliable for the runs of a coordinator, whenever it starts to count its
timeout. -/
def ReliableFor (amid : Surroundings) (c : Coordinator) (ctx : Context) : Prop :=
  ∀ ctx', Limits amid c ctx ctx' → amid.Reliable ctx'

/-- The surroundings are calm for the runs of a coordinator, whenever it starts to count its
timeout. -/
def CalmFor (amid : Surroundings) (c : Coordinator) (ctx : Context) : Prop :=
  ∀ ctx', (c.timeout = none ∧ ctx' = ctx ∨
    ∃ d reading, c.timeout = some d ∧ amid.reads reading ∧ ctx' = ctx.withTimeout reading d) →
    amid.Calm ctx'

theorem CalmFor.reliable {c : Coordinator} (calm : CalmFor amid c ctx) : ReliableFor amid c ctx :=
  fun ctx' limits => ⟨(calm ctx' limits).allowed, (calm ctx' limits).sound⟩

/-- The run of a job is that of its attempts under a limited context. -/
theorem limits_of_runJob {c : Coordinator} {state state' : κ} {outcome : Except Error α}
    (run : (c.runJob ctx job state).Runs trace (outcome, state'))
    (way : Along (Takes amid) s trace s') :
    ∃ ctx' tries, Limits amid c ctx ctx' ∧
      Tried c ctx' job (c.policy.maxAttempts - 1) 1 state tries outcome state' ∧
      Along (Takes amid) s tries s' := by
  obtain ⟨ctx', looking, tries, rfl, limited, tried⟩ := runs_runJob run
  obtain ⟨s₁, looked, later⟩ := along_append.1 way
  obtain ⟨limitless, rfl, rfl⟩ | ⟨d, reading, limit, rfl, rfl⟩ := runs_limited limited
  · cases looked
    exact ⟨_, tries, .inl ⟨limitless, rfl⟩, tried, later⟩
  · obtain ⟨_, ⟨reads, rfl⟩, rfl⟩ := looked
    exact ⟨_, tries, .inr ⟨d, reading, limit, reads, rfl⟩, tried, later⟩

/-- In reliable surroundings the outcome of a job is that of its work on a ledger that was
committed. -/
theorem standing_of_reliable {c : Coordinator} (reliable : ReliableFor amid c ctx)
    {state state' : κ} {outcome : Except Error α}
    (run : (c.runJob ctx job state).Runs trace (outcome, state'))
    (way : Along (Takes amid) s trace s') :
    ∃ ctx', amid.Reliable ctx' ∧ ∃ state₁, ∃ steps : Work.Record ν, ∃ b l, amid.passes s.seen b ∧
      (job state₁).Runs steps (outcome, state') ∧
      Along (Work.Acts (amid.answers ctx')) b steps l ∧
      s'.seen = (if outcome.isOk then l else b) ∧
      s'.sent = (if outcome.isOk then s.sent ++ steps.registered else s.sent) := by
  obtain ⟨ctx', tries, limits, tried, way⟩ := limits_of_runJob run way
  exact ⟨ctx', reliable ctx' limits, tried.standing_of_reliable (reliable ctx' limits) way⟩

/-- In calm surroundings the outcome of a job is that of its work on the committed ledger. -/
theorem standing_of_calm {c : Coordinator} (calm : CalmFor amid c ctx) {state state' : κ}
    {outcome : Except Error α} (run : (c.runJob ctx job state).Runs trace (outcome, state'))
    (way : Along (Takes amid) s trace s') :
    ∃ ctx', amid.Calm ctx' ∧ ∃ state₁, ∃ steps : Work.Record ν, ∃ l,
      (job state₁).Runs steps (outcome, state') ∧
      Along (Work.Acts (amid.answers ctx')) s.seen steps l ∧
      s'.seen = (if outcome.isOk then l else s.seen) ∧
      s'.sent = (if outcome.isOk then s.sent ++ steps.registered else s.sent) := by
  obtain ⟨ctx', tries, limits, tried, way⟩ := limits_of_runJob run way
  have still := calm ctx' limits
  obtain ⟨state₁, steps, b, l, passes, found⟩ :=
    tried.standing_of_reliable (calm.reliable ctx' limits) way
  obtain rfl := still.still passes
  exact ⟨ctx', still, state₁, steps, l, found⟩

end Coordinator
end DoubleEntry
