import DoubleEntry.Proofs.Store.Keeping

/-!
# Time goes on

Clocks do not go back, and a token that is cancelled stays cancelled.  So a context that is over
(`Context.Over`) stays over, whatever its surroundings and a store do, as long as the store leaves
time to take its course (`Store.Steady`).  The stores of this library all do.

* `Context.Over.onward` — a context that is over stays over;
* `Store.along_over` — from where a context is over, it is over at every step.
-/

namespace DoubleEntry

/-! ## Moments and contexts -/

/-- A later moment: the clock has not gone back, and what was cancelled still is. -/
structure Moment.Onward (m m' : Moment) : Prop where
  now_le : m.now ≤ m'.now
  cancelled_subset : m.cancelled ⊆ m'.cancelled

namespace Moment

variable {m m' m'' : Moment}

theorem Onward.refl (m : Moment) : m.Onward m := ⟨Nat.le_refl _, List.Subset.refl _⟩

theorem Onward.trans (first : m.Onward m') (later : m'.Onward m'') : m.Onward m'' :=
  ⟨Nat.le_trans first.now_le later.now_le,
    fun _ mem => later.cancelled_subset (first.cancelled_subset mem)⟩

theorem onward_pass (m : Moment) (d : Duration) : m.Onward (m.pass d) :=
  ⟨Nat.le_add_right _ _, List.Subset.refl _⟩

theorem onward_cancel (m : Moment) (token : Token) : m.Onward (m.cancel token) :=
  ⟨Nat.le_refl _, List.subset_cons_self _ _⟩

end Moment

namespace Context

variable {ctx : Context} {m m' : Moment}

/-- The context is over: its token is cancelled, or its deadline is reached. -/
def Over (ctx : Context) (m : Moment) : Prop :=
  ctx.token ∈ m.cancelled ∨ ∃ deadline, ctx.deadline = some deadline ∧ deadline ≤ m.now

theorem Over.onward (past : ctx.Over m) (later : m.Onward m') : ctx.Over m' := by
  obtain cancelled | ⟨deadline, limit, passed⟩ := past
  · exact .inl (later.cancelled_subset cancelled)
  · exact .inr ⟨deadline, limit, Nat.le_trans passed later.now_le⟩

/-- A timeout does not prolong a context. -/
theorem Over.withTimeout (past : ctx.Over m) (now : Nat) (timeout : Duration) :
    (ctx.withTimeout now timeout).Over m := by
  obtain cancelled | ⟨deadline, limit, passed⟩ := past
  · exact .inl cancelled
  · refine .inr ⟨_, rfl, ?_⟩
    simp only [limit]
    split <;> omega

/-- Whoever checks a context that is over is told that the request is cancelled. -/
theorem Over.check (past : ctx.Over m) : ∃ reason, ctx.check m = .error (.cancelled reason) := by
  unfold Context.check
  by_cases cancelled : m.isCancelled ctx.token = true
  · exact ⟨_, if_pos cancelled⟩
  · rw [if_neg cancelled]
    obtain mem | ⟨deadline, limit, passed⟩ := past
    · simp [Moment.isCancelled, mem] at cancelled
    · simp only [limit, if_pos passed]
      exact ⟨_, rfl⟩

/-- A check that fails says that the request is cancelled. -/
theorem cancelled_of_check {e : Error} (failed : ctx.check m = .error e) :
    ∃ reason, e = .cancelled reason := by
  unfold Context.check at failed
  split at failed
  · cases failed
    exact ⟨_, rfl⟩
  · split at failed
    · split at failed
      · cases failed
        exact ⟨_, rfl⟩
      · cases failed
    · cases failed

end Context

/-! ## Stores -/

namespace Store

variable {σ τ ν : Type}

/-- A store lets time take its course, and does not take back what was cancelled. -/
structure Steady (store : Store σ τ) : Prop where
  begin : ∀ w : World σ, w.moment.Onward (store.begin w).2.moment
  call : ∀ c tx (w : World σ), w.moment.Onward (store.call c tx w).2.2.moment
  commit : ∀ tx (w : World σ), w.moment.Onward (store.commit tx w).2.moment
  rollback : ∀ tx (w : World σ), w.moment.Onward (store.rollback tx w).2.moment
  release : ∀ tx (w : World σ), w.moment.Onward (store.release tx w).moment

section Steps

variable {store : Store σ τ} {seat seat' : Seat σ τ ν}

theorem Steady.freed (steady : store.Steady) (seat : Seat σ τ ν) :
    seat.world.moment.Onward (store.freed seat).moment := by
  unfold Store.freed
  split
  · exact steady.release _ _
  · exact .refl _

/-- No step turns time back. -/
theorem Steady.perform (steady : store.Steady) {q : Step ν} {answer : q.Answer}
    (taken : store.perform q seat = (answer, seat')) :
    seat.world.moment.Onward seat'.world.moment := by
  cases q with
  | now | check ctx | notify notice =>
    cases taken
    exact .refl _
  | wait d =>
    cases taken
    exact Moment.onward_pass _ d
  | cancel token =>
    cases taken
    exact Moment.onward_cancel _ token
  | begin ctx =>
    have freed := steady.freed seat
    have begun := steady.begin (store.freed seat)
    obtain ⟨e, -, -, rfl⟩ | ⟨tx, w, eq, -, rfl⟩ | ⟨e, w, eq, -, rfl⟩ := perform_begin taken
    · exact .refl _
    · rw [eq] at begun
      exact freed.trans begun
    · rw [eq] at begun
      exact freed.trans begun
  | call ctx c =>
    obtain ⟨e, -, -, rfl⟩ | ⟨-, -, rfl⟩ | ⟨tx, tx', w, -, eq, rfl⟩ := perform_call taken
    · exact .refl _
    · exact .refl _
    · have called := steady.call c tx seat.world
      rwa [eq] at called
  | commit =>
    obtain ⟨-, -, rfl⟩ | ⟨tx, w, -, eq, rfl⟩ := perform_commit taken
    · exact .refl _
    · have ended := steady.commit tx seat.world
      rwa [eq] at ended
  | rollback =>
    obtain ⟨-, -, rfl⟩ | ⟨tx, w, -, eq, rfl⟩ := perform_rollback taken
    · exact .refl _
    · have ended := steady.rollback tx seat.world
      rwa [eq] at ended

theorem cancelled_of_takes {stirs : World σ → World σ → Prop} {ctx : Context} {e : Error}
    (taken : store.Takes stirs seat (.check ctx) (.error e) seat') :
    ∃ reason, e = .cancelled reason := by
  obtain ⟨w, -, taken⟩ := taken
  exact Context.cancelled_of_check (congrArg Prod.fst taken)

/-- A step amid surroundings, at a moment when the context is over. -/
def TakesOver (store : Store σ τ) (stirs : World σ → World σ → Prop) (ctx : Context)
    (seat : Seat σ τ ν) (q : Step ν) (answer : q.Answer) (seat' : Seat σ τ ν) : Prop :=
  ∃ w, stirs seat.world w ∧ ctx.Over w.moment ∧
    store.perform q { seat with world := w } = (answer, seat')

/-- From where a context is over, it is over at every step. -/
theorem along_over {stirs : World σ → World σ → Prop} (steady : store.Steady)
    (stirred : ∀ w w', stirs w w' → w.moment.Onward w'.moment) {ctx : Context}
    {trace : Procedure.Trace ν} (way : Program.Along (store.Takes stirs) seat trace seat')
    (past : ctx.Over seat.world.moment) :
    Program.Along (store.TakesOver stirs ctx) seat trace seat' := by
  refine way.monoWith (I := fun s => ctx.Over s.world.moment) ?_ past
  rintro e - s s' ⟨w, allowed, taken⟩ past
  have late := past.onward (stirred _ _ allowed)
  exact ⟨⟨w, allowed, late, taken⟩, late.onward (steady.perform taken)⟩

end Steps
end Store

theorem Memory.steady : Memory.store.Steady where
  begin _ := .refl _
  call c tx w := by
    show w.moment.Onward (Memory.call c tx w).2.2.moment
    unfold Memory.call
    split <;> exact .refl _
  commit tx w := by
    show w.moment.Onward (Memory.commit tx w).2.moment
    unfold Memory.commit
    split <;> exact .refl _
  rollback _ _ := .refl _
  release _ _ := .refl _

theorem Relational.steady : Relational.store.Steady where
  begin _ := .refl _
  call _ _ _ := .refl _
  commit _ _ := .refl _
  rollback _ _ := .refl _
  release _ _ := .refl _

namespace Faults

variable {σ τ : Type} {inner : Store σ τ}

theorem strike_onward (verb : Verb) (w : World (State σ)) :
    w.moment.Onward (strike verb w).2.moment := by
  unfold strike
  dsimp only
  split
  · exact Moment.onward_cancel _ _
  · exact .refl _

theorem release_onward (kept : inner.Steady) (tx : τ) (w : World (State σ)) :
    w.moment.Onward (release inner tx w).moment :=
  kept.release tx (inside w)

theorem finish_onward (kept : inner.Steady) (verb : Verb) (request : Request)
    {finishInside : τ → World σ → Except Error Unit × World σ}
    (goesOn : ∀ tx (w : World σ), w.moment.Onward (finishInside tx w).2.moment) (tx : τ)
    (w : World (State σ)) :
    w.moment.Onward (finish inner verb request finishInside tx w).2.moment := by
  have struck := strike_onward verb (note request w)
  unfold finish
  split
  · rename_i eq
    rw [eq] at struck
    exact struck.trans (release_onward kept tx _)
  · rename_i w₁ _ eq
    rw [eq] at struck
    exact struck.trans (goesOn tx (inside w₁))

/-- With faults around it, a store still leaves time to take its course. -/
theorem steady (kept : inner.Steady) : (Faults.store inner).Steady where
  begin w := by
    have struck := strike_onward .begin (note .begin w)
    show w.moment.Onward (begin inner w).2.moment
    unfold begin
    split
    · rename_i eq
      rwa [eq] at struck
    · rename_i w₁ _ eq
      rw [eq] at struck
      exact struck.trans (kept.begin (inside w₁))
  call c tx w := by
    have struck := strike_onward c.verb (note (.call c) w)
    show w.moment.Onward (call inner c tx w).2.2.moment
    unfold call
    dsimp only
    split
    · exact struck
    · exact struck.trans (kept.call c tx (inside _))
  commit := finish_onward kept _ _ kept.commit
  rollback := finish_onward kept _ _ kept.rollback
  release := release_onward kept

end Faults

end DoubleEntry
