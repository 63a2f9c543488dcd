import DoubleEntry.Proofs.Program.Runs
import DoubleEntry.Store

/-!
# Steps amid surroundings

Whoever works on a store is not alone.  Before each step the clock may move, tokens may be
cancelled, faults may be armed, and anything else may happen to the world: `Store.Takes` is a step
amid such surroundings, `Store.runAmid` runs a procedure that is told what happens.  With nothing
going on, this is `Store.run` (`run_eq_runAmid`).

`perform_begin`, `perform_call`, `perform_commit` and `perform_rollback` say what a step can do.
Only two kinds of steps outlast their transaction: a commit that succeeds, and a notice.
-/

namespace DoubleEntry

/-- The steps of somebody who works on a store, with the store's answers. -/
abbrev Procedure.Trace (ν : Type) : Type := List ((q : Step ν) × q.Answer)

namespace Store

variable {σ τ ν : Type}

/-- Stand outside any transaction, with nothing sent. -/
def outside (world : World σ) : Seat σ τ ν := ⟨world, none, []⟩

/-- A step amid surroundings: they change the world in a way that `stirs` allows, then the store
answers. -/
def Takes (store : Store σ τ) (stirs : World σ → World σ → Prop) (seat : Seat σ τ ν) (q : Step ν)
    (answer : q.Answer) (seat' : Seat σ τ ν) : Prop :=
  ∃ w, stirs seat.world w ∧ store.perform q { seat with world := w } = (answer, seat')

/-- The store's answers when the surroundings change the world before the `n`-th step by
`stir n`. -/
def performAmid (store : Store σ τ) (stir : Nat → World σ → World σ) :
    Program.Handler (Step.Answer (ν := ν)) (Seat σ τ ν × Nat)
  | q, (seat, n) =>
    let (answer, seat) := store.perform q { seat with world := stir n seat.world }
    (answer, (seat, n + 1))

theorem along_performAmid {store : Store σ τ} {stirs : World σ → World σ → Prop}
    {stir : Nat → World σ → World σ} (allowed : ∀ n w, stirs w (stir n w)) {α : Type}
    (p : Procedure ν α) (seat : Seat σ τ ν) (n : Nat) :
    Program.Along (store.Takes stirs) seat (p.transcript (store.performAmid stir) (seat, n))
      (p.exec (store.performAmid stir) (seat, n)).2.1 := by
  have taken (q : Step ν) (s : Seat σ τ ν × Nat) : store.Takes stirs s.1 q
      (store.performAmid stir q s).1 (store.performAmid stir q s).2.1 :=
    ⟨stir s.2 s.1.world, allowed s.2 _, rfl⟩
  exact Program.along_transcript Prod.fst taken p (seat, n)

/-- How a procedure ended: its value, where it left the one who ran it, and the steps it took. -/
structure Ending (σ τ ν α : Type) where
  value : α
  seat : Seat σ τ ν
  trace : Procedure.Trace ν

/-- Run a procedure amid surroundings, from outside any transaction. -/
def runAmid {α : Type} (store : Store σ τ) (stir : Nat → World σ → World σ) (p : Procedure ν α)
    (world : World σ) : Ending σ τ ν α where
  value := (p.exec (store.performAmid stir) (outside world, 0)).1
  seat := (p.exec (store.performAmid stir) (outside world, 0)).2.1
  trace := p.transcript (store.performAmid stir) (outside world, 0)

theorem runs_runAmid {α : Type} (store : Store σ τ) (stir : Nat → World σ → World σ)
    (p : Procedure ν α) (world : World σ) :
    p.Runs (store.runAmid stir p world).trace (store.runAmid stir p world).value :=
  Program.runs_transcript p _

theorem along_runAmid {store : Store σ τ} {stirs : World σ → World σ → Prop}
    {stir : Nat → World σ → World σ} (allowed : ∀ n w, stirs w (stir n w)) {α : Type}
    (p : Procedure ν α) (world : World σ) :
    Program.Along (store.Takes stirs) (outside world) (store.runAmid stir p world).trace
      (store.runAmid stir p world).seat :=
  along_performAmid allowed p _ _

theorem exec_performAmid_still {store : Store σ τ} {α : Type} (p : Procedure ν α)
    (seat : Seat σ τ ν) (n : Nat) :
    (p.exec (store.performAmid fun _ w => w) (seat, n)).1 = (p.exec store.perform seat).1 ∧
      (p.exec (store.performAmid fun _ w => w) (seat, n)).2.1 = (p.exec store.perform seat).2 := by
  induction p generalizing seat n with
  | done a => exact ⟨rfl, rfl⟩
  | ask q next ih => exact ih _ _ _

/-- A run with nothing going on around it is a run amid surroundings that stay as they are. -/
theorem run_eq_runAmid {store : Store σ τ} {α : Type} (p : Procedure ν α) (world : World σ) :
    store.run p world =
      ((store.runAmid (fun _ w => w) p world).value,
        (store.runAmid (fun _ w => w) p world).seat.world,
        (store.runAmid (fun _ w => w) p world).seat.sent.reverse) := by
  obtain ⟨value, seat⟩ := @exec_performAmid_still _ _ _ store _ p (outside world) 0
  rw [runAmid, value, seat]
  rfl

/-! ## What a step does -/

section Steps

variable {store : Store σ τ} {seat seat' : Seat σ τ ν} {ctx : Context}

/-- The world in which a transaction begins: the one that is still open is let go of. -/
def freed (store : Store σ τ) (seat : Seat σ τ ν) : World σ :=
  match seat.transaction with
  | some tx => store.release tx seat.world
  | none => seat.world

theorem perform_begin {answer : Except Error Unit}
    (taken : store.perform (.begin ctx) seat = (answer, seat')) :
    (∃ e, ctx.check seat.world.moment = .error e ∧ answer = .error e ∧ seat' = seat) ∨
      (∃ tx w, store.begin (store.freed seat) = (.ok tx, w) ∧ answer = .ok () ∧
        seat' = ⟨w, some tx, seat.sent⟩) ∨
      (∃ e w, store.begin (store.freed seat) = (.error e, w) ∧ answer = .error e ∧
        seat' = ⟨w, none, seat.sent⟩) := by
  simp only [perform] at taken
  split at taken
  · rename_i e late
    cases taken
    exact .inl ⟨e, late, rfl, rfl⟩
  · split at taken
    · rename_i tx w begun
      cases taken
      exact .inr (.inl ⟨tx, w, begun, rfl, rfl⟩)
    · rename_i e w begun
      cases taken
      exact .inr (.inr ⟨e, w, begun, rfl, rfl⟩)

theorem perform_call {c : Call} {outcome : c.Outcome}
    (taken : store.perform (.call ctx c) seat = (outcome, seat')) :
    (∃ e, ctx.check seat.world.moment = .error e ∧ outcome = .error e ∧ seat' = seat) ∨
      (seat.transaction = none ∧ outcome = .error notOpen ∧ seat' = seat) ∨
      (∃ tx tx' w, seat.transaction = some tx ∧ store.call c tx seat.world = (outcome, tx', w) ∧
        seat' = ⟨w, some tx', seat.sent⟩) := by
  simp only [perform] at taken
  split at taken
  · rename_i e late
    cases taken
    exact .inl ⟨e, late, rfl, rfl⟩
  · split at taken
    · rename_i shut
      cases taken
      exact .inr (.inl ⟨shut, rfl, rfl⟩)
    · rename_i tx opened
      cases taken
      exact .inr (.inr ⟨tx, _, _, opened, rfl, rfl⟩)

theorem perform_commit {answer : Except Error Unit}
    (taken : store.perform .commit seat = (answer, seat')) :
    (seat.transaction = none ∧ answer = .error notOpen ∧ seat' = seat) ∨
      (∃ tx w, seat.transaction = some tx ∧ store.commit tx seat.world = (answer, w) ∧
        seat' = ⟨w, none, seat.sent⟩) := by
  simp only [perform] at taken
  split at taken
  · rename_i shut
    cases taken
    exact .inl ⟨shut, rfl, rfl⟩
  · rename_i tx opened
    cases taken
    exact .inr ⟨tx, _, opened, rfl, rfl⟩

theorem perform_rollback {answer : Except Error Unit}
    (taken : store.perform .rollback seat = (answer, seat')) :
    (seat.transaction = none ∧ answer = .error notOpen ∧ seat' = seat) ∨
      (∃ tx w, seat.transaction = some tx ∧ store.rollback tx seat.world = (answer, w) ∧
        seat' = ⟨w, none, seat.sent⟩) := by
  simp only [perform] at taken
  split at taken
  · rename_i shut
    cases taken
    exact .inl ⟨shut, rfl, rfl⟩
  · rename_i tx opened
    cases taken
    exact .inr ⟨tx, _, opened, rfl, rfl⟩

/-- A commit or a rollback ends the transaction, whether or not it succeeds. -/
theorem takes_ending {stirs : World σ → World σ → Prop} {q : Step ν} {answer : q.Answer}
    (ending : q = .commit ∨ q = .rollback) (taken : store.Takes stirs seat q answer seat') :
    seat'.transaction = none := by
  obtain ⟨w, -, taken⟩ := taken
  rcases ending with rfl | rfl
  · obtain ⟨shut, -, rfl⟩ | ⟨tx, w', -, -, rfl⟩ := perform_commit taken
    · exact shut
    · rfl
  · obtain ⟨shut, -, rfl⟩ | ⟨tx, w', -, -, rfl⟩ := perform_rollback taken
    · exact shut
    · rfl

/-- Whether a step opens a transaction. -/
def isOpening : (q : Step ν) × q.Answer → Bool
  | ⟨.begin _, .ok ()⟩ => true
  | _ => false

/-- Outside any transaction, a step that does not open one stays outside. -/
theorem takes_of_not_opening {stirs : World σ → World σ → Prop} {q : Step ν} {answer : q.Answer}
    (taken : store.Takes stirs seat q answer seat') (outside : isOpening ⟨q, answer⟩ = false)
    (shut : seat.transaction = none) : seat'.transaction = none := by
  cases q with
  | commit => exact takes_ending (.inl rfl) taken
  | rollback => exact takes_ending (.inr rfl) taken
  | now | check ctx | wait d | cancel token | notify notice =>
    obtain ⟨w, -, taken⟩ := taken
    cases taken
    exact shut
  | begin ctx =>
    obtain ⟨w, -, taken⟩ := taken
    obtain ⟨e, -, -, rfl⟩ | ⟨tx, w', -, rfl, -⟩ | ⟨e, w', -, -, rfl⟩ := perform_begin taken
    · exact shut
    · cases outside
    · rfl
  | call ctx c =>
    obtain ⟨w, -, taken⟩ := taken
    obtain ⟨e, -, -, rfl⟩ | ⟨-, -, rfl⟩ | ⟨tx, tx', w', opened, -, -⟩ := perform_call taken
    · exact shut
    · exact shut
    · cases opened.symm.trans shut

end Steps

/-! ## What outlasts a transaction -/

/-- The two steps that outlast a transaction: a commit that succeeds, and a notice. -/
def Lasting : (q : Step ν) → q.Answer → Prop
  | .commit, .ok () => True
  | .notify _, _ => True
  | _, _ => False

/-- None of the steps outlasts its transaction. -/
def Passing (trace : Procedure.Trace ν) : Prop := ∀ e ∈ trace, ¬ Lasting e.1 e.2

@[simp] theorem passing_nil : Passing ([] : Procedure.Trace ν) := List.forall_mem_nil _

@[simp] theorem passing_cons {e : (q : Step ν) × q.Answer} {rest : Procedure.Trace ν} :
    Passing (e :: rest) ↔ ¬ Lasting e.1 e.2 ∧ Passing rest :=
  List.forall_mem_cons

@[simp] theorem passing_append {before after : Procedure.Trace ν} :
    Passing (before ++ after) ↔ Passing before ∧ Passing after :=
  List.forall_mem_append

/-- Whether a step is a commit that succeeded. -/
def isPublication : (q : Step ν) × q.Answer → Bool
  | ⟨.commit, .ok ()⟩ => true
  | _ => false

/-- How many of the steps are commits that succeeded. -/
def publications (trace : Procedure.Trace ν) : Nat := trace.countP isPublication

@[simp] theorem publications_append (before after : Procedure.Trace ν) :
    publications (before ++ after) = publications before + publications after :=
  List.countP_append

theorem publications_of_passing {trace : Procedure.Trace ν} (passing : Passing trace) :
    publications trace = 0 := by
  refine List.countP_eq_zero.2 fun e mem published => passing e mem ?_
  unfold isPublication at published
  split at published
  · exact trivial
  · cases published

/-- The steps that send some notices. -/
def notified (notices : List ν) : Procedure.Trace ν :=
  notices.map fun notice => ⟨.notify notice, ()⟩

@[simp] theorem publications_notified (notices : List ν) : publications (notified notices) = 0 := by
  induction notices with
  | nil => rfl
  | cons notice rest ih => exact ih

end Store
end DoubleEntry
