import DoubleEntry.Proofs.Store.Steps
import DoubleEntry.Store.Faults
import DoubleEntry.Store.Memory
import DoubleEntry.Store.Relational

/-!
# How stores keep a ledger

What a coordinator may rely on in a store, whatever else the store does and however often it fails,
is a `Store.Keeping`: what is committed changes only by a commit that succeeds, which publishes what
the transaction has staged; a transaction starts from what is committed.  The store in memory, the
relational one, and any such store with faults around it keep their ledgers in this way.
-/

namespace DoubleEntry

namespace Store

variable {σ τ ν Λ : Type}

/-! ## Keeping a ledger -/

/-- A store keeps a ledger: what of it is committed, what a transaction has staged, and that nothing
but a successful commit changes what is committed. -/
structure Keeping (store : Store σ τ) (Λ : Type) where
  committed : σ → Λ
  staged : τ → Λ
  begin_ok : ∀ {w tx w'}, store.begin w = (.ok tx, w') → staged tx = committed w.data
  begin_keeps : ∀ w, committed (store.begin w).2.data = committed w.data
  call_keeps : ∀ c tx w, committed (store.call c tx w).2.2.data = committed w.data
  commit_ok : ∀ {tx w w'}, store.commit tx w = (.ok (), w') → committed w'.data = staged tx
  commit_error : ∀ {tx w e w'}, store.commit tx w = (.error e, w') →
    committed w'.data = committed w.data
  rollback_keeps : ∀ tx w, committed (store.rollback tx w).2.data = committed w.data
  release_keeps : ∀ tx w, committed (store.release tx w).data = committed w.data

namespace Keeping

variable {store : Store σ τ} (keeping : store.Keeping Λ)

/-- The ledger that is committed. -/
def ledger (seat : Seat σ τ ν) : Λ := keeping.committed seat.world.data

/-- The ledger of the open transaction. -/
def staged? (seat : Seat σ τ ν) : Option Λ := seat.transaction.map keeping.staged

/-- What may happen around the steps: all that leaves the committed ledger alone. -/
def Spares (w w' : World σ) : Prop := keeping.committed w'.data = keeping.committed w.data

/-- A way through some steps amid surroundings that leave the committed ledger alone. -/
def Way (seat : Seat σ τ ν) (trace : Procedure.Trace ν) (seat' : Seat σ τ ν) : Prop :=
  Program.Along (store.Takes keeping.Spares) seat trace seat'

variable {keeping} {seat seat' : Seat σ τ ν}

theorem committed_freed (seat : Seat σ τ ν) :
    keeping.committed (store.freed seat).data = keeping.ledger seat := by
  unfold freed ledger
  split
  · exact keeping.release_keeps _ _
  · rfl

theorem committed_begin {seat : Seat σ τ ν} {answer : Except Error τ} {w : World σ}
    (begun : store.begin (store.freed seat) = (answer, w)) :
    keeping.committed w.data = keeping.ledger seat := by
  have kept := keeping.begin_keeps (store.freed seat)
  rw [begun] at kept
  exact kept.trans (committed_freed seat)

/-- A step that does not outlast its transaction leaves the committed ledger alone and sends
nothing. -/
theorem perform_of_not_lasting {q : Step ν} {answer : q.Answer}
    (taken : store.perform q seat = (answer, seat')) (passing : ¬ Lasting q answer) :
    keeping.ledger seat' = keeping.ledger seat ∧ seat'.sent = seat.sent := by
  cases q with
  | notify notice => exact absurd trivial passing
  | now | check ctx | wait d | cancel token =>
    cases taken
    exact ⟨rfl, rfl⟩
  | begin ctx =>
    obtain ⟨e, -, -, rfl⟩ | ⟨tx, w, begun, -, rfl⟩ | ⟨e, w, begun, -, rfl⟩ := perform_begin taken
    · exact ⟨rfl, rfl⟩
    · exact ⟨committed_begin begun, rfl⟩
    · exact ⟨committed_begin begun, rfl⟩
  | call ctx c =>
    obtain ⟨e, -, -, rfl⟩ | ⟨-, -, rfl⟩ | ⟨tx, tx', w, -, called, rfl⟩ := perform_call taken
    · exact ⟨rfl, rfl⟩
    · exact ⟨rfl, rfl⟩
    · have kept := keeping.call_keeps c tx seat.world
      rw [called] at kept
      exact ⟨kept, rfl⟩
  | commit =>
    obtain ⟨-, -, rfl⟩ | ⟨tx, w, -, ended, rfl⟩ := perform_commit taken
    · exact ⟨rfl, rfl⟩
    · cases answer with
      | ok u => exact absurd trivial passing
      | error e => exact ⟨keeping.commit_error ended, rfl⟩
  | rollback =>
    obtain ⟨-, -, rfl⟩ | ⟨tx, w, -, ended, rfl⟩ := perform_rollback taken
    · exact ⟨rfl, rfl⟩
    · have kept := keeping.rollback_keeps tx seat.world
      rw [ended] at kept
      exact ⟨kept, rfl⟩

/-- A transaction starts from the committed ledger. -/
theorem perform_begin_ok {ctx : Context}
    (taken : store.perform (.begin ctx) seat = (.ok (), seat')) :
    keeping.staged? seat' = some (keeping.ledger seat) := by
  obtain ⟨e, -, failed, -⟩ | ⟨tx, w, begun, -, rfl⟩ | ⟨e, w, -, failed, -⟩ := perform_begin taken
  · cases failed
  · exact congrArg some ((keeping.begin_ok begun).trans (committed_freed seat))
  · cases failed

/-- A commit that succeeds publishes what the transaction has staged, and ends it. -/
theorem perform_commit_ok (taken : store.perform .commit seat = (.ok (), seat')) :
    keeping.staged? seat = some (keeping.ledger seat') ∧ seat'.transaction = none ∧
      seat'.sent = seat.sent := by
  obtain ⟨-, failed, -⟩ | ⟨tx, w, opened, ended, rfl⟩ := perform_commit taken
  · cases failed
  · refine ⟨?_, rfl, rfl⟩
    rw [staged?, opened, ledger, keeping.commit_ok ended]
    rfl

/-! ### Amid surroundings -/

theorem takes_of_not_lasting {q : Step ν} {answer : q.Answer}
    (taken : store.Takes keeping.Spares seat q answer seat') (passing : ¬ Lasting q answer) :
    keeping.ledger seat' = keeping.ledger seat ∧ seat'.sent = seat.sent := by
  obtain ⟨w, spared, taken⟩ := taken
  obtain ⟨kept, unsent⟩ :
      keeping.ledger seat' = keeping.committed w.data ∧ seat'.sent = seat.sent :=
    perform_of_not_lasting taken passing
  exact ⟨kept.trans spared, unsent⟩

theorem takes_begin_ok {ctx : Context}
    (taken : store.Takes keeping.Spares seat (.begin ctx) (.ok ()) seat') :
    keeping.staged? seat' = some (keeping.ledger seat) := by
  obtain ⟨w, spared, taken⟩ := taken
  exact (perform_begin_ok taken).trans (congrArg some spared)

theorem takes_commit_ok (taken : store.Takes keeping.Spares seat .commit (.ok ()) seat') :
    keeping.staged? seat = some (keeping.ledger seat') ∧ seat'.transaction = none ∧
      seat'.sent = seat.sent := by
  obtain ⟨w, -, taken⟩ := taken
  have published : keeping.staged? { seat with world := w } = some (keeping.ledger seat') ∧ _ ∧ _ :=
    perform_commit_ok taken
  exact published

theorem takes_check {ctx : Context} {answer : Except Error Unit}
    (taken : store.Takes keeping.Spares seat (.check ctx) answer seat') :
    keeping.staged? seat' = keeping.staged? seat := by
  obtain ⟨w, -, taken⟩ := taken
  cases taken
  rfl

theorem takes_notify {notice : ν} {answer : Unit}
    (taken : store.Takes keeping.Spares seat (.notify notice) answer seat') :
    keeping.ledger seat' = keeping.ledger seat ∧ seat'.transaction = seat.transaction ∧
      seat'.sent = notice :: seat.sent := by
  obtain ⟨w, spared, taken⟩ := taken
  cases taken
  exact ⟨spared, rfl, rfl⟩

/-- Steps that do not outlast their transactions leave the committed ledger alone and send
nothing. -/
theorem way_of_passing {trace : Procedure.Trace ν} (way : keeping.Way seat trace seat')
    (passing : Passing trace) :
    keeping.ledger seat' = keeping.ledger seat ∧ seat'.sent = seat.sent := by
  refine Program.Along.keeps (P := fun s => keeping.ledger s = keeping.ledger seat ∧
    s.sent = seat.sent) way ?_ ⟨rfl, rfl⟩
  rintro e mem s s' taken ⟨kept, unsent⟩
  obtain ⟨kept', unsent'⟩ := takes_of_not_lasting taken (passing e mem)
  exact ⟨kept'.trans kept, unsent'.trans unsent⟩

end Keeping
end Store

/-! ## The stores that keep a ledger -/

/-- The store in memory keeps a ledger. -/
def Memory.keeping : Memory.store.Keeping Ledger where
  committed s := s.committed
  staged tx := tx
  begin_ok begun := by
    cases begun
    rfl
  begin_keeps _ := rfl
  call_keeps c tx w := by
    show (Memory.call c tx w).2.2.data.committed = _
    unfold Memory.call
    split <;> cases c <;> rfl
  commit_ok {tx w w'} ended := by
    simp only [Memory.store, Memory.commit] at ended
    split at ended <;> cases ended
    rfl
  commit_error {tx w e w'} ended := by
    simp only [Memory.store, Memory.commit] at ended
    split at ended <;> cases ended
    rfl
  rollback_keeps _ _ := rfl
  release_keeps _ _ := rfl

/-- The relational store keeps the rows of its tables. -/
def Relational.keeping : Relational.store.Keeping Relational.Tables where
  committed s := s.tables
  staged tx := tx.tables
  begin_ok begun := by
    cases begun
    rfl
  begin_keeps _ := rfl
  call_keeps _ _ _ := rfl
  commit_ok ended := by
    cases ended
    rfl
  commit_error ended := by cases ended
  rollback_keeps _ _ := rfl
  release_keeps _ _ := rfl

/-- Whether a call asks for a report on the ledger. -/
def Call.isReport : Call → Bool
  | .audit => true
  | .totals => true
  | _ => false

namespace Faults

variable {σ τ Λ : Type}

theorem strike_inner (verb : Verb) (w : World (State σ)) :
    (strike verb w).2.data.inner = w.data.inner := by
  unfold strike
  dsimp only
  split <;> rfl

/-- A beginning fails before it reaches the store inside, or is the store's own. -/
theorem begin_cases (inner : Store σ τ) (w : World (State σ)) :
    (∃ e w₁, begin inner w = (.error e, w₁) ∧ w₁.data.inner = w.data.inner) ∨
      (∃ w₁, w₁.data.inner = w.data.inner ∧
        begin inner w = ((inner.begin (inside w₁)).1, outside w₁ (inner.begin (inside w₁)).2)) := by
  have same := strike_inner .begin (note .begin w)
  unfold begin
  split
  · rename_i e w₁ struck
    rw [struck] at same
    exact .inl ⟨e, w₁, rfl, same⟩
  · rename_i w₁ _ struck
    rw [struck] at same
    exact .inr ⟨w₁, same, rfl⟩

/-- The answers that come in place of the store's are failures and reports. -/
theorem of_instead {c : Call} {effect : Option FaultEffect} {outcome : c.Outcome}
    (given : instead? c effect = some outcome) :
    (∃ e, outcome = .error e) ∨ c.isReport = true := by
  unfold instead? at given
  split at given
  · rename_i e
    exact .inl ⟨e, (Option.some.inj given).symm⟩
  · split at given
    · exact .inr rfl
    · cases given
  · split at given
    · exact .inr rfl
    · cases given
  · cases given

/-- A call is answered in place of the store inside, or is the store's own. -/
theorem call_cases (inner : Store σ τ) (c : Call) (tx : τ) (w : World (State σ)) :
    (∃ outcome w₁, call inner c tx w = (outcome, tx, w₁) ∧ w₁.data.inner = w.data.inner ∧
        ((∃ e, outcome = .error e) ∨ c.isReport = true)) ∨
      (∃ w₁, w₁.data.inner = w.data.inner ∧
        call inner c tx w = ((inner.call c tx (inside w₁)).1, (inner.call c tx (inside w₁)).2.1,
          outside w₁ (inner.call c tx (inside w₁)).2.2)) := by
  have same := strike_inner c.verb (note (.call c) w)
  unfold call
  dsimp only
  split
  · rename_i outcome given
    exact .inl ⟨outcome, _, rfl, same, of_instead given⟩
  · exact .inr ⟨_, same, rfl⟩

/-- A transaction is let go of and the failure reported, or it is ended by the store inside. -/
theorem finish_cases (inner : Store σ τ) (verb : Verb) (request : Request)
    (finishInside : τ → World σ → Except Error Unit × World σ) (tx : τ) (w : World (State σ)) :
    (∃ e w₁, w₁.data.inner = w.data.inner ∧
        finish inner verb request finishInside tx w = (.error e, release inner tx w₁)) ∨
      (∃ w₁, w₁.data.inner = w.data.inner ∧
        finish inner verb request finishInside tx w =
          ((finishInside tx (inside w₁)).1, outside w₁ (finishInside tx (inside w₁)).2)) := by
  have same := strike_inner verb (note request w)
  unfold finish
  split
  · rename_i e w₁ struck
    rw [struck] at same
    exact .inl ⟨e, w₁, same, rfl⟩
  · rename_i w₁ _ struck
    rw [struck] at same
    exact .inr ⟨w₁, same, rfl⟩

/-- With faults around it, a store keeps what it kept without them. -/
def keeping {inner : Store σ τ} (kept : inner.Keeping Λ) : (Faults.store inner).Keeping Λ where
  committed s := kept.committed s.inner
  staged := kept.staged
  begin_ok {w tx w'} begun := by
    obtain ⟨e, w₁, eq, -⟩ | ⟨w₁, same, eq⟩ := begin_cases inner w
    · cases eq.symm.trans begun
    · obtain ⟨answer, -⟩ := Prod.mk.inj (eq.symm.trans begun)
      rw [← same]
      exact kept.begin_ok (Prod.ext answer rfl)
  begin_keeps w := by
    show kept.committed (begin inner w).2.data.inner = kept.committed w.data.inner
    obtain ⟨e, w₁, eq, same⟩ | ⟨w₁, same, eq⟩ := begin_cases inner w <;> rw [eq, ← same]
    exact kept.begin_keeps (inside w₁)
  call_keeps c tx w := by
    show kept.committed (call inner c tx w).2.2.data.inner = kept.committed w.data.inner
    obtain ⟨outcome, w₁, eq, same, -⟩ | ⟨w₁, same, eq⟩ := call_cases inner c tx w <;>
      rw [eq, ← same]
    exact kept.call_keeps c tx (inside w₁)
  commit_ok {tx w w'} ended := by
    obtain ⟨e, w₁, -, eq⟩ | ⟨w₁, same, eq⟩ := finish_cases inner .commit .commit inner.commit tx w
    · cases eq.symm.trans ended
    · obtain ⟨answer, rfl⟩ := Prod.mk.inj (eq.symm.trans ended)
      exact kept.commit_ok (Prod.ext answer rfl)
  commit_error {tx w e w'} ended := by
    obtain ⟨e, w₁, same, eq⟩ | ⟨w₁, same, eq⟩ :=
      finish_cases inner .commit .commit inner.commit tx w
    · obtain ⟨-, rfl⟩ := Prod.mk.inj (eq.symm.trans ended)
      rw [← same]
      exact kept.release_keeps tx _
    · obtain ⟨answer, rfl⟩ := Prod.mk.inj (eq.symm.trans ended)
      rw [← same]
      exact kept.commit_error (Prod.ext answer rfl)
  rollback_keeps tx w := by
    show kept.committed (finish inner .rollback .rollback inner.rollback tx w).2.data.inner = _
    obtain ⟨e, w₁, same, eq⟩ | ⟨w₁, same, eq⟩ :=
      finish_cases inner .rollback .rollback inner.rollback tx w <;> rw [eq, ← same]
    · exact kept.release_keeps tx _
    · exact kept.rollback_keeps tx (inside w₁)
  release_keeps tx w := kept.release_keeps tx _

end Faults

end DoubleEntry
