import DoubleEntry.Proofs.Store.Steps
import Mathlib.Tactic.Tauto

/-!
# Opening and ending transactions

`Store.Bracketed` says of a list of steps that transactions are opened and ended in turn: it is read
off the steps and their answers alone.  `opened_of_bracketed` says that it tells whether a
transaction is open, in any store and amid any surroundings, and `rollbacks_of_bracketed` counts the
rollbacks that are still due.
-/

namespace DoubleEntry.Store

variable {ν : Type}

/-- Whether a step is to open a transaction. -/
def isBegin : (q : Step ν) × q.Answer → Bool
  | ⟨.begin _, _⟩ => true
  | _ => false

/-- Transactions are opened and ended in turn, from where one is `opened` or none to where one is
left open or none: one is opened only if none is, calls are made only if one is, and a commit or a
rollback ends the one that is. -/
def Bracketed : (opened : Bool) → Procedure.Trace ν → (left : Bool) → Prop
  | opened, [], left => opened = left
  | opened, ⟨.begin _, .ok ()⟩ :: rest, left => opened = false ∧ Bracketed true rest left
  | opened, ⟨.begin _, .error _⟩ :: rest, left => opened = false ∧ Bracketed false rest left
  | opened, ⟨.call _ _, _⟩ :: rest, left => opened = true ∧ Bracketed true rest left
  | opened, ⟨.commit, _⟩ :: rest, left => opened = true ∧ Bracketed false rest left
  | opened, ⟨.rollback, _⟩ :: rest, left => opened = true ∧ Bracketed false rest left
  | opened, _ :: rest, left => Bracketed opened rest left

theorem bracketed_append {opened left : Bool} {before after : Procedure.Trace ν} :
    Bracketed opened (before ++ after) left ↔
      ∃ between, Bracketed opened before between ∧ Bracketed between after left := by
  induction before generalizing opened with
  | nil => simp [Bracketed]
  | cons e rest ih =>
    obtain ⟨q, answer⟩ := e
    cases q with
    | now | check ctx | wait d | cancel token | notify notice => exact ih
    | call ctx c | commit | rollback => simp only [List.cons_append, Bracketed, ih]; tauto
    | begin ctx =>
      rcases answer with e | ⟨⟩ <;> simp only [List.cons_append, Bracketed, ih] <;> tauto

theorem Bracketed.append {opened between left : Bool} {before after : Procedure.Trace ν}
    (first : Bracketed opened before between) (later : Bracketed between after left) :
    Bracketed opened (before ++ after) left :=
  bracketed_append.2 ⟨between, first, later⟩

theorem bracketed_notified (notices : List ν) : Bracketed false (notified notices) false := by
  induction notices with
  | nil => rfl
  | cons notice rest ih => exact ih

theorem isBegin_notified (notices : List ν) : (notified notices).countP isBegin = 0 := by
  simp [notified, List.countP_eq_zero, isBegin]

/-- Steps that neither open nor end a transaction leave one open, if there was one. -/
theorem bracketed_of_inner {opened : Bool} {trace : Procedure.Trace ν}
    (inner : ∀ e ∈ trace, e.1 ≠ .commit ∧ e.1 ≠ .rollback ∧ (∀ ctx, e.1 ≠ .begin ctx) ∧
      ∀ ctx c, e.1 = .call ctx c → opened = true) : Bracketed opened trace opened := by
  induction trace with
  | nil => rfl
  | cons e rest ih =>
    obtain ⟨q, answer⟩ := e
    have later := ih fun e mem => inner e (.tail _ mem)
    obtain ⟨uncommitted, kept, unbegun, called⟩ := inner _ (.head _)
    cases q with
    | now | check ctx | wait d | cancel token | notify notice => exact later
    | begin ctx => exact absurd rfl (unbegun ctx)
    | call ctx c =>
      obtain rfl := called ctx c rfl
      exact ⟨rfl, later⟩
    | commit => exact absurd rfl uncommitted
    | rollback => exact absurd rfl kept

/-- Whether a step is a rollback. -/
def isRollback : (q : Step ν) × q.Answer → Bool
  | ⟨.rollback, _⟩ => true
  | _ => false

/-- Where nothing is committed any more, and nothing opened, an open transaction is rolled back
once. -/
theorem rollbacks_of_bracketed {opened : Bool} {trace : Procedure.Trace ν}
    (bracketed : Bracketed opened trace false)
    (ebbing : ∀ e ∈ trace, e.1 ≠ .commit ∧ isOpening e = false) :
    trace.countP isRollback = if opened then 1 else 0 := by
  induction trace generalizing opened with
  | nil =>
    cases bracketed
    rfl
  | cons e rest ih =>
    obtain ⟨q, answer⟩ := e
    have later {opened} (b : Bracketed opened rest false) :=
      ih b fun e mem => ebbing e (.tail _ mem)
    obtain ⟨uncommitted, unopened⟩ := ebbing _ (.head _)
    cases q with
    | now | check ctx | wait d | cancel token | notify notice =>
      rw [List.countP_cons_of_neg (by simp [isRollback])]
      exact later bracketed
    | begin ctx =>
      rcases answer with e | ⟨⟩
      · obtain ⟨rfl, bracketed⟩ := bracketed
        rw [List.countP_cons_of_neg (by simp [isRollback])]
        exact later bracketed
      · cases unopened
    | call ctx c =>
      obtain ⟨rfl, bracketed⟩ := bracketed
      rw [List.countP_cons_of_neg (by simp [isRollback])]
      exact later bracketed
    | commit => exact absurd rfl uncommitted
    | rollback =>
      obtain ⟨rfl, bracketed⟩ := bracketed
      rw [List.countP_cons_of_pos (by rfl), later bracketed]
      rfl

/-- The steps tell whether a transaction is open. -/
theorem opened_of_bracketed {σ τ : Type} {store : Store σ τ} {stirs : World σ → World σ → Prop}
    {seat seat' : Seat σ τ ν} {opened left : Bool} {trace : Procedure.Trace ν}
    (way : Program.Along (store.Takes stirs) seat trace seat')
    (bracketed : Bracketed opened trace left) (start : seat.transaction.isSome = opened) :
    seat'.transaction.isSome = left := by
  induction trace generalizing seat opened with
  | nil =>
    cases way
    exact start.trans bracketed
  | cons e rest ih =>
    obtain ⟨q, answer⟩ := e
    obtain ⟨next, taken, way⟩ := way
    cases q with
    | now | check ctx | wait d | cancel token | notify notice =>
      refine ih way bracketed ?_
      obtain ⟨w, -, taken⟩ := taken
      cases taken
      exact start
    | begin ctx =>
      rcases answer with e | ⟨⟩
      · obtain ⟨rfl, bracketed⟩ := bracketed
        refine ih way bracketed ?_
        have shut := takes_of_not_opening taken rfl (by simpa using start)
        rw [shut]
        rfl
      · refine ih way bracketed.2 ?_
        obtain ⟨w, -, taken⟩ := taken
        obtain ⟨e, -, failed, -⟩ | ⟨tx, w', -, -, rfl⟩ | ⟨e, w', -, failed, -⟩ :=
          perform_begin taken
        · cases failed
        · rfl
        · cases failed
    | call ctx c =>
      obtain ⟨rfl, bracketed⟩ := bracketed
      refine ih way bracketed ?_
      obtain ⟨w, -, taken⟩ := taken
      obtain ⟨e, -, -, rfl⟩ | ⟨-, -, rfl⟩ | ⟨tx, tx', w', -, -, rfl⟩ := perform_call taken
      · exact start
      · exact start
      · rfl
    | commit =>
      refine ih way bracketed.2 ?_
      rw [takes_ending (.inl rfl) taken]
      rfl
    | rollback =>
      refine ih way bracketed.2 ?_
      rw [takes_ending (.inr rfl) taken]
      rfl

/-- Steps that end every transaction they open lead from outside any transaction to outside. -/
theorem shut_of_bracketed {σ τ : Type} {store : Store σ τ} {stirs : World σ → World σ → Prop}
    {seat seat' : Seat σ τ ν} {trace : Procedure.Trace ν}
    (way : Program.Along (store.Takes stirs) seat trace seat')
    (bracketed : Bracketed false trace false) (shut : seat.transaction = none) :
    seat'.transaction = none := by
  have left := opened_of_bracketed way bracketed (by rw [shut]; rfl)
  simpa using left

end DoubleEntry.Store
