import Mathlib.Data.Fintype.EquivFin
import DoubleEntry.Proofs.Locking.Order

/-!
# Contention for accounts

Several parties work on one store at the same time, each in transactions of its own.  A party that
claims an account has its context checked first and then waits at the store until no other party
holds the account; what it has claimed it holds until its transaction ends.  The store itself may be
any store, and anything may happen to it and to the clock between the steps.

* `Contention.play` — what a schedule of such steps comes to.
* `Contention.step?_eq_none` — a party that cannot take its next step has finished, or waits for an
  account that somebody else holds.
* `Contention.deadlock_free` — parties that lock in turn never wait for each other in a circle, so
  while one of them is unfinished, one of them can take its next step.

The reason is that accounts are claimed in the order of their ids: whoever waits for an account
holds lower ones only (`Party.Orderly`), so along a chain of parties that wait for each other the
accounts they wait for have greater and greater ids.
-/

namespace DoubleEntry

open Program

section Contention

variable {σ τ ν β : Type} {k : Nat}

/-- Carry out a call on the open transaction, without another look at the context. -/
def Store.reach (store : Store σ τ) (c : Call) (seat : Seat σ τ ν) : c.Outcome × Seat σ τ ν :=
  match seat.transaction with
  | none => (.error Store.notOpen, seat)
  | some tx =>
    let (outcome, tx, world) := store.call c tx seat.world
    (outcome, { seat with world, transaction := some tx })

/-! ## Parties -/

/-- Somebody who works on the store. -/
structure Party (τ ν β : Type) where
  /-- What is still to be done. -/
  rest : Procedure ν β
  /-- Whether its next step, a claim, has reached the store. -/
  queued : Bool
  transaction : Option τ
  /-- The accounts claimed in the open transaction. -/
  held : List Int
  sent : List ν

namespace Party

/-- A party that has not begun. -/
def start (client : Procedure ν β) : Party τ ν β := ⟨client, false, none, [], []⟩

def Finished (p : Party τ ν β) : Prop :=
  ∃ value, p.rest = .done value

/-- The account that the party wants from the store. -/
def wants? (p : Party τ ν β) : Option Int :=
  match p.rest with
  | .ask (.call _ (.claim id)) _ => if p.queued then some id else none
  | _ => none

/-- A party after a step that was answered.  Without a transaction it holds nothing. -/
def after (p : Party τ ν β) (e : (q : Step ν) × q.Answer) (rest : Procedure ν β)
    (seat : Seat σ τ ν) : Party τ ν β where
  rest := rest
  queued := false
  transaction := seat.transaction
  held := if seat.transaction.isSome then e.1.holding p.held e.2 else []
  sent := seat.sent

/-- A party whose claims ascend from what it holds, and that holds nothing at its end. -/
def Orderly (p : Party τ ν β) : Prop :=
  ∃ all, p.held ⊆ all ∧ p.rest.Ascends (· = []) all

end Party

/-- The parties at a store, and what they share. -/
structure Contention (σ τ ν β : Type) (k : Nat) where
  world : World σ
  parties : Fin k → Party τ ν β

/-- What becomes of a step that a party is about to take. -/
inductive Response (σ τ ν : Type) (q : Step ν) where
  /-- It is taken. -/
  | answered (answer : q.Answer) (seat : Seat σ τ ν)
  /-- It is a claim, which goes to the store. -/
  | queued
  /-- It is a claim that waits at the store. -/
  | waits

/-- What can happen next. -/
inductive Contention.Move (σ : Type) (k : Nat) where
  /-- A party takes its next step, if it can. -/
  | act (n : Fin k)
  /-- Anything happens to what the parties share. -/
  | stir (change : World σ → World σ)

namespace Contention

/-- Nobody has begun. -/
def start (world : World σ) (clients : Fin k → Procedure ν β) : Contention σ τ ν β k :=
  ⟨world, fun n => .start (clients n)⟩

/-- Where a party stands before its next step. -/
def seat (s : Contention σ τ ν β k) (n : Fin k) : Seat σ τ ν :=
  ⟨s.world, (s.parties n).transaction, (s.parties n).sent⟩

/-- No other party holds the account. -/
def Free (s : Contention σ τ ν β k) (n : Fin k) (id : Int) : Prop :=
  ∀ m, m ≠ n → id ∉ (s.parties m).held

instance (s : Contention σ τ ν β k) (n : Fin k) (id : Int) : Decidable (s.Free n id) :=
  inferInstanceAs (Decidable (∀ m, m ≠ n → id ∉ (s.parties m).held))

/-- A party wants an account that another one holds. -/
def Waits (s : Contention σ τ ν β k) (n m : Fin k) : Prop :=
  m ≠ n ∧ ∃ id ∈ (s.parties m).held, (s.parties n).wants? = some id

instance (s : Contention σ τ ν β k) (n m : Fin k) : Decidable (s.Waits n m) :=
  inferInstanceAs (Decidable (m ≠ n ∧ ∃ id ∈ (s.parties m).held, (s.parties n).wants? = some id))

/-- What becomes of the next step of a party. -/
def respond (store : Store σ τ) (s : Contention σ τ ν β k) (n : Fin k) :
    (q : Step ν) → Response σ τ ν q
  | .call ctx (.claim id) =>
    if (s.parties n).queued then
      if s.Free n id then
        let (answer, seat) := store.reach (.claim id) (s.seat n)
        .answered answer seat
      else .waits
    else
      match ctx.check s.world.moment with
      | .error e => .answered (.error e) (s.seat n)
      | .ok () => .queued
  | q =>
    let (answer, seat) := store.perform q (s.seat n)
    .answered answer seat

/-- A party takes its next step, if there is one and it need not wait. -/
def step? (store : Store σ τ) (s : Contention σ τ ν β k) (n : Fin k) :
    Option (Contention σ τ ν β k) :=
  match (s.parties n).rest with
  | .done _ => none
  | .ask q next =>
    match s.respond store n q with
    | .answered answer seat =>
      some ⟨seat.world,
        Function.update s.parties n ((s.parties n).after ⟨q, answer⟩ (next answer) seat)⟩
    | .queued =>
      some { s with parties := Function.update s.parties n { s.parties n with queued := true } }
    | .waits => none

/-- Make a move. -/
def move (store : Store σ τ) (s : Contention σ τ ν β k) : Move σ k → Contention σ τ ν β k
  | .act n => (s.step? store n).getD s
  | .stir change => { s with world := change s.world }

/-- What a schedule comes to. -/
def play (store : Store σ τ) (world : World σ) (clients : Fin k → Procedure ν β)
    (moves : List (Move σ k)) : Contention σ τ ν β k :=
  moves.foldl (move store) (start world clients)

end Contention

/-! ## Orderly parties -/

theorem Step.holding_subset {held all : List Int} (within : held ⊆ all) (q : Step ν)
    (answer : q.Answer) : q.holding held answer ⊆ q.holding all answer := by
  cases q with
  | now | check ctx | wait d | cancel token | notify notice => exact within
  | commit | rollback => exact List.Subset.refl []
  | begin ctx =>
    cases answer with
    | error e => exact within
    | ok u => exact List.Subset.refl []
  | call ctx c =>
    cases c with
    | claim id =>
      cases answer with
      | error e => exact within
      | ok a => exact List.cons_subset_cons id within
    | _ => exact within

namespace Party

variable {p : Party τ ν β}

theorem orderly_start {client : Procedure ν β} (locks : client.LocksInTurn) :
    (start client : Party τ ν β).Orderly :=
  ⟨[], List.nil_subset _, locks.ascends⟩

theorem Orderly.after {q : Step ν} {next : q.Answer → Procedure ν β} (orderly : p.Orderly)
    (step : p.rest = .ask q next) (answer : q.Answer) (seat : Seat σ τ ν) :
    (p.after ⟨q, answer⟩ (next answer) seat).Orderly := by
  obtain ⟨all, within, ascends⟩ := orderly
  rw [step] at ascends
  refine ⟨q.holding all answer, ?_, ascends.2 answer⟩
  show (if seat.transaction.isSome then q.holding p.held answer else []) ⊆ _
  split
  · exact Step.holding_subset within q answer
  · exact List.nil_subset _

/-- A party that wants an account holds lower ones only. -/
theorem Orderly.lt_of_wants {id : Int} (orderly : p.Orderly) (wants : p.wants? = some id) :
    ∀ held ∈ p.held, held < id := by
  obtain ⟨all, within, ascends⟩ := orderly
  unfold wants? at wants
  split at wants
  · rename_i ctx id' next step
    split at wants
    · cases wants
      rw [step] at ascends
      exact fun held mem => ascends.1 ctx (.claim id) rfl held (within mem)
    · cases wants
  · cases wants

/-- A party that holds an account has not finished. -/
theorem Orderly.unfinished {id : Int} (orderly : p.Orderly) (holds : id ∈ p.held) :
    ¬ p.Finished := by
  rintro ⟨value, ended⟩
  obtain ⟨all, within, ascends⟩ := orderly
  rw [ended] at ascends
  cases ascends
  exact absurd (within holds) List.not_mem_nil

end Party

namespace Contention

variable {store : Store σ τ} {s s' : Contention σ τ ν β k}

theorem respond_eq_waits {n : Fin k} {q : Step ν} {next : q.Answer → Procedure ν β}
    (step : (s.parties n).rest = .ask q next) :
    s.respond store n q = .waits ↔ ∃ m, s.Waits n m := by
  unfold Waits Party.wants? respond
  rw [step]
  split
  · rename_i ctx id
    cases queued : (s.parties n).queued with
    | false =>
      simp only [Bool.false_eq_true, if_false, reduceCtorEq, and_false, exists_false, iff_false]
      split <;> exact nofun
    | true =>
      by_cases free : s.Free n id
      · simp only [if_true, if_pos free, reduceCtorEq, false_iff]
        rintro ⟨m, other, _, holds, ⟨⟩⟩
        exact free m other holds
      · simp only [if_true, if_neg free, true_iff]
        simpa [Free] using free
  · rename_i other
    refine ⟨nofun, ?_⟩
    rintro ⟨m, -, id, -, wants⟩
    split at wants
    · rename_i ctx id' next' same
      cases same
      exact (other ctx id' rfl).elim
    · cases wants

/-- A party that cannot take its next step has finished, or waits for another one. -/
theorem step?_eq_none {n : Fin k} :
    s.step? store n = none ↔ (s.parties n).Finished ∨ ∃ m, s.Waits n m := by
  unfold step?
  cases step : (s.parties n).rest with
  | done value =>
    exact ⟨fun _ => .inl ⟨value, step⟩, fun _ => rfl⟩
  | ask q next =>
    have unfinished : ¬ (s.parties n).Finished := by
      rintro ⟨value, ended⟩
      cases step.symm.trans ended
    have waits : s.respond store n q = .waits ↔ ∃ m, s.Waits n m := respond_eq_waits step
    rw [or_iff_right unfinished, ← waits]
    dsimp only
    split <;> simp [*]

theorem forall_update {P : Party τ ν β → Prop} (all : ∀ m, P (s.parties m)) {n : Fin k}
    {p : Party τ ν β} (new : P p) (m : Fin k) : P (Function.update s.parties n p m) := by
  by_cases same : m = n
  · subst same
    rwa [Function.update_self]
  · rw [Function.update_of_ne same]
    exact all m

theorem orderly_step {n : Fin k} (orderly : ∀ m, (s.parties m).Orderly)
    (stepped : s.step? store n = some s') (m : Fin k) : (s'.parties m).Orderly := by
  unfold step? at stepped
  split at stepped
  · cases stepped
  · rename_i q next step
    split at stepped
    · rename_i answer seat _
      cases stepped
      exact forall_update orderly ((orderly n).after step answer seat) m
    · cases stepped
      have waiting : Party.Orderly { s.parties n with queued := true } := orderly n
      exact forall_update orderly waiting m
    · cases stepped

theorem orderly_move (move : Move σ k) (orderly : ∀ n, (s.parties n).Orderly) (n : Fin k) :
    ((s.move store move).parties n).Orderly := by
  cases move with
  | stir change => exact orderly n
  | act m =>
    show (((s.step? store m).getD s).parties n).Orderly
    cases stepped : s.step? store m with
    | none => exact orderly n
    | some s' => exact orderly_step orderly stepped n

theorem orderly_play {world : World σ} {clients : Fin k → Procedure ν β}
    (locking : ∀ n, (clients n).LocksInTurn) (moves : List (Move σ k)) (n : Fin k) :
    ((play store world clients moves).parties n).Orderly := by
  have run (s : Contention σ τ ν β k) (start : ∀ n, (s.parties n).Orderly) (n : Fin k) :
      ((moves.foldl (move store) s).parties n).Orderly := by
    induction moves generalizing s with
    | nil => exact start n
    | cons move rest ih => exact ih _ (orderly_move move start)
  exact run _ (fun n => Party.orderly_start (locking n)) n

/-- Along a chain of parties that wait for each other, greater and greater accounts are wanted. -/
theorem lt_of_waits (orderly : ∀ n, (s.parties n).Orderly) {n m : Fin k} {id id' : Int}
    (waits : Relation.TransGen s.Waits n m) (wants : (s.parties n).wants? = some id)
    (wants' : (s.parties m).wants? = some id') : id < id' := by
  induction waits generalizing id' with
  | single waits =>
    obtain ⟨-, wanted, holds, same⟩ := waits
    cases wants.symm.trans same
    exact (orderly _).lt_of_wants wants' _ holds
  | tail _ waits ih =>
    obtain ⟨-, wanted, holds, same⟩ := waits
    exact Int.lt_trans (ih same) ((orderly _).lt_of_wants wants' _ holds)

theorem not_waits_self (orderly : ∀ n, (s.parties n).Orderly) (n : Fin k) :
    ¬ Relation.TransGen s.Waits n n := by
  intro circle
  obtain ⟨m, ⟨-, id, -, wants⟩, -⟩ := Relation.TransGen.head'_iff.1 circle
  exact absurd (lt_of_waits orderly circle wants wants) (Int.lt_irrefl id)

/-- Where nobody waits for himself, a chain of parties that wait has an end, and the last of them
can take its next step. -/
theorem exists_step (orderly : ∀ n, (s.parties n).Orderly) {n : Fin k}
    (unfinished : ¬ (s.parties n).Finished) : ∃ m, (s.step? store m).isSome := by
  have : Std.Irrefl (Function.swap (Relation.TransGen s.Waits)) := ⟨not_waits_self orderly⟩
  have : IsTrans (Fin k) (Function.swap (Relation.TransGen s.Waits)) :=
    ⟨fun _ _ _ first later => Relation.TransGen.trans later first⟩
  induction n using
    (Finite.wellFounded_of_trans_of_irrefl
      (Function.swap (Relation.TransGen s.Waits))).induction with
  | h n ih =>
    by_cases stuck : s.step? store n = none
    · obtain ended | ⟨m, waits⟩ := step?_eq_none.1 stuck
      · exact absurd ended unfinished
      · have ⟨_, _, holds, _⟩ := waits
        exact ih m (.single waits) ((orderly m).unfinished holds)
    · exact ⟨n, Option.isSome_iff_ne_none.2 stuck⟩

/-- Parties that lock in turn never wait for each other in a circle, and some party can take its
next step unless all have finished.  Jobs of transfers lock once, and locking a pair claims the
lower account first. -/
theorem deadlock_free (store : Store σ τ) (world : World σ) (clients : Fin k → Procedure ν β)
    (locking : ∀ n, (clients n).LocksInTurn) (moves : List (Move σ k)) :
    let s := play store world clients moves
    (∀ n, ¬ Relation.TransGen s.Waits n n) ∧
      ((∃ n, ¬ (s.parties n).Finished) → ∃ n, (s.step? store n).isSome) ∧
      (∀ (r : TransferRequest) (notices : TransferResult → List ν) (visited : List TransferState),
        (r.job notices visited).LocksOnce) ∧
      ∀ (first second : Int) (steps : Work.Record ν) (outcome : Except Error (Account × Account)),
        (Task.lockPair first second : Task ν (Account × Account)).run.Runs steps outcome ↔
          Task.LocksPair first second steps outcome :=
  have orderly := orderly_play locking moves
  ⟨not_waits_self orderly, fun ⟨_, unfinished⟩ => exists_step orderly unfinished,
    TransferRequest.locksOnce_job, fun _ _ _ _ => Task.runs_lockPair⟩

/-- One party transfers from the first account to the second, the other one back. -/
def crossing (n : Fin 2) : Procedure Unit (Except Error TransferResult) :=
  let r : TransferRequest := if n = 0 then ⟨1, 2, 30⟩ else ⟨2, 1, 10⟩
  ((⟨.standard, none, fun _ => 7⟩ : Coordinator).transfer (fun _ => []) (.background ⟨0⟩) r).run

/-- The parties of two opposite transfers look up the accounts; then the first one claims the lower
account, and the second one has to wait for it. -/
theorem deadlock_free_crossing :
    let held : Ledger :=
      { Ledger.empty with
        accounts := [⟨1, "alice", 100, .usd, .ofNanos 0⟩, ⟨2, "bob", 50, .usd, .ofNanos 0⟩]
        lastAccount := 2 }
    let s := play Memory.store ⟨⟨0, []⟩, { Memory.State.empty with committed := held }⟩ crossing
      (List.replicate 8 (.act 0) ++ List.replicate 7 (.act 1))
    s.Waits 1 0 ∧ s.step? Memory.store 1 = none ∧ ¬ Relation.TransGen s.Waits 0 0 ∧
      ∃ n, (s.step? Memory.store n).isSome := by
  intro held s
  have locking (n : Fin 2) : (crossing n).LocksInTurn := Coordinator.locksInTurn_transfer ..
  obtain ⟨acyclic, progress, -⟩ := deadlock_free Memory.store
    ⟨⟨0, []⟩, { Memory.State.empty with committed := held }⟩ crossing locking
    (List.replicate 8 (.act 0) ++ List.replicate 7 (.act 1))
  have waits : s.Waits 1 0 := by decide +kernel
  have ⟨_, _, holds, _⟩ := waits
  have unfinished : ¬ (s.parties 0).Finished := (orderly_play locking _ 0).unfinished holds
  exact ⟨waits, step?_eq_none.2 (.inr ⟨0, waits⟩), acyclic 0, progress ⟨0, unfinished⟩⟩

end Contention
end Contention
end DoubleEntry
