import Mathlib.Data.List.Induction
import Mathlib.Logic.Function.Basic
import DoubleEntry.Proofs.Work.OnLedger

/-!
# Sharing a store in memory

Any number of clients work on one store in memory.  The store has a lock for writers.  Whoever wants
a transaction waits for the lock, then takes a private copy of the ledger, and gives the lock back
after the transaction has ended, be it by a commit, by a rollback or because it was dropped.  These
are steps of their own, and the steps of different clients come in any order.

* `Sharing.play` is what a schedule of such steps comes to, with the history of what the clients
  were told.
* `Story.of` reads a history as if there were no copies and no lock: which writes have been
  published, and for every client what was published when it began and what it has written itself.

A `Story` knows nothing of ledgers; `replay` carries out its writes one after another.
-/

namespace DoubleEntry.Memory

open Function

/-! ## Writes -/

instance : DecidablePred Call.Looks
  | .createAccount .. | .adjust .. | .createEntry .. | .createTransfer .. => .isFalse id
  | .getAccount _ | .claim _ | .listAccounts .. | .listEntries .. | .listTransfers .. | .totals
  | .audit => .isTrue trivial

/-- A call that writes, and when it is carried out. -/
structure Write where
  now : Timestamp
  call : Call

/-- The ledger after some writes, one after another. -/
def replay (l : Ledger) (writes : List Write) : Ledger :=
  writes.foldl (fun l w => (onLedger w.now l w.call).2) l

@[simp] theorem replay_nil (l : Ledger) : replay l [] = l := rfl

@[simp] theorem replay_append (l : Ledger) (before after : List Write) :
    replay l (before ++ after) = replay (replay l before) after := by
  simp [replay]

@[simp] theorem replay_single (l : Ledger) (w : Write) :
    replay l [w] = (onLedger w.now l w.call).2 := rfl

/-- A call that fails leaves the ledger as it was. -/
theorem onLedger_of_error {c : Call} {now : Timestamp} {l : Ledger} {e : Error}
    (failed : (onLedger now l c).1 = .error e) : (onLedger now l c).2 = l := by
  have kept {α : Type} {e : Error} {made : Except Error (α × Ledger)}
      (failed : (changed l made).1 = .error e) : (changed l made).2 = l := by
    cases made with
    | ok answer => cases failed
    | error e => rfl
  cases c with
  | createAccount | adjust | createEntry | createTransfer => exact kept failed
  | getAccount | claim | listAccounts | listEntries | listTransfers | totals | audit => rfl

/-! ## Histories -/

/-- What happens to the transaction of a client. -/
inductive Event where
  | began (client : Nat)
  | called (client : Nat) (now : Timestamp) (c : Call) (outcome : c.Outcome)
  /-- It has ended, and what it wrote was published or not. -/
  | ended (client : Nat) (published : Bool)

/-- What a history comes to. -/
structure Story where
  /-- What transactions have written that were committed, in the order of their commits. -/
  published : List Write
  /-- What was published when a client began. -/
  base : Nat → List Write
  /-- What a client has written since. -/
  own : Nat → List Write

namespace Story

/-- Nothing has happened. -/
def start : Story := ⟨[], fun _ => [], fun _ => []⟩

/-- A call that succeeds counts if it is one that writes. -/
def next (s : Story) : Event → Story
  | .began n => { s with base := update s.base n s.published, own := update s.own n [] }
  | .called n now c (.ok _) =>
    if c.Looks then s else { s with own := update s.own n (s.own n ++ [⟨now, c⟩]) }
  | .called _ _ _ (.error _) => s
  | .ended n true => { s with published := s.published ++ s.own n }
  | .ended _ false => s

/-- The story that a history tells. -/
def of (history : List Event) : Story := history.foldl next start

@[simp] theorem of_nil : of [] = start := rfl

@[simp] theorem of_concat (history : List Event) (e : Event) :
    of (history ++ [e]) = (of history).next e := by
  simp [of]

theorem published_called (s : Story) (n : Nat) (now : Timestamp) (c : Call) (outcome : c.Outcome) :
    (s.next (.called n now c outcome)).published = s.published := by
  cases outcome with
  | error e => rfl
  | ok answer => simp only [next]; split <;> rfl

theorem base_called (s : Story) (n : Nat) (now : Timestamp) (c : Call) (outcome : c.Outcome) :
    (s.next (.called n now c outcome)).base = s.base := by
  cases outcome with
  | error e => rfl
  | ok answer => simp only [next]; split <;> rfl

/-- What a client should see: what was published when it began, and its own writes. -/
def seen (s : Story) (n : Nat) : List Write := s.base n ++ s.own n

/-- Only the end of a transaction publishes anything, and only what the transaction wrote. -/
theorem mem_published {history : List Event} {w : Write} (mem : w ∈ (of history).published) :
    ∃ before n after, history = before ++ .ended n true :: after ∧ w ∈ (of before).own n := by
  induction history using List.reverseRecOn with
  | nil => cases mem
  | append_singleton history e ih =>
    have earlier (mem : w ∈ (of history).published) :
        ∃ before n after, history ++ [e] = before ++ .ended n true :: after ∧
          w ∈ (of before).own n := by
      obtain ⟨before, n, after, rfl, wrote⟩ := ih mem
      exact ⟨before, n, after ++ [e], by simp, wrote⟩
    rw [of_concat] at mem
    cases e with
    | began n => exact earlier mem
    | called n now c outcome =>
      rw [published_called] at mem
      exact earlier mem
    | ended n published =>
      cases published with
      | false => exact earlier mem
      | true =>
        rcases List.mem_append.1 mem with mem | mem
        · exact earlier mem
        · exact ⟨history, n, [], rfl, mem⟩

end Story

/-! ## Clients at the lock -/

/-- How far a client is with a transaction. -/
inductive Stage where
  /-- It has none, and does not hold the lock. -/
  | outside
  /-- It holds the lock and has no private copy yet. -/
  | admitted
  /-- It works on its private copy. -/
  | working (copy : Ledger)
  /-- The transaction has ended, and the lock is still to be given back. -/
  | leaving

/-- How a transaction ends. -/
inductive Ending where
  | commit
  | rollback
  | drop

/-- Clients at the store. -/
structure Sharing where
  world : World State
  /-- The client that holds the lock. -/
  writer : Option Nat
  stage : Nat → Stage
  history : List Event

namespace Sharing

/-- What can happen next. -/
inductive Move where
  /-- A client takes the lock, or waits for it. -/
  | enter (client : Nat)
  /-- A client that holds the lock begins a transaction. -/
  | begin (client : Nat)
  | call (client : Nat) (c : Call)
  | finish (client : Nat) (ending : Ending)
  /-- A client whose transaction has ended gives the lock back. -/
  | leave (client : Nat)
  /-- The clock moves, or the store is told to fail. -/
  | stir (change : World State → World State)
    (spares : ∀ w, (change w).data.committed = w.data.committed)

/-- Nobody is there yet. -/
def start (world : World State) : Sharing := ⟨world, none, fun _ => .outside, []⟩

/-- The ledger that all clients share. -/
def committed (t : Sharing) : Ledger := t.world.data.committed

/-- The sharing after a client has come to another stage. -/
def moved (t : Sharing) (n : Nat) (stage : Stage) : Sharing :=
  { t with stage := update t.stage n stage }

/-- The sharing after a step of a client on its transaction. -/
def told (t : Sharing) (n : Nat) (stage : Stage) (world : World State) (e : Event) : Sharing :=
  ⟨world, t.writer, update t.stage n stage, t.history ++ [e]⟩

/-- The end of a transaction: whether it was published, and the world afterwards. -/
def conclude (copy : Ledger) (w : World State) : Ending → Bool × World State
  | .commit => ((store.commit copy w).1.isOk, (store.commit copy w).2)
  | .rollback => (false, (store.rollback copy w).2)
  | .drop => (false, store.release copy w)

/-- Make a move.  Moves for which a client is not at the right stage do nothing. -/
def move (t : Sharing) : Move → Sharing
  | .enter n => match t.stage n, t.writer with
    | .outside, none => { t.moved n .admitted with writer := some n }
    | _, _ => t
  | .begin n => match t.stage n with
    | .admitted => match store.begin t.world with
      | (.ok copy, world) => t.told n (.working copy) world (.began n)
      | (.error _, world) => { t.moved n .leaving with world }
    | _ => t
  | .call n c => match t.stage n with
    | .working copy =>
      let (outcome, copy, world) := store.call c copy t.world
      t.told n (.working copy) world (.called n (.ofNanos t.world.moment.now) c outcome)
    | _ => t
  | .finish n ending => match t.stage n with
    | .working copy =>
      let (published, world) := conclude copy t.world ending
      t.told n .leaving world (.ended n published)
    | _ => t
  | .leave n => match t.stage n with
    | .leaving => { t.moved n .outside with writer := none }
    | _ => t
  | .stir change _ => { t with world := change t.world }

/-- What a schedule comes to. -/
def play (world : World State) (moves : List Move) : Sharing := moves.foldl move (start world)

end Sharing
end DoubleEntry.Memory
