import DoubleEntry.Proofs.Coordinator.Attempts
import DoubleEntry.Proofs.Ledger.Accounts

/-!
# Units of work on a ledger

A unit of work inside a transaction works on a ledger of its own.  How calls on it are answered
depends on the surroundings: they are carried out (`Ledger.CarriesOut`), or faults may come in
between, so that a call fails without being carried out or gets a report that was made up
(`Ledger.CarriesOutAmidFaults`).

A run whose calls are all carried out is what the work computes on a `Bench`: the ledger, the times
of the calls to come, and the notices registered so far.
-/

namespace DoubleEntry

/-- A call that leaves the ledger as it is. -/
def Call.Looks : Call → Prop
  | .createAccount .. | .adjust .. | .createEntry .. | .createTransfer .. => False
  | _ => True

theorem Memory.onLedger_of_looks {c : Call} (looks : c.Looks) (now : Timestamp) (l : Ledger) :
    (onLedger now l c).2 = l := by
  cases c <;> first | rfl | exact looks.elim

namespace Ledger

/-- A call is carried out at some time. -/
def CarriesOut (l : Ledger) (c : Call) (outcome : c.Outcome) (l' : Ledger) : Prop :=
  ∃ now, Memory.onLedger now l c = (outcome, l')

/-- An answer that a fault may give to a call: a failure or a report. -/
def Feigned (c : Call) (outcome : c.Outcome) : Prop :=
  (∃ e, outcome = .error e) ∨ c.isReport = true

/-- A call is carried out, or a fault answers it. -/
def CarriesOutAmidFaults (l : Ledger) (c : Call) (outcome : c.Outcome) (l' : Ledger) : Prop :=
  l.CarriesOut c outcome l' ∨ Feigned c outcome ∧ l' = l

theorem CarriesOutAmidFaults.persists {l l' : Ledger} {c : Call} {outcome : c.Outcome}
    (called : l.CarriesOutAmidFaults c outcome l') : l.PersistsIn l' := by
  obtain ⟨now, carried⟩ | ⟨-, rfl⟩ := called
  · have persists := persistsIn_onLedger now l c
    rwa [carried] at persists
  · exact .refl _

theorem CarriesOutAmidFaults.of_looks {l l' : Ledger} {c : Call} {outcome : c.Outcome}
    (looks : c.Looks) (called : l.CarriesOutAmidFaults c outcome l') : l' = l := by
  obtain ⟨now, carried⟩ | ⟨-, rfl⟩ := called
  · rw [← Memory.onLedger_of_looks looks now l, carried]
  · rfl

end Ledger

/-- A step that is no call, or one that leaves the ledger as it is. -/
def WorkStep.Looks {ν : Type} : WorkStep ν → Prop
  | .call c => c.Looks
  | _ => True

namespace Work

variable {ν α : Type}

/-- A step of a unit of work on a ledger, whose calls are answered as `calls` says. -/
def Acts (calls : Ledger → (c : Call) → c.Outcome → Ledger → Prop) (l : Ledger) :
    (s : WorkStep ν) → s.Answer → Ledger → Prop
  | .call c, outcome, l' => calls l c outcome l'
  | .onCommit _, _, l' => l' = l
  | .wait _, _, l' => l' = l
  | .cancel _, _, l' => l' = l

/-- Work that only looks leaves the ledger as it was, whatever faults there are. -/
theorem along_of_looks {steps : Record ν} {l l' : Ledger} (looks : ∀ s ∈ steps, s.1.Looks)
    (way : Program.Along (Acts Ledger.CarriesOutAmidFaults) l steps l') : l' = l := by
  refine way.keeps (P := fun l' => l' = l) ?_ rfl
  rintro ⟨s, answer⟩ mem l₁ l₂ taken rfl
  cases s with
  | call c => exact Ledger.CarriesOutAmidFaults.of_looks (looks _ mem) taken
  | onCommit notice | wait d | cancel token => exact taken

/-- Where a unit of work is done: on a ledger, with the times of the calls to come, and the notices
registered so far. -/
structure Bench (ν : Type) where
  ledger : Ledger
  times : Nat → Timestamp
  notices : List ν

/-- The bench after a call. -/
def Bench.after (b : Bench ν) (c : Call) : Bench ν :=
  ⟨(Memory.onLedger (b.times 0) b.ledger c).2, fun n => b.times (n + 1), b.notices⟩

/-- The answers of a ledger. -/
def Bench.answer : Program.Handler (WorkStep.Answer (ν := ν)) (Bench ν)
  | .call c, b => ((Memory.onLedger (b.times 0) b.ledger c).1, b.after c)
  | .onCommit notice, b => ((), ⟨b.ledger, b.times, b.notices ++ [notice]⟩)
  | .wait _, b => ((), b)
  | .cancel _, b => ((), b)

/-- The times of some calls, with one call before them. -/
def first (now : Timestamp) (times : Nat → Timestamp) : Nat → Timestamp
  | 0 => now
  | n + 1 => times n

/-- A run whose steps are carried out is what the work computes. -/
theorem exec_of_along {work : Work ν α} {steps : Record ν} {value : α} {l l' : Ledger}
    (run : work.Runs steps value) (way : Program.Along (Acts Ledger.CarriesOut) l steps l')
    (notices : List ν) :
    ∃ times later, work.exec Bench.answer ⟨l, times, notices⟩ =
      (value, ⟨l', later, notices ++ steps.registered⟩) := by
  induction work generalizing steps l notices with
  | done a =>
    obtain ⟨rfl, rfl⟩ := run
    cases way
    exact ⟨fun _ => .ofNanos 0, fun _ => .ofNanos 0, by simp [Program.exec, Record.registered]⟩
  | ask s next ih =>
    obtain ⟨answer, rest, rfl, run⟩ := run
    obtain ⟨l₁, taken, way⟩ := way
    cases s with
    | call c =>
      obtain ⟨now, called⟩ := taken
      obtain ⟨times, later, computed⟩ := ih answer run way notices
      refine ⟨first now times, later, ?_⟩
      show (next (Memory.onLedger now l c).1).exec Bench.answer
        ⟨(Memory.onLedger now l c).2, times, notices⟩ = _
      rw [called]
      exact computed
    | onCommit notice =>
      cases taken
      obtain ⟨times, later, computed⟩ := ih answer run way (notices ++ [notice])
      refine ⟨times, later, ?_⟩
      rw [Record.registered, List.append_cons]
      exact computed
    | wait d | cancel token =>
      cases taken
      exact ih answer run way notices

end Work
end DoubleEntry
