import DoubleEntry.Store

/-!
# Units of work

What a unit of work may do inside the transaction that is opened for it: make store calls, register
notices for the case that it is committed, wait, and cancel tokens.  It cannot begin or end
transactions, and contexts are checked for it.

A `Task` is a unit of work that stops at its first failure, unless it says otherwise.
-/

namespace DoubleEntry

/-- A step of a unit of work, with notices of type `ν`. -/
inductive WorkStep (ν : Type) where
  | call (c : Call)
  /-- Send a notice once the unit of work is committed. -/
  | onCommit (notice : ν)
  | wait (d : Duration)
  | cancel (token : Token)

/-- What a step answers. -/
@[reducible] def WorkStep.Answer {ν : Type} : WorkStep ν → Type
  | .call c => c.Outcome
  | .onCommit _ => Unit
  | .wait _ => Unit
  | .cancel _ => Unit

/-- A unit of work. -/
abbrev Work (ν α : Type) : Type := Program (WorkStep.Answer (ν := ν)) α

/-- A unit of work that stops at its first failure. -/
abbrev Task (ν α : Type) : Type := ExceptT Error (Work ν) α

namespace Task

variable {ν : Type}

/-- Make a call. -/
def call (c : Call) : Task ν c.Answer :=
  ExceptT.mk (.question (.call c : WorkStep ν))

/-- Stop unless the check succeeds. -/
def require {α : Type} (result : Except Error α) : Task ν α :=
  ExceptT.mk (pure result)

/-- Claim two accounts, the one with the lower id first, and give them back in the order asked for.
Two units of work that claim the same pair never wait for each other in a circle. -/
def lockPair (first second : Int) : Task ν (Account × Account) := do
  if first = second then
    throw (.validation "cannot lock the same account twice")
  let low ← call (.claim (min first second))
  let high ← call (.claim (max first second))
  pure (if first < second then (low, high) else (high, low))

end Task

end DoubleEntry
