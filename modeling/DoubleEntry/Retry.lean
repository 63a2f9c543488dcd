import DoubleEntry.Time.Duration

/-!
# Retrying

How often a unit of work is tried and how long to wait in between.  The waiting time after a
failed attempt is drawn evenly from zero to a ceiling; the ceiling doubles from attempt to attempt
up to a limit.
-/

namespace DoubleEntry

/-- The rules for retrying. -/
structure RetryPolicy where
  maxAttempts : Nat
  baseDelay : Duration
  maxDelay : Duration
  deriving DecidableEq, Repr

namespace RetryPolicy

/-- Five attempts, 10 ms doubling up to 500 ms. -/
def standard : RetryPolicy := ⟨5, .ofMillis 10, .ofMillis 500⟩

/-- A single attempt. -/
def once : RetryPolicy := { standard with maxAttempts := 1 }

/-- The longest wait after the failed attempt with this number, counted from one.  The doubling
stops after the sixteenth time. -/
def ceiling (p : RetryPolicy) (attempt : Nat) : Duration :=
  (p.baseDelay.scale (Nat.pow 2 (min (attempt - 1) 16))).shorter p.maxDelay

/-- The ceiling in microseconds as the draw sees it: a 64-bit word, which drops higher bits. -/
def ceilingMicros (p : RetryPolicy) (attempt : Nat) : Nat :=
  (p.ceiling attempt).micros % 18446744073709551616

/-- The wait after a failed attempt, for a number drawn at random. -/
def delay (p : RetryPolicy) (attempt draw : Nat) : Duration :=
  .ofMicros (draw % (p.ceilingMicros attempt + 1))

end RetryPolicy

end DoubleEntry
