import Mathlib.Algebra.Group.Nat.Defs
import DoubleEntry.Retry

/-!
# Bounds on the waiting time

Whatever the delays of a policy are, and however often was tried, the ceiling on the waiting time
only rises, stays within the greatest delay, and is itself a bound on every wait.

A machine keeps a duration in words, and a step of its arithmetic may overflow.  `Duration.Words`
are such durations, and `RetryPolicy.ceilingInWords?` and `RetryPolicy.delayInWords?` compute with
them step by step, without a result if a step overflows.

* `RetryPolicy.ceilingInWords?_eq` and `RetryPolicy.delayInWords?_eq` — no step ever does, and the
  outcome is the exact one.
* `RetryPolicy.waits_bounded` — **the bounds, and that they are computed safely**.
-/

namespace DoubleEntry

/-! ## Durations in machine words -/

/-- A number that a word of so many bits has to hold. -/
def word? (bits n : Nat) : Option Nat :=
  if n < 2 ^ bits then some n else none

theorem word?_of_lt {bits n : Nat} (fits : n < 2 ^ bits) : word? bits n = some n :=
  if_pos fits

namespace Duration

theorem le_iff {d e : Duration} : d ≤ e ↔ d.nanos ≤ e.nanos := Iff.rfl

theorem eq_of_nanos {d e : Duration} (same : d.nanos = e.nanos) : d = e := by
  cases d
  cases e
  exact congrArg mk same

theorem nanos_le_greatest {d : Duration} :
    d ≤ greatest ↔ d.nanos ≤ 18446744073709551615999999999 := Iff.rfl

theorem ofMicros_le_iff {k : Nat} {d : Duration} : ofMicros k ≤ d ↔ k ≤ d.micros := by
  simp only [le_iff, ofMicros, micros]
  omega

/-- A duration in machine words: 64 bits for the whole seconds, and the nanoseconds beyond them. -/
structure Words where
  seconds : Nat
  nanos : Nat
  seconds_lt : seconds < 2 ^ 64
  nanos_lt : nanos < 1000000000

namespace Words

/-- The duration that the words stand for. -/
def duration (w : Words) : Duration := ⟨w.seconds * 1000000000 + w.nanos⟩

/-- The greatest duration. -/
def greatest : Words := ⟨2 ^ 64 - 1, 999999999, by decide, by decide⟩

/-- No time at all. -/
def zero : Words := ⟨0, 0, by decide, by decide⟩

/-- The multiple by a 32-bit factor.  The nanoseconds are multiplied in 64 bits; where the seconds
have no room, neither by themselves nor with those that the nanoseconds add, the result is the
greatest duration. -/
def scale? (w : Words) (factor : Nat) : Option Words :=
  (word? 64 (w.nanos * factor)).map fun total =>
    if fits : w.seconds * factor < 2 ^ 64 ∧ w.seconds * factor + total / 1000000000 < 2 ^ 64 then
      ⟨w.seconds * factor + total / 1000000000, total % 1000000000, fits.2,
        Nat.mod_lt _ (by decide)⟩
    else greatest

/-- The shorter of two: the seconds are compared first. -/
def shorter (v w : Words) : Words :=
  if v.seconds < w.seconds ∨ v.seconds = w.seconds ∧ v.nanos ≤ w.nanos then v else w

/-- Whole microseconds, in 128 bits. -/
def micros? (w : Words) : Option Nat :=
  (word? 128 (w.seconds * 1000000)).bind fun whole => word? 128 (whole + w.nanos / 1000)

/-- So many microseconds.  Those beyond the whole seconds are converted in 32 bits. -/
def ofMicros? (n : Nat) : Option Words :=
  (word? 32 (n % 1000000 * 1000)).bind fun nanos =>
    if fits : n / 1000000 < 2 ^ 64 ∧ nanos < 1000000000 then
      some ⟨n / 1000000, nanos, fits.1, fits.2⟩
    else none

variable {w : Words}

/-- Every duration up to the greatest one can be kept in words. -/
theorem exists_duration_eq {d : Duration} (le : d ≤ Duration.greatest) :
    ∃ w : Words, w.duration = d := by
  rw [nanos_le_greatest] at le
  have seconds : d.nanos / 1000000000 < 2 ^ 64 := by omega
  refine ⟨⟨_, d.nanos % 1000000000, seconds, Nat.mod_lt _ (by decide)⟩, ?_⟩
  rw [duration, Nat.div_add_mod']

theorem duration_shorter (v w : Words) :
    (v.shorter w).duration = v.duration.shorter w.duration := by
  have small := v.nanos_lt
  have small' := w.nanos_lt
  apply eq_of_nanos
  simp only [shorter, Duration.shorter, duration]
  split <;> omega

/-- Multiplying never overflows, and stops at the greatest duration. -/
theorem scale?_eq {factor : Nat} (short : factor < 2 ^ 32) :
    ∃ v, w.scale? factor = some v ∧ v.duration = w.duration.scale factor := by
  have nanos : w.nanos * factor < 2 ^ 64 :=
    Nat.lt_of_le_of_lt (Nat.mul_le_mul (Nat.le_of_lt w.nanos_lt) (Nat.le_of_lt short)) (by decide)
  rw [scale?, word?_of_lt nanos]
  refine ⟨_, rfl, ?_⟩
  have exact : (w.seconds * 1000000000 + w.nanos) * factor =
      w.seconds * factor * 1000000000 + w.nanos * factor := by
    rw [Nat.add_mul, Nat.mul_right_comm]
  apply eq_of_nanos
  have most : Duration.greatest.nanos = 18446744073709551615999999999 := rfl
  simp only [Duration.scale, duration, exact, most]
  by_cases fits : w.seconds * factor < 2 ^ 64 ∧
      w.seconds * factor + w.nanos * factor / 1000000000 < 2 ^ 64
  · rw [dif_pos fits]
    simp only
    omega
  · rw [dif_neg fits]
    simp only [greatest]
    omega

theorem micros?_eq (w : Words) : w.micros? = some w.duration.micros := by
  have seconds := w.seconds_lt
  have nanos := w.nanos_lt
  have all : w.seconds * 1000000 + w.nanos / 1000 < 2 ^ 128 :=
    Nat.lt_trans (show _ < 2 ^ 84 by omega) (by decide)
  have whole : w.seconds * 1000000 < 2 ^ 128 := Nat.lt_of_le_of_lt (Nat.le_add_right _ _) all
  have exact : w.duration.micros = w.seconds * 1000000 + w.nanos / 1000 := by
    simp only [duration, micros]
    omega
  rw [micros?, word?_of_lt whole, Option.bind_some, exact, word?_of_lt all]

theorem ofMicros?_eq {n : Nat} (short : n < 2 ^ 64) :
    ∃ w, ofMicros? n = some w ∧ w.duration = ofMicros n := by
  have nanos : n % 1000000 * 1000 < 2 ^ 32 := by omega
  have fits : n / 1000000 < 2 ^ 64 ∧ n % 1000000 * 1000 < 1000000000 := by omega
  rw [ofMicros?, word?_of_lt nanos, Option.bind_some, dif_pos fits]
  refine ⟨_, rfl, eq_of_nanos ?_⟩
  simp only [duration, ofMicros]
  omega

end Words

end Duration

namespace RetryPolicy

/-! ## The computation in words -/

/-- The power of two that multiplies the base delay.  A word of 32 bits can be shifted by at most
31. -/
def factor? (attempt : Nat) : Option Nat :=
  let exponent := min (attempt - 1) 16
  if exponent < 32 then word? 32 (2 ^ exponent) else none

/-- The ceiling, computed in words. -/
def ceilingInWords? (base greatest : Duration.Words) (attempt : Nat) : Option Duration.Words :=
  (factor? attempt).bind fun factor => (base.scale? factor).map (·.shorter greatest)

/-- The wait, computed in words: the microseconds of the ceiling are cut down to 64 bits, and what
is drawn lies between zero and these. -/
def delayInWords? (base greatest : Duration.Words) (attempt draw : Nat) : Option Duration.Words :=
  (ceilingInWords? base greatest attempt).bind fun ceiling => ceiling.micros?.bind fun exact =>
    let micros := exact % 2 ^ 64
    if micros = 0 then some .zero else Duration.Words.ofMicros? (draw % (micros + 1))

variable {p : RetryPolicy} {base greatest : Duration.Words}

theorem factor?_eq (attempt : Nat) : factor? attempt = some (2 ^ min (attempt - 1) 16) := by
  have few : min (attempt - 1) 16 ≤ 16 := Nat.min_le_right _ _
  have small : 2 ^ min (attempt - 1) 16 < 2 ^ 32 := Nat.pow_lt_pow_right (by decide) (by omega)
  rw [factor?, if_pos (by omega), word?_of_lt small]

/-- The ceiling is computed without overflow. -/
theorem ceilingInWords?_eq (isBase : base.duration = p.baseDelay)
    (isGreatest : greatest.duration = p.maxDelay) (attempt : Nat) :
    ∃ w, ceilingInWords? base greatest attempt = some w ∧ w.duration = p.ceiling attempt := by
  have small : 2 ^ min (attempt - 1) 16 < 2 ^ 32 :=
    Nat.pow_lt_pow_right (by decide) (by omega)
  obtain ⟨product, scaled, value⟩ := base.scale?_eq small
  refine ⟨product.shorter greatest, ?_, ?_⟩
  · rw [ceilingInWords?, factor?_eq, Option.bind_some, scaled, Option.map_some]
  · rw [Duration.Words.duration_shorter, value, isBase, isGreatest]
    rfl

/-- So is the wait. -/
theorem delayInWords?_eq (isBase : base.duration = p.baseDelay)
    (isGreatest : greatest.duration = p.maxDelay) (attempt draw : Nat) :
    ∃ w, delayInWords? base greatest attempt draw = some w ∧ w.duration = p.delay attempt draw := by
  obtain ⟨ceiling, computed, value⟩ := ceilingInWords?_eq isBase isGreatest attempt
  have exact : delayInWords? base greatest attempt draw =
      if p.ceilingMicros attempt = 0 then some .zero
      else Duration.Words.ofMicros? (draw % (p.ceilingMicros attempt + 1)) := by
    rw [delayInWords?, computed, Option.bind_some, ceiling.micros?_eq, value]
    rfl
  have narrow : p.ceilingMicros attempt < 2 ^ 64 := Nat.mod_lt _ (by decide)
  have drawn : draw % (p.ceilingMicros attempt + 1) < p.ceilingMicros attempt + 1 :=
    Nat.mod_lt _ (Nat.succ_pos _)
  rw [exact]
  split
  · rename_i nothing
    refine ⟨.zero, rfl, ?_⟩
    rw [delay, nothing, Nat.mod_one]
    rfl
  · exact Duration.Words.ofMicros?_eq (by omega)

/-! ## The bounds -/

theorem ceiling_mono (p : RetryPolicy) {a b : Nat} (le : a ≤ b) : p.ceiling a ≤ p.ceiling b := by
  have power : 2 ^ min (a - 1) 16 ≤ 2 ^ min (b - 1) 16 :=
    Nat.pow_le_pow_right (by decide) (by omega)
  have product : p.baseDelay.nanos * 2 ^ min (a - 1) 16 ≤ p.baseDelay.nanos * 2 ^ min (b - 1) 16 :=
    Nat.mul_le_mul_left _ power
  simp only [ceiling, Duration.le_iff, Duration.shorter, Duration.scale, Nat.pow_eq]
  omega

theorem ceiling_le_maxDelay (p : RetryPolicy) (attempt : Nat) : p.ceiling attempt ≤ p.maxDelay :=
  Nat.min_le_right _ _

theorem delay_le_ceiling (p : RetryPolicy) (attempt draw : Nat) :
    p.delay attempt draw ≤ p.ceiling attempt := by
  have drawn : draw % (p.ceilingMicros attempt + 1) < p.ceilingMicros attempt + 1 :=
    Nat.mod_lt _ (Nat.succ_pos _)
  have narrowed : p.ceilingMicros attempt ≤ (p.ceiling attempt).micros := Nat.mod_le _ _
  rw [delay, Duration.ofMicros_le_iff]
  omega

/-- **Bounds on the waiting time.**  The ceiling only rises from attempt to attempt and never
exceeds the greatest delay, and no wait exceeds its ceiling.  This is so for any delays; if words
can hold them, neither the ceiling nor a wait overflows where it is computed in words, and both come
out exactly. -/
theorem waits_bounded (p : RetryPolicy) (shortBase : p.baseDelay ≤ .greatest)
    (shortGreatest : p.maxDelay ≤ .greatest) {a b : Nat} (le : a ≤ b) :
    p.ceiling a ≤ p.ceiling b ∧ p.ceiling b ≤ p.maxDelay ∧
    (∀ draw, p.delay a draw ≤ p.ceiling a) ∧
    ∃ base greatest : Duration.Words,
      base.duration = p.baseDelay ∧ greatest.duration = p.maxDelay ∧
      (∃ w, ceilingInWords? base greatest a = some w ∧ w.duration = p.ceiling a) ∧
      ∀ draw, ∃ w, delayInWords? base greatest a draw = some w ∧
        w.duration = p.delay a draw := by
  obtain ⟨base, isBase⟩ := Duration.Words.exists_duration_eq shortBase
  obtain ⟨greatest, isGreatest⟩ := Duration.Words.exists_duration_eq shortGreatest
  exact ⟨p.ceiling_mono le, p.ceiling_le_maxDelay b, p.delay_le_ceiling a,
    base, greatest, isBase, isGreatest, ceilingInWords?_eq isBase isGreatest a,
    delayInWords?_eq isBase isGreatest a⟩

/-- The greatest duration as base delay, and half of it as greatest delay. -/
def endless : RetryPolicy := ⟨3, .greatest, ⟨9223372036854775808 * 1000000000⟩⟩

theorem waits_bounded_endless :
    endless.baseDelay ≤ .greatest ∧ endless.maxDelay ≤ .greatest ∧
      endless.ceiling 1 ≤ endless.ceiling 4294967295 ∧
      endless.ceiling 4294967295 ≤ endless.maxDelay ∧
      endless.delay 1 18446744073709551615 ≤ endless.ceiling 1 :=
  have base : endless.baseDelay ≤ .greatest := by decide
  have greatest : endless.maxDelay ≤ .greatest := by decide
  have bounded := waits_bounded endless base greatest (show 1 ≤ 4294967295 by decide)
  ⟨base, greatest, bounded.1, bounded.2.1, bounded.2.2.1 18446744073709551615⟩

end RetryPolicy

end DoubleEntry
