import Mathlib.Data.Nat.GCD.Basic
import DoubleEntry.Proofs.Retry.Bounds
import DoubleEntry.Proofs.Retry.Ceiling

/-!
# The range of the waiting time

With full jitter, the wait after a failed attempt may be anything from no time at all up to the
ceiling, in whole microseconds.  The ceiling in microseconds is cut down to 64 bits before the draw,
and so the range is full only if nothing is cut off.

* `RetryPolicy.canWait_iff` — the waits that are possible.
* `RetryPolicy.fullJitter_iff` — where they are the whole range.
* `Config.range_of_waits` — **the range, in milliseconds of a configuration**.
* `Config.not_always_fullJitter` — it is not always the whole one.
-/

namespace DoubleEntry

namespace Duration

theorem ofMicros_inj {j k : Nat} : ofMicros j = ofMicros k ↔ j = k := by
  simp only [ofMicros, Duration.mk.injEq]
  omega

theorem micros_ofMillis (n : Nat) : (ofMillis n).micros = n * 1000 := by
  simp only [ofMillis, micros]
  omega

end Duration

namespace RetryPolicy

/-- A wait that may follow the failed attempt with this number, by some number drawn at random. -/
def CanWait (p : RetryPolicy) (attempt : Nat) (d : Duration) : Prop :=
  ∃ draw, p.delay attempt draw = d

/-- Full jitter: the wait may be any whole number of microseconds up to the ceiling, and nothing
else. -/
def FullJitter (p : RetryPolicy) (attempt : Nat) : Prop :=
  ∀ d, p.CanWait attempt d ↔ ∃ k, d = .ofMicros k ∧ d ≤ p.ceiling attempt

variable {p : RetryPolicy} {attempt : Nat}

/-- The waits go up to the ceiling as the draw sees it, without a gap. -/
theorem canWait_iff {d : Duration} :
    p.CanWait attempt d ↔ ∃ k, k ≤ p.ceilingMicros attempt ∧ d = .ofMicros k := by
  constructor
  · rintro ⟨draw, rfl⟩
    exact ⟨_, Nat.le_of_lt_succ (Nat.mod_lt _ (Nat.succ_pos _)), rfl⟩
  · rintro ⟨k, within, rfl⟩
    refine ⟨k, ?_⟩
    rw [delay, Nat.mod_eq_of_lt (Nat.lt_succ_of_le within)]

theorem canWait_ofMicros {k : Nat} :
    p.CanWait attempt (.ofMicros k) ↔ k ≤ p.ceilingMicros attempt := by
  rw [canWait_iff]
  constructor
  · rintro ⟨j, within, same⟩
    rwa [Duration.ofMicros_inj.1 same]
  · intro within
    exact ⟨k, within, rfl⟩

/-- The range is full if and only if 64 bits hold the ceiling. -/
theorem fullJitter_iff : p.FullJitter attempt ↔ (p.ceiling attempt).micros < 2 ^ 64 := by
  have narrowed : p.ceilingMicros attempt = (p.ceiling attempt).micros % 2 ^ 64 := rfl
  constructor
  · intro full
    -- The longest wait of all is possible, so it is not above the narrowed ceiling.
    have longest := (full (.ofMicros (p.ceiling attempt).micros)).2
      ⟨_, rfl, Duration.ofMicros_le_iff.2 (Nat.le_refl _)⟩
    rw [canWait_ofMicros, narrowed] at longest
    exact Nat.lt_of_le_of_lt longest (Nat.mod_lt _ (by decide))
  · intro fits d
    rw [canWait_iff, narrowed, Nat.mod_eq_of_lt fits]
    constructor
    · rintro ⟨k, within, rfl⟩
      exact ⟨k, rfl, Duration.ofMicros_le_iff.2 within⟩
    · rintro ⟨k, rfl, within⟩
      exact ⟨k, Duration.ofMicros_le_iff.1 within, rfl⟩

/-- There is never a wait if and only if nothing is left of the ceiling. -/
theorem never_waits_iff :
    (∀ draw, p.delay attempt draw = .zero) ↔ p.ceilingMicros attempt = 0 := by
  constructor
  · intro never
    have last := never (p.ceilingMicros attempt)
    rw [delay, Nat.mod_eq_of_lt (Nat.lt_succ_self _)] at last
    exact Duration.ofMicros_inj.1 last
  · intro nothing draw
    rw [delay, nothing, Nat.mod_one]
    rfl

end RetryPolicy

namespace Config

variable {c : Config} {n : Nat}

/-- The ceiling of a configuration, in milliseconds. -/
def ceilingMs (c : Config) (n : Nat) : Nat :=
  min (c.baseDelayMs * 2 ^ min (n - 1) 16) c.maxDelayMs

theorem micros_ceiling (fits : c.maxDelayMs < Settings.millisBound) :
    (c.retryPolicy.ceiling n).micros = c.ceilingMs n * 1000 := by
  rw [ceiling_eq fits, Duration.micros_ofMillis, ceilingMs]

/-- A thousand is eight times an odd number, so of 64 bits three are filled by it. -/
theorem thousandfold_dvd {m : Nat} : 2 ^ 64 ∣ m * 1000 ↔ 2 ^ 61 ∣ m := by
  have odd : Nat.Coprime (2 ^ 61) 125 := Nat.Coprime.pow_left 61 (by decide)
  rw [show m * 1000 = m * 125 * 8 by omega, show 2 ^ 64 = 2 ^ 61 * 8 by decide,
    Nat.mul_dvd_mul_iff_right (by decide), odd.dvd_mul_right]

/-- **The range of the waits.**  The waits after the failed attempt with number `n` are the whole
microseconds up to the ceiling, of which only the last 64 bits count.  So they are the full range
exactly if the ceiling is less than 2⁶⁴ microseconds, and there is never a wait exactly if the
ceiling is a multiple of 2⁶¹ milliseconds.  Up to a greatest delay of 18446744073709551 ms the range
is full after every attempt, and no wait at all means no ceiling. -/
theorem range_of_waits (c : Config) (fits : c.maxDelayMs < Settings.millisBound) (n : Nat) :
    (∀ d, c.retryPolicy.CanWait n d ↔
      ∃ k, k ≤ c.ceilingMs n * 1000 % 2 ^ 64 ∧ d = .ofMicros k) ∧
    (c.retryPolicy.FullJitter n ↔ c.ceilingMs n ≤ 18446744073709551) ∧
    ((∀ draw, c.retryPolicy.delay n draw = .zero) ↔ 2 ^ 61 ∣ c.ceilingMs n) ∧
    (c.maxDelayMs ≤ 18446744073709551 → c.retryPolicy.FullJitter n ∧
      ((∀ draw, c.retryPolicy.delay n draw = .zero) → c.retryPolicy.ceiling n = .zero)) := by
  have narrowed : c.retryPolicy.ceilingMicros n = c.ceilingMs n * 1000 % 2 ^ 64 := by
    rw [← micros_ceiling fits]
    rfl
  have full : c.retryPolicy.FullJitter n ↔ c.ceilingMs n ≤ 18446744073709551 := by
    rw [RetryPolicy.fullJitter_iff, micros_ceiling fits]
    omega
  have never : (∀ draw, c.retryPolicy.delay n draw = .zero) ↔ 2 ^ 61 ∣ c.ceilingMs n := by
    rw [RetryPolicy.never_waits_iff, narrowed, ← Nat.dvd_iff_mod_eq_zero, thousandfold_dvd]
  refine ⟨?waits, full, never, fun moderate => ?moderate⟩
  case waits =>
    intro d
    rw [RetryPolicy.canWait_iff, narrowed]
  case moderate =>
    have small : c.ceilingMs n ≤ 18446744073709551 := Nat.le_trans (Nat.min_le_right _ _) moderate
    refine ⟨full.2 small, fun quick => ?_⟩
    have none : c.ceilingMs n = 0 :=
      Nat.eq_zero_of_dvd_of_lt (never.1 quick) (Nat.lt_of_le_of_lt small (by decide))
    rw [ceiling_eq fits, ← ceilingMs, none]
    rfl

/-- Delays of 2⁶¹ ms. -/
def glacial : Config := ⟨5, 2305843009213693952, 2305843009213693952, none, "tally.duckdb"⟩

/-- Where the ceiling is 2⁶¹ ms, there is never a wait. -/
theorem range_of_waits_glacial :
    glacial.maxDelayMs < Settings.millisBound ∧ glacial.ceilingMs 1 = 2 ^ 61 ∧
      (∀ draw, glacial.retryPolicy.delay 1 draw = .zero) ∧ ¬ glacial.retryPolicy.FullJitter 1 :=
  have range := range_of_waits glacial (by decide) 1
  ⟨by decide, by decide, range.2.2.1.2 (by decide),
    fun full => absurd (range.2.1.1 full) (by decide)⟩

/-- The waits are not always the full range: a configuration that keeps the rules may never wait,
though its ceiling is high. -/
theorem not_always_fullJitter :
    ¬ ∀ (c : Config) (n : Nat), c.check = .ok () → c.maxDelayMs < Settings.millisBound → 1 ≤ n →
      c.retryPolicy.FullJitter n ∧
        ((∀ draw, c.retryPolicy.delay n draw = .zero) →
          ¬ .ofMicros 1 ≤ c.retryPolicy.ceiling n) := by
  intro law
  have never : ∀ draw, glacial.retryPolicy.delay 1 draw = .zero :=
    RetryPolicy.never_waits_iff.2 (by decide)
  have low := (law glacial 1 rfl (by decide) (by decide)).2 never
  exact low (by decide)

end Config

end DoubleEntry
