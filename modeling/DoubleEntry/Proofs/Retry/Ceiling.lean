import Mathlib.Algebra.Group.Nat.Defs
import DoubleEntry.Config.Settings

/-!
# The ceiling on the waiting time

The ceiling doubles from attempt to attempt up to the greatest delay, and stops doubling after the
sixteenth time.

* `Config.ceiling_eq` — the ceiling in exact arithmetic: where a product is cut off at the greatest
  duration, it would be cut off at the greatest delay anyway.
* `Config.doubling` — the ceiling by the law of doubling.
* `Config.ceiling_doubles` — **when the ceiling follows the law**.
* `Config.not_always_doubling` — it does not always.
-/

namespace DoubleEntry

/-- A product that is cut off at the greatest duration is as good as exact under a bound. -/
theorem Duration.shorter_scale {d e : Duration} (short : e ≤ greatest) (k : Nat) :
    (d.scale k).shorter e = ⟨min (d.nanos * k) e.nanos⟩ := by
  have within : e.nanos ≤ greatest.nanos := short
  simp only [shorter, scale, Duration.mk.injEq]
  omega

theorem Duration.ofMillis_le_greatest {n : Nat} (fits : n < Settings.millisBound) :
    ofMillis n ≤ greatest := by
  have small : n ≤ 18446744073709551615 := Nat.le_of_lt_succ fits
  show n * 1000000 ≤ 18446744073709551616 * 1000000000 - 1
  omega

theorem Duration.ofMillis_le {m n : Nat} (le : m ≤ n) : ofMillis m ≤ ofMillis n :=
  Nat.mul_le_mul_right 1000000 le

theorem Duration.ofMillis_inj {m n : Nat} : ofMillis m = ofMillis n ↔ m = n := by
  simp only [ofMillis, Duration.mk.injEq]
  omega

namespace Config

/-- What the ceiling should be by the law of doubling: the base delay, doubled after each attempt
but the first, up to the greatest delay.  It is counted in milliseconds. -/
def doubling (c : Config) (attempt : Nat) : Nat :=
  min (c.baseDelayMs * 2 ^ (attempt - 1)) c.maxDelayMs

/-- The base delay after the last doubling. -/
def lastDoubled (c : Config) : Nat :=
  c.baseDelayMs * 2 ^ 16

variable {c : Config}

/-- The ceiling in exact arithmetic. -/
theorem ceiling_eq (fits : c.maxDelayMs < Settings.millisBound) (n : Nat) :
    c.retryPolicy.ceiling n =
      .ofMillis (min (c.baseDelayMs * 2 ^ min (n - 1) 16) c.maxDelayMs) := by
  rw [RetryPolicy.ceiling, retryPolicy, Duration.shorter_scale (Duration.ofMillis_le_greatest fits)]
  simp only [Duration.ofMillis, Duration.mk.injEq, Nat.pow_eq]
  rw [Nat.mul_right_comm]
  omega

/-- As long as the doubling goes on, the ceiling is the law. -/
theorem doubling_of_few {n : Nat} (few : n ≤ 17) :
    c.doubling n = min (c.baseDelayMs * 2 ^ min (n - 1) 16) c.maxDelayMs := by
  rw [doubling, show min (n - 1) 16 = n - 1 by omega]

theorem min_eq_of_many {n : Nat} (many : 17 ≤ n) :
    min (c.baseDelayMs * 2 ^ min (n - 1) 16) c.maxDelayMs = min c.lastDoubled c.maxDelayMs := by
  rw [lastDoubled, show min (n - 1) 16 = 16 by omega]

/-- To double the delay once more makes no difference only if there is nothing to double, or the
greatest delay was reached before. -/
theorem doubling_of_many {n : Nat} (many : 17 < n) :
    min c.lastDoubled c.maxDelayMs = c.doubling n ↔
      c.baseDelayMs = 0 ∨ c.maxDelayMs ≤ c.lastDoubled := by
  obtain ⟨k, rfl⟩ : ∃ k, n = k + 18 := ⟨n - 18, by omega⟩
  have further : c.baseDelayMs * 2 ^ (k + 18 - 1) = c.lastDoubled * 2 * 2 ^ k := by
    rw [lastDoubled, show k + 18 - 1 = 16 + 1 + k by omega, Nat.pow_add, Nat.pow_succ]
    simp only [Nat.mul_assoc]
  have more : c.lastDoubled * 2 ≤ c.lastDoubled * 2 * 2 ^ k :=
    Nat.le_mul_of_pos_right _ (Nat.two_pow_pos k)
  rw [doubling, further]
  by_cases nothing : c.baseDelayMs = 0
  · simp [lastDoubled, nothing]
  · have positive : 0 < c.lastDoubled :=
      Nat.mul_pos (Nat.pos_of_ne_zero nothing) (Nat.two_pow_pos 16)
    omega

/-- **When the ceiling follows the law of doubling.**  The ceiling after the failed attempt with
number `n` is the base delay doubled as often as there were attempts before, but at most sixteen
times, up to the greatest delay.  So it follows the law in the first seventeen attempts, and in a
later one exactly if there is no base delay or the greatest delay is reached by then.  From the
seventeenth on it is the greatest delay if that is within sixteen doublings; else it never gets
there. -/
theorem ceiling_doubles (c : Config) (fits : c.maxDelayMs < Settings.millisBound) (n : Nat) :
    c.retryPolicy.ceiling n =
      .ofMillis (min (c.baseDelayMs * 2 ^ min (n - 1) 16) c.maxDelayMs) ∧
    (c.retryPolicy.ceiling n = .ofMillis (c.doubling n) ↔
      n ≤ 17 ∨ c.baseDelayMs = 0 ∨ c.maxDelayMs ≤ c.lastDoubled) ∧
    (17 ≤ n →
      (c.retryPolicy.ceiling n = .ofMillis c.maxDelayMs ↔ c.maxDelayMs ≤ c.lastDoubled)) ∧
    c.retryPolicy.ceiling n ≤ .ofMillis c.lastDoubled := by
  rw [ceiling_eq fits]
  refine ⟨rfl, ?_, fun many => ?_, ?_⟩
  · rw [Duration.ofMillis_inj]
    by_cases few : n ≤ 17
    · simp only [doubling_of_few few, few, true_or]
    · rw [min_eq_of_many (by omega), doubling_of_many (by omega)]
      simp only [few, false_or]
  · rw [Duration.ofMillis_inj, min_eq_of_many many]
    omega
  · have capped : c.baseDelayMs * 2 ^ min (n - 1) 16 ≤ c.lastDoubled :=
      Nat.mul_le_mul_left _ (Nat.pow_le_pow_right (by decide) (Nat.min_le_right _ _))
    exact Duration.ofMillis_le (Nat.le_trans (Nat.min_le_left _ _) capped)

/-- Twenty attempts, 1 ms doubling up to 131072 ms. -/
def slow : Config := ⟨20, 1, 131072, none, "tally.duckdb"⟩

/-- A delay of 1 ms that may grow to 131072 ms doubles until the seventeenth attempt, and has then
grown to 65536 ms, half of what it may. -/
theorem ceiling_doubles_seventeen :
    131072 < Settings.millisBound ∧
      slow.retryPolicy.ceiling 17 = .ofMillis (slow.doubling 17) ∧
      slow.retryPolicy.ceiling 18 ≤ .ofMillis 65536 :=
  have doubles := ceiling_doubles slow (by decide)
  ⟨by decide, (doubles 17).2.1.mpr (.inl (Nat.le_refl 17)), (doubles 18).2.2.2⟩

/-- The law does not always hold: at the eighteenth attempt the same delay should double once
more. -/
theorem not_always_doubling :
    ¬ ∀ (c : Config) (n : Nat), c.check = .ok () → c.maxDelayMs < Settings.millisBound → 1 ≤ n →
      c.retryPolicy.ceiling n = .ofMillis (c.doubling n) := by
  intro law
  exact absurd (law slow 18 rfl (by decide) (by decide)) (by decide)

end Config

end DoubleEntry
