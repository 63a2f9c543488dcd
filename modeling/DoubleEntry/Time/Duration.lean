/-!
# Durations

A duration is a whole number of nanoseconds up to a greatest one; arithmetic that would go beyond
stops there.
-/

namespace DoubleEntry

/-- A length of time. -/
structure Duration where
  nanos : Nat
  deriving DecidableEq, Repr

namespace Duration

/-- The greatest duration: 2⁶⁴ seconds less a nanosecond. -/
def greatest : Duration := ⟨18446744073709551616 * 1000000000 - 1⟩

/-- No time at all. -/
def zero : Duration := ⟨0⟩

/-- So many milliseconds. -/
def ofMillis (n : Nat) : Duration := ⟨n * 1000000⟩

/-- So many microseconds. -/
def ofMicros (n : Nat) : Duration := ⟨n * 1000⟩

/-- Whole microseconds. -/
def micros (d : Duration) : Nat := d.nanos / 1000

/-- The multiple of a duration, or the greatest duration. -/
def scale (d : Duration) (n : Nat) : Duration :=
  ⟨min (d.nanos * n) greatest.nanos⟩

/-- The shorter of two. -/
def shorter (d e : Duration) : Duration := ⟨min d.nanos e.nanos⟩

instance : LE Duration := ⟨fun d e => d.nanos ≤ e.nanos⟩

instance (d e : Duration) : Decidable (d ≤ e) :=
  inferInstanceAs (Decidable (d.nanos ≤ e.nanos))

end Duration

end DoubleEntry
