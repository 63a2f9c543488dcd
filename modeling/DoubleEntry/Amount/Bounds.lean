/-!
# The range of amounts

Balances, deltas and transferred amounts are counted in minor units and are bounded by 64 bits
with sign.  Amounts are plain integers here; each place where a sum could leave the range asks
`fit?`.  Totals over many accounts are not bounded.
-/

namespace DoubleEntry.Amount

/-- The least amount. -/
def least : Int := -9223372036854775808

/-- The greatest amount. -/
def greatest : Int := 9223372036854775807

/-- The integers that are amounts. -/
def InRange (n : Int) : Prop :=
  least ≤ n ∧ n ≤ greatest

instance (n : Int) : Decidable (InRange n) :=
  inferInstanceAs (Decidable (_ ∧ _))

/-- The integer itself if it is an amount. -/
def fit? (n : Int) : Option Int :=
  if InRange n then some n else none

/-- The amount with the other sign; the least amount, which has no counterpart, gives the
greatest. -/
def opposite (n : Int) : Int :=
  if n = least then greatest else -n

/-! ## Totals -/

/-- The total of some amounts, which may lie outside the range. -/
def total (ns : List Int) : Int :=
  ns.foldr (· + ·) 0

@[simp] theorem total_nil : total [] = 0 := rfl

@[simp] theorem total_cons (n : Int) (ns : List Int) : total (n :: ns) = n + total ns := rfl

@[simp] theorem total_append (ns ms : List Int) : total (ns ++ ms) = total ns + total ms := by
  induction ns with
  | nil => simp
  | cons n ns ih => simp [ih, Int.add_assoc]

end DoubleEntry.Amount
