import DoubleEntry.Text.Decimal

/-!
# Numbers with a binary point

The finite numbers of 64-bit binary floating point, as exact values `mantissa · 2 ^ exponent`.
JSON numbers that are not integers are kept as such.  Rounding goes to the nearest number, a tie
to the even mantissa.  Writing uses the fewest decimal digits that still round to the number, and
of those the nearest.
-/

namespace DoubleEntry.Json

/-- A finite number of 64-bit binary floating point. -/
structure Binary64 where
  negative : Bool
  mantissa : Nat
  exponent : Int
  deriving DecidableEq, Repr

namespace Binary64

/-! ## Rounding -/

/-- The least exponent; the numbers with it are the multiples of the least positive number. -/
def leastExponent : Int := -1074

/-- The quotient of two numbers after scaling by `2 ^ (-exponent)`, as numerator and
denominator. -/
def scaled (num den : Nat) (exponent : Int) : Nat × Nat :=
  if exponent < 0 then (num * Nat.pow 2 (-exponent).toNat, den)
  else (num, den * Nat.pow 2 exponent.toNat)

/-- The whole number nearest to a quotient, the even one of two. -/
def nearest (num den : Nat) : Nat :=
  let whole := num / den
  let rest := num % den
  if 2 * rest > den || (2 * rest == den && whole % 2 == 1) then whole + 1 else whole

/-- The non-negative number nearest to the quotient `num / den`, unless it lies beyond the
greatest number. -/
def ofRatio? (num den : Nat) : Option Binary64 :=
  if num = 0 then some ⟨false, 0, leastExponent⟩
  else
    let guess : Int := max ((Nat.log2 num : Int) - Nat.log2 den - 53) leastExponent
    let fits (e : Int) : Bool := let (n, d) := scaled num den e; n / d < Nat.pow 2 53
    let exponent := if fits guess then guess
      else if fits (guess + 1) then guess + 1 else guess + 2
    let (n, d) := scaled num den exponent
    let mantissa := nearest n d
    let (mantissa, exponent) :=
      if mantissa = Nat.pow 2 53 then (Nat.pow 2 52, exponent + 1) else (mantissa, exponent)
    if 971 < exponent then none else some ⟨false, mantissa, exponent⟩

/-- The exact value of a number as a quotient, its sign apart. -/
def ratio (x : Binary64) : Nat × Nat :=
  if x.exponent < 0 then (x.mantissa, Nat.pow 2 (-x.exponent).toNat)
  else (x.mantissa * Nat.pow 2 x.exponent.toNat, 1)

/-- The number nearest to a power of ten. -/
def tenTo? (n : Nat) : Option Binary64 := ofRatio? (Nat.pow 10 n) 1

/-- The product, rounded. -/
def mul? (x y : Binary64) : Option Binary64 :=
  let (a, b) := x.ratio
  let (c, d) := y.ratio
  ofRatio? (a * c) (b * d)

/-- The quotient, rounded. -/
def div? (x y : Binary64) : Option Binary64 :=
  let (a, b) := x.ratio
  let (c, d) := y.ratio
  ofRatio? (a * d) (b * c)

/-- Divide by a power of ten in steps of at most 308 places. -/
def shiftDown : (steps : Nat) → Binary64 → (places : Nat) → Option Binary64
  | 0, x, _ => some { x with mantissa := 0, exponent := leastExponent }
  | steps + 1, x, places =>
    if x.mantissa = 0 then some x
    else if places ≤ 308 then do x.div? (← tenTo? places)
    else do
      let y ← x.div? (← tenTo? 308)
      shiftDown steps y (places - 308)

/-- The number `significand · 10 ^ exponent`, computed in two roundings: the significand first,
then one product or quotient.  `none` beyond the greatest number. -/
def ofDecimal? (negative : Bool) (significand : Nat) (exponent : Int) : Option Binary64 := do
  let start ← ofRatio? significand 1
  let result ←
    if start.mantissa = 0 then some start
    else if 0 ≤ exponent then
      if 308 < exponent then none else do start.mul? (← tenTo? exponent.toNat)
    else shiftDown 5 start (-exponent).toNat
  pure { result with negative }

/-! ## Writing -/

/-- Whether the quotient `num / den` rounds to the positive number `x`. -/
def attracts (x : Binary64) (num den : Nat) : Bool :=
  let below := if x.mantissa = Nat.pow 2 52 && leastExponent < x.exponent then 1 else 2
  -- in units of `2 ^ (exponent - 2)`
  let (n, d) := scaled num den (x.exponent - 2)
  let low := (4 * x.mantissa - below) * d
  let high := (4 * x.mantissa + 2) * d
  if x.mantissa % 2 = 0 then low ≤ n && n ≤ high else low < n && n < high

/-- The number of digits of the whole part of a positive number; for a number below one, minus
the number of zeros after the point. -/
def magnitude (x : Binary64) : Int :=
  let (n, d) := x.ratio
  let guess : Int := ((Nat.log2 n : Int) - Nat.log2 d) * 30103 / 100000 - 1
  let reaches (p : Int) : Bool :=
    if p < 0 then n * Nat.pow 10 (-p).toNat ≥ d else n ≥ d * Nat.pow 10 p.toNat
  -- the greatest `p` with `10 ^ p` not above the number, plus one
  (((List.range 4).map fun i => guess + (3 - i : Nat)).find? reaches).getD guess + 1

/-- The decimal digits of a number on the grid with `count` digits, if one of the two neighbours
of the value on that grid rounds to it. -/
def onGrid? (x : Binary64) (count : Nat) : Option Nat :=
  let (n, d) := x.ratio
  let place := x.magnitude - count
  let (n, d) :=
    if place < 0 then (n * Nat.pow 10 (-place).toNat, d) else (n, d * Nat.pow 10 place.toNat)
  let back (k : Nat) : Nat × Nat :=
    if place < 0 then (k, Nat.pow 10 (-place).toNat) else (k * Nat.pow 10 place.toNat, 1)
  let hits (k : Nat) : Bool := let (a, b) := back k; x.attracts a b
  let low := n / d
  let near := nearest n d
  let far := if near = low then low + 1 else low
  if hits near then some near else if hits far then some far else none

/-- The fewest digits that round to a positive number, and the place of the last.  A neighbour
that is the next power of ten has one digit. -/
def shortest (x : Binary64) : Nat × Int :=
  let counts := (List.range 17).map (· + 1)
  let found := counts.findSome? fun count =>
    (x.onGrid? count).map fun k =>
      if k = Nat.pow 10 count then (1, x.magnitude) else (k, x.magnitude - count)
  found.getD (x.mantissa, 0)

/-- The decimal text: positional from `1e-5` up to sixteen digits, else with an exponent. -/
def text (x : Binary64) : List Char :=
  let sign := if x.negative then ['-'] else []
  if x.mantissa = 0 then sign ++ "0.0".toList
  else
    let (k, place) := x.shortest
    let digits := Text.natText k
    let point : Int := digits.length + place
    sign ++
      if 0 ≤ place ∧ point ≤ 16 then
        digits ++ List.replicate place.toNat '0' ++ ".0".toList
      else if 0 < point ∧ point ≤ 16 then
        digits.take point.toNat ++ '.' :: digits.drop point.toNat
      else if -5 < point ∧ point ≤ 0 then
        "0.".toList ++ List.replicate (-point).toNat '0' ++ digits
      else
        digits.take 1 ++ (if digits.length = 1 then [] else '.' :: digits.drop 1) ++
          'e' :: Text.intText (point - 1)

end Binary64

end DoubleEntry.Json
