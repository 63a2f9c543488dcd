import DoubleEntry.Json.Binary64

/-!
# JSON numerals

What the characters of a JSON number denote.  A number without decimals and exponent that fits in
64 bits is an exact integer; every other number is rounded to binary floating point.  Digits beyond
64 bits are not looked at: in the whole part they only move the point, in the decimals they are
dropped.
-/

namespace DoubleEntry.Json

open Text

/-- The value of a number. -/
inductive Numeral where
  | int (n : Int)
  | float (x : Binary64)
  /-- Beyond the greatest number of binary floating point. -/
  | tooLarge
  deriving DecidableEq, Repr

/-- The characters of a number, cut into its parts.  The exponent carries its sign. -/
structure NumberText where
  negative : Bool
  whole : List Char
  decimals : Option (List Char)
  exponent : Option (Bool × List Char)
  deriving DecidableEq, Repr

namespace NumberText

/-- The greatest significand and the greatest unsigned integer. -/
def greatestWord : Nat := 18446744073709551615

/-- Read digits on top of a significand as long as 64 bits hold it, and give back the digits that
are left. -/
def absorb (significand : Nat) : List Char → Nat × List Char
  | [] => (significand, [])
  | c :: rest =>
    let next := significand * 10 + (c.toNat - 48)
    if next ≤ greatestWord then absorb next rest else (significand, c :: rest)

/-- The significand, and the exponent of ten that the written exponent is added to. -/
def scaledSignificand (t : NumberText) : Nat × Int :=
  let (s, overflow) := absorb 0 t.whole
  match t.decimals with
  | none => (s, overflow.length)
  | some decimals =>
    let (s', rest) := absorb s decimals
    (s', (overflow.length : Int) - (decimals.length - rest.length : Nat))

/-- A binary number, if it is not too large. -/
def rounded (negative : Bool) (significand : Nat) (exponent : Int) : Numeral :=
  match Binary64.ofDecimal? negative significand exponent with
  | some x => .float x
  | none => .tooLarge

/-- The number that the parts denote.  An exponent of more than 31 bits is too large or gives
zero. -/
def value (t : NumberText) : Numeral :=
  let (s, e) := t.scaledSignificand
  match t.exponent with
  | some (down, digits) =>
    if digitsValue digits ≤ 2147483647 then
      rounded t.negative s (if down then e - digitsValue digits else e + digitsValue digits)
    else if s ≠ 0 ∧ !down then .tooLarge
    else rounded t.negative 0 0
  | none =>
    if t.decimals.isSome ∨ e ≠ 0 then rounded t.negative s e
    else if !t.negative then .int s
    else if 1 ≤ s ∧ s ≤ 9223372036854775808 then .int (-(s : Int))
    else rounded true s 0

end NumberText

end DoubleEntry.Json
