/-!
# Decimal numerals

Integers as decimal text and back.  Writing uses no superfluous zeros; reading accepts any number
of leading zeros, and the bounded readers say which signs they take.  What is written reads back
(`digitsValue_natText`).
-/

namespace DoubleEntry.Text

/-- The decimal digits of a natural number. -/
def natText (n : Nat) : List Char :=
  Nat.toDigits 10 n

/-- The decimal text of an integer, with a minus sign if it is negative. -/
def intText (n : Int) : List Char :=
  if n < 0 then '-' :: natText n.natAbs else natText n.natAbs

/-- The number that a list of decimal digits denotes. -/
def digitsValue (cs : List Char) : Nat :=
  Nat.ofDigitChars 10 cs 0

/-- Read one or more decimal digits. -/
def readDigits? (cs : List Char) : Option Nat :=
  if cs.isEmpty || !cs.all Char.isDigit then none else some (digitsValue cs)

/-- Read a natural number below `bound`; a plus sign may stand in front. -/
def readBelow? (bound : Nat) (cs : List Char) : Option Nat :=
  let digits := match cs with
    | '+' :: rest => rest
    | _ => cs
  (readDigits? digits).filter (· < bound)

/-- Read an integer between two bounds; either sign may stand in front. -/
def readBetween? (low high : Int) (cs : List Char) : Option Int :=
  let value := match cs with
    | '+' :: rest => (readDigits? rest).map Int.ofNat
    | '-' :: rest => (readDigits? rest).map fun n => -(Int.ofNat n)
    | _ => (readDigits? cs).map Int.ofNat
  value.filter fun n => decide (low ≤ n) && decide (n ≤ high)

/-- Fill up with zeros in front to at least `width` digits. -/
def zeroPadded (width : Nat) (n : Nat) : List Char :=
  let ds := natText n
  List.replicate (width - ds.length) '0' ++ ds

theorem digitsValue_natText (n : Nat) : digitsValue (natText n) = n :=
  Nat.ofDigitChars_toDigits (by decide) (by decide)

theorem isDigit_of_mem_natText {n : Nat} {c : Char} (h : c ∈ natText n) : c.isDigit = true :=
  Nat.isDigit_of_mem_toDigits (by decide) (by decide) h

end DoubleEntry.Text
