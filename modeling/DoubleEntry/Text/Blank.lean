/-!
# Blank characters

The characters with the Unicode property *White_Space*, and trimming by them.  Amounts, currency
codes, timestamps and numbers taken from the environment may all be surrounded by blanks, and the
whole property counts, not only its ASCII members.
-/

namespace DoubleEntry.Text

/-- The characters with the property *White_Space*. -/
def isBlank (c : Char) : Bool :=
  let n := c.toNat
  (9 ≤ n && n ≤ 13) || n == 0x20 || n == 0x85 || n == 0xA0 || n == 0x1680 ||
    (0x2000 ≤ n && n ≤ 0x200A) || n == 0x2028 || n == 0x2029 || n == 0x202F || n == 0x205F ||
    n == 0x3000

/-- Drop the blanks in front. -/
def trimStart (cs : List Char) : List Char :=
  cs.dropWhile isBlank

/-- Drop the blanks at the end. -/
def trimEnd (cs : List Char) : List Char :=
  (cs.reverse.dropWhile isBlank).reverse

/-- Drop the blanks on both sides. -/
def trim (cs : List Char) : List Char :=
  trimEnd (trimStart cs)

end DoubleEntry.Text
