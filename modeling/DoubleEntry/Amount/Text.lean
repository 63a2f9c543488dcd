import DoubleEntry.Amount.Bounds
import DoubleEntry.Currency
import DoubleEntry.Text.Blank
import DoubleEntry.Text.Decimal
import DoubleEntry.Text.Quoted

/-!
# Amounts as text

Amounts are counted in minor units, a hundredth of the currency, and written in major units with
two decimals.  Reading takes a whole number and at most two decimals; the result must be an
amount.
-/

namespace DoubleEntry.Amount

open Text

/-! ## Writing -/

/-- An amount in major units, without its currency. -/
def majorText (minor : Int) : List Char :=
  (if minor < 0 then ['-'] else []) ++
    natText (minor.natAbs / 100) ++ '.' :: zeroPadded 2 (minor.natAbs % 100)

/-- An amount with its currency. -/
def format (minor : Int) (currency : Currency) : String :=
  String.ofList (majorText minor ++ ' ' :: currency.code.toList)

/-! ## Reading -/

/-- Why a text is not an amount; each cause carries the text without surrounding blanks. -/
inductive TextError where
  /-- The whole part is not a number. -/
  | notANumber (text : String)
  /-- The decimals are more than two, or not digits. -/
  | badDecimals (text : String)
  /-- The number is not an amount. -/
  | tooLarge (text : String)
  deriving DecidableEq, Repr

/-- The cause in words. -/
def TextError.message : TextError → String
  | .notANumber text => "Invalid amount " ++ quoted text ++ ": expected a number like 12.50"
  | .badDecimals text => "Invalid amount " ++ quoted text ++ ": at most two decimal places"
  | .tooLarge text => "Amount " ++ quoted text ++ " is too large"

/-- The text before the first point and the text after it. -/
def splitPoint (cs : List Char) : List Char × List Char :=
  (cs.takeWhile (· ≠ '.'), (cs.dropWhile (· ≠ '.')).drop 1)

/-- The minor units in at most two decimals. -/
def centsOf (decimals : List Char) : Nat :=
  digitsValue (decimals ++ List.replicate (2 - decimals.length) '0')

/-- Read an amount in major units. -/
def parse (input : String) : Except TextError Int :=
  let cs := trim input.toList
  let text := String.ofList cs
  let (whole, decimals) := splitPoint cs
  if whole.isEmpty || !whole.all Char.isDigit then .error (.notANumber text)
  else if 2 < decimals.length || !decimals.all Char.isDigit then .error (.badDecimals text)
  else match fit? (digitsValue whole * 100 + centsOf decimals) with
    | some minor => .ok minor
    | none => .error (.tooLarge text)

end DoubleEntry.Amount
