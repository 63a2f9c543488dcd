import DoubleEntry.Error
import DoubleEntry.Text.Blank
import DoubleEntry.Text.Quoted
import DoubleEntry.Text.Uppercase

/-!
# Reading currency codes

A currency is named by its code.  Surrounding blanks do not matter, and neither does the case:
the text is brought to upper case first, by the full mapping and not only for ASCII letters.
-/

namespace DoubleEntry.Currency

/-- The text of which `parse` expects the code: trimmed and in upper case. -/
def normalized (text : String) : String :=
  String.ofList (Text.upper (Text.trim text.toList))

/-- The currency that a text names. -/
def parse (text : String) : Except Error Currency :=
  match ofCode? (normalized text) with
  | some currency => .ok currency
  | none => .error (.validation ("unsupported currency: " ++ Text.quoted (normalized text)))

end DoubleEntry.Currency
