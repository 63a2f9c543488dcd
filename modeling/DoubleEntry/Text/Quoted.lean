import DoubleEntry.Text.Graphic

/-!
# Quoted text

How messages quote a text that the user gave: between double quotes, with the quote and the
backslash escaped, the common control characters in their short form and every other character
that is not graphic by its number.
-/

namespace DoubleEntry.Text

/-- One character as it stands between the quotes. -/
def quotedChar (c : Char) : List Char :=
  if c == '\x00' then ['\\', '0']
  else if c == '\t' then ['\\', 't']
  else if c == '\r' then ['\\', 'r']
  else if c == '\n' then ['\\', 'n']
  else if c == '"' || c == '\\' then ['\\', c]
  else if isGraphic c then [c]
  else "\\u\x7b".toList ++ Nat.toDigits 16 c.toNat ++ ['\x7d']

/-- A text between double quotes. -/
def quoted (s : String) : String :=
  String.ofList ('"' :: s.toList.flatMap quotedChar ++ ['"'])

end DoubleEntry.Text
