import DoubleEntry.Json.Value

/-!
# Writing JSON

Two layouts: `compact` without any white space, and `pretty` with one item on a line, indented by
two spaces.  In strings only the quote, the backslash and the control characters below the space
are escaped; all other characters stand for themselves.
-/

namespace DoubleEntry.Json

/-! ## Strings -/

/-- A hexadecimal digit in lower case. -/
def hexDigit (n : Nat) : Char :=
  Nat.digitChar n

/-- A character inside a string. -/
def escaped (c : Char) : List Char :=
  if c == '"' then ['\\', '"']
  else if c == '\\' then ['\\', '\\']
  else if c == '\x08' then ['\\', 'b']
  else if c == '\x0c' then ['\\', 'f']
  else if c == '\n' then ['\\', 'n']
  else if c == '\r' then ['\\', 'r']
  else if c == '\t' then ['\\', 't']
  else if c.toNat < 0x20 then
    ['\\', 'u', '0', '0', hexDigit (c.toNat / 16), hexDigit (c.toNat % 16)]
  else [c]

/-- A string with its quotes. -/
def quotedString (s : String) : List Char :=
  '"' :: s.toList.flatMap escaped ++ ['"']

/-- A value that is neither array nor object. -/
def scalar : Json → List Char
  | .null => "null".toList
  | .bool true => "true".toList
  | .bool false => "false".toList
  | .int n => Text.intText n
  | .float x => x.text
  | .str s => quotedString s
  | .arr _ => []
  | .obj _ => []

/-! ## The compact layout -/

mutual

/-- A value without white space. -/
def compact : Json → List Char
  | .arr [] => ['[', ']']
  | .arr (x :: items) => '[' :: compact x ++ compactItems items
  | .obj [] => ['\x7b', '\x7d']
  | .obj ((key, x) :: fields) =>
      '\x7b' :: quotedString key ++ ':' :: compact x ++ compactFields fields
  | v => scalar v

/-- The items after the first, and the end of the array. -/
def compactItems : List Json → List Char
  | [] => [']']
  | x :: items => ',' :: compact x ++ compactItems items

/-- The fields after the first, and the end of the object. -/
def compactFields : List (String × Json) → List Char
  | [] => ['\x7d']
  | (key, x) :: fields => ',' :: quotedString key ++ ':' :: compact x ++ compactFields fields

end

/-- The compact text of a value. -/
def text (v : Json) : String :=
  String.ofList v.compact

/-! ## The pretty layout -/

/-- A new line at a depth of nesting. -/
def lineAt (depth : Nat) : List Char :=
  '\n' :: List.replicate (2 * depth) ' '

mutual

/-- A value over several lines, where the value itself stands at a depth of nesting. -/
def pretty (depth : Nat) : Json → List Char
  | .arr [] => ['[', ']']
  | .arr (x :: items) =>
      '[' :: lineAt (depth + 1) ++ pretty (depth + 1) x ++ prettyItems depth items
  | .obj [] => ['\x7b', '\x7d']
  | .obj ((key, x) :: fields) =>
      '\x7b' :: lineAt (depth + 1) ++ quotedString key ++ ':' :: ' ' :: pretty (depth + 1) x ++
        prettyFields depth fields
  | v => scalar v

/-- The items after the first, and the end of the array. -/
def prettyItems (depth : Nat) : List Json → List Char
  | [] => lineAt depth ++ [']']
  | x :: items => ',' :: lineAt (depth + 1) ++ pretty (depth + 1) x ++ prettyItems depth items

/-- The fields after the first, and the end of the object. -/
def prettyFields (depth : Nat) : List (String × Json) → List Char
  | [] => lineAt depth ++ ['\x7d']
  | (key, x) :: fields =>
      ',' :: lineAt (depth + 1) ++ quotedString key ++ ':' :: ' ' :: pretty (depth + 1) x ++
        prettyFields depth fields

end

/-- The text of a value over several lines. -/
def prettyText (v : Json) : String :=
  String.ofList (v.pretty 0)

end DoubleEntry.Json
