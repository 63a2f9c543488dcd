import DoubleEntry.Json.Numeral
import DoubleEntry.Text.Decimal

/-!
# JSON documents

The outline of a JSON text, complete or not.  A text that breaks off or breaks a rule still has an
outline up to that point: an array keeps the items before the fault.  So a reader that works through
the outline in order finds whichever comes first, the fault of the text or its own objection.

Strings are kept apart from their fault of content: a string whose escapes are no Unicode text is
complete (`str none`), which matters only to those who look at it.
-/

namespace DoubleEntry.Json

/-! ## Outlines -/

/-- Why a text is not the JSON it should be. -/
inductive Defect where
  /-- It breaks the rules of JSON. -/
  | malformed
  /-- It is JSON, but not of the wanted form. -/
  | mismatch
  /-- It ends too early. -/
  | truncated
  deriving DecidableEq, Repr

/-- The outline of a JSON text. -/
inductive Doc where
  | null
  | bool (b : Bool)
  | num (n : Numeral)
  | str (content : Option String)
  /-- The items, and the fault after the last of them if the array does not end well. -/
  | arr (items : List Doc) (fault : Option Defect)
  /-- The fields, and the fault after the last of them if the object does not end well. -/
  | obj (fields : List (Doc × Doc)) (fault : Option Defect)
  /-- A value that is no string, in the place of a key. -/
  | unquoted (value : Doc)
  /-- A value that breaks a rule or breaks off: its first character if it has one, the fault for
  those who want its content, and the fault for those who only want to get past it. -/
  | broken (first : Option Char) (wanted skipped : Defect)

/-- Nothing stands where a value should be. -/
def Doc.absent : Doc := .broken none .truncated .truncated

/-- A value with this first character that is at fault in the same way for everybody. -/
def Doc.fault (first : Char) (d : Defect) : Doc := .broken (some first) d d

/-! ## White space and literals -/

/-- The white space between the parts of a JSON text. -/
def isSpace (c : Char) : Bool :=
  c == ' ' || c == '\n' || c == '\t' || c == '\r'

/-- Drop white space in front. -/
def skipSpace (cs : List Char) : List Char :=
  cs.dropWhile isSpace

/-- Read the rest of a literal after its first character. -/
def readLiteral (first : Char) (value : Doc) : (rest : List Char) → List Char → Doc × List Char
  | [], cs => (value, cs)
  | _ :: _, [] => (.fault first .truncated, [])
  | c :: rest, d :: cs =>
    if c = d then readLiteral first value rest cs else (.fault first .malformed, cs)

/-! ## Strings -/

/-- The value of a hexadecimal digit. -/
def hexValue? (c : Char) : Option Nat :=
  if '0' ≤ c ∧ c ≤ '9' then some (c.toNat - 48)
  else if 'a' ≤ c ∧ c ≤ 'f' then some (c.toNat - 87)
  else if 'A' ≤ c ∧ c ≤ 'F' then some (c.toNat - 55)
  else none

/-- The number that four hexadecimal digits denote. -/
def fourDigits? (a b c d : Char) : Option Nat := do
  pure ((((← hexValue? a) * 16 + (← hexValue? b)) * 16 + (← hexValue? c)) * 16 + (← hexValue? d))

/-- Read the four digits of a `\u` escape.  The text is cut short if fewer than four bytes are
left of it. -/
def readUnit (cs : List Char) : Except Defect (Nat × List Char) :=
  if (String.ofList (cs.take 4)).utf8ByteSize < 4 then .error .truncated
  else match cs with
    | a :: b :: c :: d :: rest =>
      match fourDigits? a b c d with
      | some n => .ok (n, rest)
      | none => .error .malformed
    | _ => .error .malformed

/-- The character that a short escape stands for. -/
def shortEscape? (c : Char) : Option Char :=
  if c = '"' ∨ c = '\\' ∨ c = '/' then some c
  else if c = 'b' then some '\x08'
  else if c = 'f' then some '\x0c'
  else if c = 'n' then some '\n'
  else if c = 'r' then some '\r'
  else if c = 't' then some '\t'
  else none

/-- Whether a 16-bit unit is the first half of a pair. -/
def isHighHalf (n : Nat) : Bool := 0xD800 ≤ n && n ≤ 0xDBFF

/-- Whether a 16-bit unit is the second half of a pair. -/
def isLowHalf (n : Nat) : Bool := 0xDC00 ≤ n && n ≤ 0xDFFF

/-- Read a `\u` escape after its `u`: the character, unless the unit is a half without its other
half, and what follows.  The second half must be escaped too. -/
def readCodePoint (cs : List Char) : Except Defect (Option Char × List Char) := do
  let (n, rest) ← readUnit cs
  if isLowHalf n then pure (none, rest)
  else if isHighHalf n then
    match rest with
    | [] => .error .truncated
    | ['\\'] => .error .truncated
    | '\\' :: 'u' :: more =>
      let (m, after) ← readUnit more
      if isLowHalf m then
        pure (some (Char.ofNat (0x10000 + (n - 0xD800) * 0x400 + (m - 0xDC00))), after)
      else pure (none, rest)
    | _ => pure (none, rest)
  else pure (some (Char.ofNat n), rest)

/-- Read a string after its opening quote.  `content` holds the characters so far, the last first,
or nothing if they are no Unicode text. -/
def readString : (fuel : Nat) → (content : Option (List Char)) → List Char → Doc × List Char
  | 0, _, _ => (.absent, [])
  | fuel + 1, content, cs =>
    let failed (d : Defect) : Doc :=
      .broken (some '"') (if content.isNone then .malformed else d) d
    match cs with
    | [] => (failed .truncated, [])
    | '"' :: rest => (.str (content.map fun s => String.ofList s.reverse), rest)
    | '\\' :: 'u' :: rest =>
      match readCodePoint rest with
      | .error d => (failed d, [])
      | .ok (c, rest) =>
        readString fuel (do let s ← content; let c ← c; pure (c :: s)) rest
    | ['\\'] => (failed .truncated, [])
    | '\\' :: e :: rest =>
      match shortEscape? e with
      | some c => readString fuel (content.map (c :: ·)) rest
      | none => (failed .malformed, rest)
    | c :: rest =>
      if c.toNat < 0x20 then (failed .malformed, rest)
      else readString fuel (content.map (c :: ·)) rest

/-! ## Numbers -/

/-- Where a digit is missing: the text breaks a rule, but who wants the number finds first that it
breaks off. -/
def missingDigit (cs : List Char) : Doc × List Char :=
  (.broken (some '0') (if cs.isEmpty then .truncated else .malformed) .malformed, [])

/-- Read the exponent of a number, if it has one, after everything else. -/
def readExponent (t : NumberText) (cs : List Char) : Doc × List Char :=
  match cs with
  | e :: rest =>
    if e = 'e' ∨ e = 'E' then
      let (down, rest) := match rest with
        | '+' :: r => (false, r)
        | '-' :: r => (true, r)
        | r => (false, r)
      let digits := rest.takeWhile Char.isDigit
      let rest := rest.dropWhile Char.isDigit
      if digits.isEmpty then missingDigit rest
      else (.num { t with exponent := some (down, digits) }.value, rest)
    else (.num t.value, cs)
  | [] => (.num t.value, [])

/-- Read the decimals of a number, if it has any, and its exponent. -/
def readDecimals (t : NumberText) (cs : List Char) : Doc × List Char :=
  match cs with
  | '.' :: rest =>
    let digits := rest.takeWhile Char.isDigit
    let rest := rest.dropWhile Char.isDigit
    if digits.isEmpty then missingDigit rest
    else readExponent { t with decimals := some digits } rest
  | _ => readExponent t cs

/-- Read a number after its sign.  Its whole part is a zero or begins with another digit. -/
def readNumber (negative : Bool) (cs : List Char) : Doc × List Char :=
  let digits := cs.takeWhile Char.isDigit
  let rest := cs.dropWhile Char.isDigit
  match digits with
  | [] => missingDigit rest
  | '0' :: _ :: _ => (.fault '0' .malformed, rest)
  | _ => readDecimals ⟨negative, digits, none, none⟩ rest

/-! ## Values -/

mutual

/-- Read a value. -/
def readValue : (fuel : Nat) → List Char → Doc × List Char
  | 0, _ => (.absent, [])
  | fuel + 1, cs =>
    match skipSpace cs with
    | [] => (.absent, [])
    | 'n' :: rest => readLiteral 'n' .null "ull".toList rest
    | 't' :: rest => readLiteral 't' (.bool true) "rue".toList rest
    | 'f' :: rest => readLiteral 'f' (.bool false) "alse".toList rest
    | '"' :: rest => readString (rest.length + 1) (some []) rest
    | '-' :: rest => readNumber true rest
    | '[' :: rest =>
      match skipSpace rest with
      | ']' :: after => (.arr [] none, after)
      | [] => (.arr [] (some .truncated), [])
      | after =>
        let (items, fault, after) := readItems fuel after
        (.arr items fault, after)
    | '\x7b' :: rest =>
      match skipSpace rest with
      | '\x7d' :: after => (.obj [] none, after)
      | [] => (.obj [] (some .truncated), [])
      | after =>
        let (fields, fault, after) := readFields fuel after
        (.obj fields fault, after)
    | c :: rest =>
      if c.isDigit then readNumber false (c :: rest) else (.fault c .malformed, rest)

/-- Read one or more items up to the end of the array. -/
def readItems : (fuel : Nat) → List Char → List Doc × Option Defect × List Char
  | 0, _ => ([], some .truncated, [])
  | fuel + 1, cs =>
    match readValue fuel cs with
    | (.broken first wanted skipped, rest) => ([.broken first wanted skipped], none, rest)
    | (x, rest) =>
      match skipSpace rest with
      | ']' :: after => ([x], none, after)
      | ',' :: after =>
        let (items, fault, after) := readItems fuel after
        (x :: items, fault, after)
      | [] => ([x], some .truncated, [])
      | _ :: after => ([x], some .malformed, after)

/-- Read one or more fields up to the end of the object. -/
def readFields : (fuel : Nat) → List Char → List (Doc × Doc) × Option Defect × List Char
  | 0, _ => ([], some .truncated, [])
  | fuel + 1, cs =>
    match skipSpace cs with
    | '"' :: rest =>
      match readString (rest.length + 1) (some []) rest with
      | (.broken first wanted skipped, rest) =>
        ([(.broken first wanted skipped, .absent)], none, rest)
      | (key, rest) =>
        match skipSpace rest with
        | ':' :: after => readField fuel key after
        | [] => ([(key, .absent)], none, [])
        | c :: after => ([(key, .fault c .malformed)], none, after)
    | [] => ([(.absent, .absent)], none, [])
    | rest =>
      let (value, after) := readValue fuel rest
      ([(.unquoted value, .absent)], none, after)

/-- Read a field after its colon, and the fields after it. -/
def readField : (fuel : Nat) → (key : Doc) → List Char →
    List (Doc × Doc) × Option Defect × List Char
  | 0, _, _ => ([], some .truncated, [])
  | fuel + 1, key, cs =>
    match readValue fuel cs with
    | (.broken first wanted skipped, rest) => ([(key, .broken first wanted skipped)], none, rest)
    | (x, rest) =>
      match skipSpace rest with
      | '\x7d' :: after => ([(key, x)], none, after)
      | ',' :: after =>
        let (fields, fault, after) := readFields fuel after
        ((key, x) :: fields, fault, after)
      | [] => ([(key, x)], some .truncated, [])
      | _ :: after => ([(key, x)], some .malformed, after)

end

/-- The outline of a text, and what follows the value.  No character takes more than two steps. -/
def outline (cs : List Char) : Doc × List Char :=
  readValue (2 * cs.length + 2) cs

end DoubleEntry.Json
