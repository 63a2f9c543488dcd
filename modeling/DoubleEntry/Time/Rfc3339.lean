import DoubleEntry.Text.Blank
import DoubleEntry.Text.Decimal
import DoubleEntry.Time.Timestamp

/-!
# RFC 3339

Timestamps as text.  Writing uses UTC and as many decimals of the second as are needed, in groups
of three.  There are two readers: the strict one for stored rows takes the grammar of RFC 3339,
the lenient one for JSON also takes unpadded fields, blanks between the fields, years with a sign,
an offset without colon and the name `UTC`.
-/

namespace DoubleEntry.Rfc3339

open Text

/-! ## Writing -/

/-- A year: four digits, or a sign and at least four digits outside the years 0 to 9999. -/
def yearText (year : Int) : List Char :=
  if 0 ≤ year ∧ year ≤ 9999 then zeroPadded 4 year.toNat
  else (if year < 0 then '-' else '+') :: zeroPadded 4 year.natAbs

/-- The decimals of the second, with their point: none, three, six or nine. -/
def fractionText (nanos : Nat) : List Char :=
  if nanos = 0 then []
  else if nanos % 1000000 = 0 then '.' :: zeroPadded 3 (nanos / 1000000)
  else if nanos % 1000 = 0 then '.' :: zeroPadded 6 (nanos / 1000)
  else '.' :: zeroPadded 9 nanos

/-- A date as `YYYY-MM-DD`. -/
def dateText (d : Date) : List Char :=
  yearText d.year ++ '-' :: zeroPadded 2 d.month ++ '-' :: zeroPadded 2 d.day

/-- A time of day; a leap second is second 60. -/
def timeText (t : TimeOfDay) : List Char :=
  let leap := 1000000000 ≤ t.nanos
  let second := if leap then t.second + 1 else t.second
  let nanos := if leap then t.nanos - 1000000000 else t.nanos
  zeroPadded 2 t.hour ++ ':' :: zeroPadded 2 t.minute ++ ':' :: zeroPadded 2 second ++
    fractionText nanos

/-- Date and time without the offset. -/
def localText (t : Timestamp) : List Char :=
  dateText t.date ++ 'T' :: timeText t.time

/-- The timestamp with the offset written as `Z`, the form used in JSON. -/
def zulu (t : Timestamp) : String :=
  String.ofList (localText t ++ ['Z'])

/-- The timestamp with the offset written out, the form used in stored rows and in tables. -/
def numeric (t : Timestamp) : String :=
  String.ofList (localText t ++ "+00:00".toList)

/-! ## Reading the parts -/

/-- A reader takes a value off the front of a text. -/
abbrev Reader (α : Type) := List Char → Option (α × List Char)

/-- Between `least` and `most` digits. -/
def number (least most : Nat) : Reader Nat := fun cs =>
  let ds := (cs.take most).takeWhile Char.isDigit
  if ds.length < least then none else some (digitsValue ds, cs.drop ds.length)

/-- This very character. -/
def expect (c : Char) : List Char → Option (List Char)
  | d :: cs => if c = d then some cs else none
  | [] => none

/-- The character between date and time. -/
def separator : List Char → Option (List Char)
  | c :: cs => if c = 't' ∨ c = 'T' ∨ c = ' ' then some cs else none
  | [] => none

/-- The decimals of the second; more than nine are cut off. -/
def fraction : Reader Nat := fun cs =>
  match cs with
  | '.' :: rest => do
    let (n, after) ← number 1 9 rest
    let digits := rest.length - after.length
    pure (n * Nat.pow 10 (9 - digits), after.dropWhile Char.isDigit)
  | _ => some (0, cs)

/-- The offset from UTC in minutes; `colon` takes what stands between hours and minutes. -/
def offset (colon : List Char → Option (List Char)) : Reader Int := fun cs =>
  match cs with
  | [] => none
  | c :: rest =>
    if c = 'Z' ∨ c = 'z' then some (0, rest)
    else if c = '+' ∨ c = '-' ∨ c = '−' then do
      let (hours, rest) ← number 2 2 rest
      let rest ← colon rest
      let (minutes, rest) ← number 2 2 rest
      if 60 ≤ minutes then none
      else
        let total : Int := hours * 60 + minutes
        if 1440 ≤ total then none
        else pure (if c = '+' then total else -total, rest)
    else none

/-- The timestamp with these parts; second 60 is a leap second. -/
def assemble (year : Int) (month day hour minute second nanos : Nat) (minutesAhead : Int) :
    Option Timestamp := do
  let date ← Date.ofParts? year month day
  let time ←
    if second = 60 then TimeOfDay.ofParts? hour minute 59 (nanos + 1000000000)
    else TimeOfDay.ofParts? hour minute second nanos
  Timestamp.ofLocal? date time minutesAhead

/-! ## The two readers -/

/-- Read a timestamp by the grammar of RFC 3339. -/
def parseStrict? (text : String) : Option Timestamp := do
  let cs := text.toList
  let (year, cs) ← number 4 4 cs
  let cs ← expect '-' cs
  let (month, cs) ← number 2 2 cs
  let cs ← expect '-' cs
  let (day, cs) ← number 2 2 cs
  let cs ← separator cs
  let (hour, cs) ← number 2 2 cs
  let cs ← expect ':' cs
  let (minute, cs) ← number 2 2 cs
  let cs ← expect ':' cs
  let (second, cs) ← number 2 2 cs
  let (nanos, cs) ← fraction cs
  let (ahead, cs) ← offset (expect ':') cs
  if cs.isEmpty then assemble year month day hour minute second nanos ahead else none

/-- A year of up to four digits, or with a sign of any number of digits. -/
def lenientYear : Reader Int := fun cs =>
  match cs with
  | '-' :: rest => (number 1 rest.length rest).map fun (n, r) => (-(n : Int), r)
  | '+' :: rest => (number 1 rest.length rest).map fun (n, r) => ((n : Int), r)
  | _ => (number 1 4 cs).map fun (n, r) => ((n : Int), r)

/-- A field of one or two digits after blanks. -/
def lenientField : Reader Nat := fun cs =>
  number 1 2 (trimStart cs)

/-- The offset, or the name `UTC` in any case. -/
def lenientOffset : Reader Int := fun cs =>
  if (cs.take 3).map Char.toUpper = ['U', 'T', 'C'] then some (0, cs.drop 3)
  else offset (fun r => some (r.dropWhile fun c => c == ':' || isBlank c)) cs

/-- Read a timestamp in RFC 3339 or one of the relaxed spellings. -/
def parse? (text : String) : Option Timestamp := do
  let (year, cs) ← lenientYear (trimStart text.toList)
  let cs ← expect '-' (trimStart cs)
  let (month, cs) ← lenientField cs
  let cs ← expect '-' (trimStart cs)
  let (day, cs) ← lenientField cs
  let cs ← separator cs
  let (hour, cs) ← lenientField cs
  let cs ← expect ':' (trimStart cs)
  let (minute, cs) ← lenientField cs
  let cs ← expect ':' (trimStart cs)
  let (second, cs) ← lenientField cs
  let (nanos, cs) ← fraction cs
  let (ahead, cs) ← lenientOffset (trimStart cs)
  if (trimStart cs).isEmpty then assemble year month day hour minute second nanos ahead else none

end DoubleEntry.Rfc3339
