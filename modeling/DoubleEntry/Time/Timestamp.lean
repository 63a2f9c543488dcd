/-!
# Moments of the calendar

A `Timestamp` is a date of the Gregorian calendar and a time of day in UTC, to the nanosecond.
Both carry the proof that they exist: there is no 30 February and no 24:00.  A leap second is the
second after second 59 of some minute.  The calendar is bounded; stepping off either end gives
`none`.
-/

namespace DoubleEntry

/-! ## Dates -/

/-- Whether the year has a 29 February. -/
def isLeapYear (year : Int) : Bool :=
  year % 4 == 0 && (year % 100 != 0 || year % 400 == 0)

/-- The number of days of a month. -/
def daysIn (year : Int) (month : Nat) : Nat :=
  if month == 2 then (if isLeapYear year then 29 else 28)
  else if month == 4 || month == 6 || month == 9 || month == 11 then 30
  else 31

/-- The first year of the calendar. -/
def firstYear : Int := -262143

/-- The last year of the calendar. -/
def lastYear : Int := 262142

/-- Whether year, month and day name a date of the calendar. -/
def IsDate (year : Int) (month day : Nat) : Prop :=
  (firstYear ≤ year ∧ year ≤ lastYear) ∧ (1 ≤ month ∧ month ≤ 12) ∧
    1 ≤ day ∧ day ≤ daysIn year month

instance (year : Int) (month day : Nat) : Decidable (IsDate year month day) :=
  inferInstanceAs (Decidable (_ ∧ _))

/-- A date. -/
structure Date where
  year : Int
  month : Nat
  day : Nat
  valid : IsDate year month day
  deriving DecidableEq

namespace Date

/-- The date with these parts, if there is one. -/
def ofParts? (year : Int) (month day : Nat) : Option Date :=
  if h : IsDate year month day then some ⟨year, month, day, h⟩ else none

/-- The day after. -/
def next? (d : Date) : Option Date :=
  if d.day < daysIn d.year d.month then ofParts? d.year d.month (d.day + 1)
  else if d.month < 12 then ofParts? d.year (d.month + 1) 1
  else ofParts? (d.year + 1) 1 1

/-- The day before. -/
def previous? (d : Date) : Option Date :=
  if 1 < d.day then ofParts? d.year d.month (d.day - 1)
  else if 1 < d.month then ofParts? d.year (d.month - 1) (daysIn d.year (d.month - 1))
  else ofParts? (d.year - 1) 12 31

/-- The date so many days after 1 January 1970, counted by whole cycles of 400 years that begin
in March. -/
def ofDays? (days : Int) : Option Date :=
  let shifted := days + 719468
  let cycle := Int.fdiv shifted 146097
  let dayOfCycle := (Int.fmod shifted 146097).toNat
  let yearOfCycle :=
    (dayOfCycle - dayOfCycle / 1460 + dayOfCycle / 36524 - dayOfCycle / 146096) / 365
  let dayOfYear := dayOfCycle - (365 * yearOfCycle + yearOfCycle / 4 - yearOfCycle / 100)
  let marchMonth := (5 * dayOfYear + 2) / 153
  let day := dayOfYear - (153 * marchMonth + 2) / 5 + 1
  let month := if marchMonth < 10 then marchMonth + 3 else marchMonth - 9
  let year := yearOfCycle + cycle * 400 + if month ≤ 2 then 1 else 0
  ofParts? year month day

/-- 1 January 1970. -/
def epoch : Date := ⟨1970, 1, 1, by decide⟩

end Date

/-! ## Times of day -/

/-- Whether hour, minute, second and nanosecond name a time of day; from one thousand million on,
the nanoseconds lie in a leap second. -/
def IsTime (hour minute second nanos : Nat) : Prop :=
  hour < 24 ∧ minute < 60 ∧ second < 60 ∧ nanos < 2000000000 ∧ (1000000000 ≤ nanos → second = 59)

instance (hour minute second nanos : Nat) : Decidable (IsTime hour minute second nanos) :=
  inferInstanceAs (Decidable (_ ∧ _))

/-- A time of day. -/
structure TimeOfDay where
  hour : Nat
  minute : Nat
  second : Nat
  nanos : Nat
  valid : IsTime hour minute second nanos
  deriving DecidableEq

namespace TimeOfDay

/-- The time of day with these parts, if there is one. -/
def ofParts? (hour minute second nanos : Nat) : Option TimeOfDay :=
  if h : IsTime hour minute second nanos then some ⟨hour, minute, second, nanos, h⟩ else none

/-- The first moment of the day. -/
def midnight : TimeOfDay := ⟨0, 0, 0, 0, by decide⟩

/-- Minutes since midnight. -/
def minutes (t : TimeOfDay) : Nat :=
  t.hour * 60 + t.minute

/-- The same second of another minute of the day. -/
def withMinutes? (t : TimeOfDay) (minutes : Nat) : Option TimeOfDay :=
  ofParts? (minutes / 60) (minutes % 60) t.second t.nanos

end TimeOfDay

/-! ## Timestamps -/

/-- A moment in UTC. -/
structure Timestamp where
  date : Date
  time : TimeOfDay
  deriving DecidableEq

namespace Timestamp

/-- The moment that a clock shows so many minutes ahead of UTC. -/
def ofLocal? (date : Date) (time : TimeOfDay) (minutesAhead : Int) : Option Timestamp := do
  let minutes : Int := time.minutes - minutesAhead
  if minutes < 0 then
    let date ← date.previous?
    let time ← time.withMinutes? (minutes + 1440).toNat
    pure ⟨date, time⟩
  else if minutes < 1440 then
    let time ← time.withMinutes? minutes.toNat
    pure ⟨date, time⟩
  else
    let date ← date.next?
    let time ← time.withMinutes? (minutes - 1440).toNat
    pure ⟨date, time⟩

/-- The moment so many nanoseconds after the start of 1970; the start itself beyond the end of
the calendar. -/
def ofNanos (nanos : Nat) : Timestamp :=
  let seconds := nanos / 1000000000
  let ofDay := seconds % 86400
  let date := (Date.ofDays? (seconds / 86400 : Nat)).getD Date.epoch
  let time := (TimeOfDay.ofParts? (ofDay / 3600) (ofDay / 60 % 60) (ofDay % 60)
    (nanos % 1000000000)).getD TimeOfDay.midnight
  ⟨date, time⟩

end Timestamp

end DoubleEntry
