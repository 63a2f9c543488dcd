import DoubleEntry.Proofs.Text.Blanks
import DoubleEntry.Proofs.Text.Numerals
import DoubleEntry.Time.Rfc3339

/-!
# Stored timestamps read back

Rows hold timestamps as text, written by `Rfc3339.numeric` and read by `Rfc3339.parseStrict?`.  For
the years 0 to 9999 the reader gives back what was written (`parseStrict?_numeric`); later years
have more than four digits, which the grammar of RFC 3339 does not allow.  `parseStrict?_ofNanos`
says so of what a clock shows that counts from 1970.

The lemmas follow the text from left to right: each says of one reader that it takes the text of one
part off the front and leaves the rest.
-/

namespace DoubleEntry

namespace Rfc3339

open Text

variable {width n : Nat} {rest : List Char}

/-! ## Readers of parts -/

/-- Digits are read up to the most that are asked for, or up to what is no digit. -/
theorem number_append {least most : Nat} {ds : List Char} (digits : ∀ c ∈ ds, c.isDigit = true)
    (enough : least ≤ ds.length) (few : ds.length ≤ most)
    (ends : ds.length = most ∨ ∀ c ∈ rest.head?, c.isDigit = false) :
    number least most (ds ++ rest) = some (digitsValue ds, rest) := by
  have taken : ((ds ++ rest).take most).takeWhile Char.isDigit = ds := by
    rw [List.take_append, List.take_of_length_le few, List.takeWhile_append_of_pos digits]
    rcases ends with full | stops
    · simp [full]
    · cases rest with
      | nil => simp
      | cons c rest =>
        have other : c.isDigit = false := stops c rfl
        cases most - ds.length <;> simp [other]
  simp only [number, taken, if_neg (Nat.not_lt.2 enough), List.drop_left]

theorem number_zeroPadded (pos : 0 < width) (fits : n < 10 ^ width) :
    number width width (zeroPadded width n ++ rest) = some (n, rest) := by
  have length := length_zeroPadded pos fits
  rw [number_append (fun c => isDigit_of_mem_zeroPadded) (Nat.le_of_eq length.symm)
    (Nat.le_of_eq length) (.inl length),
    digitsValue_zeroPadded]

/-- Decimals are read as nanoseconds, however many groups of three were written. -/
theorem fraction_zeroPadded (groups scale : Nat) (pos : 0 < groups) (few : groups ≤ 3)
    (fits : n < 10 ^ (3 * groups)) (scaled : scale = 10 ^ (9 - 3 * groups))
    (ends : ∀ c ∈ rest.head?, c.isDigit = false) :
    fraction ('.' :: (zeroPadded (3 * groups) n ++ rest)) = some (n * scale, rest) := by
  have length : (zeroPadded (3 * groups) n).length = 3 * groups :=
    length_zeroPadded (by omega) fits
  have read : number 1 9 (zeroPadded (3 * groups) n ++ rest) = some (n, rest) := by
    rw [number_append (fun c => isDigit_of_mem_zeroPadded) (by omega) (by omega) (.inr ends),
      digitsValue_zeroPadded]
  have nothing : rest.dropWhile Char.isDigit = rest := by
    cases rest with
    | nil => rfl
    | cons c rest => simp [ends c rfl]
  have digits : (zeroPadded (3 * groups) n ++ rest).length - rest.length = 3 * groups := by
    rw [List.length_append, length]
    omega
  simp only [fraction, read, Option.bind_eq_bind, Option.bind_some, digits, nothing, scaled]
  rfl

theorem fraction_fractionText (bounded : n < 1000000000)
    (ends : ∀ c ∈ rest.head?, c.isDigit = false ∧ c ≠ '.') :
    fraction (fractionText n ++ rest) = some (n, rest) := by
  have stops (c : Char) (mem : c ∈ rest.head?) : c.isDigit = false := (ends c mem).1
  unfold fractionText
  split
  · rename_i zero
    rw [zero, List.nil_append]
    cases rest with
    | nil => rfl
    | cons c rest =>
      have other : c ≠ '.' := (ends c rfl).2
      simp [fraction, other]
  · split
    · have read : fraction ('.' :: (zeroPadded (3 * 1) (n / 1000000) ++ rest)) = _ :=
        fraction_zeroPadded 1 1000000 (by decide) (by decide) (by omega) rfl stops
      rw [List.cons_append, read]
      congr 2
      omega
    · split
      · have read : fraction ('.' :: (zeroPadded (3 * 2) (n / 1000) ++ rest)) = _ :=
          fraction_zeroPadded 2 1000 (by decide) (by decide) (by omega) rfl stops
        rw [List.cons_append, read]
        congr 2
        omega
      · have read : fraction ('.' :: (zeroPadded (3 * 3) n ++ rest)) = _ :=
          fraction_zeroPadded 3 1 (by decide) (by decide) (by omega) rfl stops
        rw [List.cons_append, read, Nat.mul_one]

/-! ## Timestamps -/

theorem ofParts?_date (d : Date) : Date.ofParts? d.year d.month d.day = some d :=
  dif_pos d.valid

theorem ofParts?_time (t : TimeOfDay) :
    TimeOfDay.ofParts? t.hour t.minute t.second t.nanos = some t :=
  dif_pos t.valid

theorem ofLocal?_zero (d : Date) (t : TimeOfDay) : Timestamp.ofLocal? d t 0 = some ⟨d, t⟩ := by
  obtain ⟨hour, minute, -⟩ := t.valid
  have early : t.minutes < 1440 := by
    unfold TimeOfDay.minutes
    omega
  have same : t.withMinutes? t.minutes = some t := by
    have hours : t.minutes / 60 = t.hour := by
      unfold TimeOfDay.minutes
      omega
    have minutes : t.minutes % 60 = t.minute := by
      unfold TimeOfDay.minutes
      omega
    rw [TimeOfDay.withMinutes?, hours, minutes, ofParts?_time]
  simp only [Timestamp.ofLocal?, Int.sub_zero]
  rw [if_neg (by omega), if_pos (by omega), Int.toNat_natCast, same]
  rfl

/-- A time of day is put together from its parts as they are written, also in a leap second. -/
theorem assemble_written (d : Date) (t : TimeOfDay) :
    assemble d.year d.month d.day t.hour t.minute
      (if 1000000000 ≤ t.nanos then t.second + 1 else t.second)
      (if 1000000000 ≤ t.nanos then t.nanos - 1000000000 else t.nanos) 0 = some ⟨d, t⟩ := by
  obtain ⟨-, -, seconds, -, leaps⟩ := t.valid
  have time := ofParts?_time t
  simp only [assemble, ofParts?_date, Option.bind_eq_bind, Option.bind_some]
  by_cases leap : 1000000000 ≤ t.nanos
  · have last := leaps leap
    rw [last] at time
    rw [if_pos leap, if_pos leap, last, if_pos rfl, Nat.sub_add_cancel leap, time,
      Option.bind_some, ofLocal?_zero]
  · rw [if_neg leap, if_neg leap, if_neg (by omega), time, Option.bind_some, ofLocal?_zero]

/-- The parts of a timestamp have as many digits as they are written with. -/
theorem parts_fit (t : Timestamp) (readable : 0 ≤ t.date.year ∧ t.date.year ≤ 9999) :
    t.date.year.toNat < 10 ^ 4 ∧ t.date.month < 10 ^ 2 ∧ t.date.day < 10 ^ 2 ∧
      t.time.hour < 10 ^ 2 ∧ t.time.minute < 10 ^ 2 ∧
      (if 1000000000 ≤ t.time.nanos then t.time.second + 1 else t.time.second) < 10 ^ 2 ∧
      (if 1000000000 ≤ t.time.nanos then t.time.nanos - 1000000000 else t.time.nanos)
        < 1000000000 := by
  obtain ⟨-, month, day⟩ := t.date.valid
  obtain ⟨hour, minute, second, nanos, leaps⟩ := t.time.valid
  have days : daysIn t.date.year t.date.month ≤ 31 := by
    unfold daysIn
    repeat' split
    all_goals decide
  have seconds : (if 1000000000 ≤ t.time.nanos then t.time.second + 1 else t.time.second)
      < 10 ^ 2 := by
    split
    · rename_i leap
      rw [leaps leap]
      decide
    · exact Nat.lt_trans second (by decide)
  have fractions : (if 1000000000 ≤ t.time.nanos then t.time.nanos - 1000000000 else t.time.nanos)
      < 1000000000 := by
    split
    · exact Nat.sub_lt_left_of_lt_add ‹_› nanos
    · exact Nat.not_le.1 ‹_›
  exact ⟨by omega, by omega, by omega, by omega, by omega, seconds, fractions⟩

/-- **What is written into a row reads back.** -/
theorem parseStrict?_numeric (t : Timestamp) (readable : 0 ≤ t.date.year ∧ t.date.year ≤ 9999) :
    parseStrict? (numeric t) = some t := by
  obtain ⟨years, months, days, hours, minutes, seconds, fractions⟩ := parts_fit t readable
  have year : ((t.date.year.toNat : Nat) : Int) = t.date.year := Int.toNat_of_nonneg readable.1
  have two : 0 < 2 := by decide
  have zone : offset (expect ':') "+00:00".toList = some (0, []) := by decide
  have sign : "+00:00".toList.head? = some '+' := rfl
  have ends : ∀ c ∈ "+00:00".toList.head?, c.isDigit = false ∧ c ≠ '.' := by
    rw [sign]
    rintro _ ⟨⟩
    decide
  simp only [parseStrict?, numeric, String.toList_ofList, localText, dateText, timeText, yearText,
    if_pos readable, List.append_assoc, List.cons_append, Option.bind_eq_bind, Option.bind_some,
    number_zeroPadded (show 0 < 4 by decide) years, number_zeroPadded two months,
    number_zeroPadded two days, number_zeroPadded two hours, number_zeroPadded two minutes,
    number_zeroPadded two seconds, fraction_fractionText fractions ends, zone,
    expect, separator, if_true, or_true, true_or, year]
  exact assemble_written t.date t.time

/-! ## Timestamps in JSON -/

theorem zeroPadded_head (width n : Nat) :
    ∃ c cs, zeroPadded width n = c :: cs ∧ c.isDigit = true := by
  cases written : zeroPadded width n with
  | nil =>
    have none : natText n = [] := (List.append_eq_nil_iff.1 written).2
    exact absurd none Nat.toDigits_ne_nil
  | cons c cs =>
    exact ⟨c, cs, rfl, isDigit_of_mem_zeroPadded (by rw [written]; exact List.mem_cons_self)⟩

theorem trimStart_zeroPadded :
    trimStart (zeroPadded width n ++ rest) = zeroPadded width n ++ rest := by
  obtain ⟨c, cs, written, digit⟩ := zeroPadded_head width n
  simp [trimStart, written, isBlank_of_isDigit digit]

theorem trimStart_cons {c : Char} (visible : isBlank c = false) :
    trimStart (c :: rest) = c :: rest := by
  simp [trimStart, visible]

theorem lenientField_zeroPadded (fits : n < 10 ^ 2) :
    lenientField (zeroPadded 2 n ++ rest) = some (n, rest) := by
  have length := length_zeroPadded (show 0 < 2 by decide) fits
  rw [lenientField, trimStart_zeroPadded,
    number_append (fun c => isDigit_of_mem_zeroPadded) (by omega) (by omega) (.inl length),
    digitsValue_zeroPadded]

theorem lenientYear_zeroPadded (fits : n < 10 ^ 4) :
    lenientYear (zeroPadded 4 n ++ rest) = some ((n : Int), rest) := by
  have length := length_zeroPadded (show 0 < 4 by decide) fits
  have read : number 1 4 (zeroPadded 4 n ++ rest) = some (n, rest) := by
    rw [number_append (fun c => isDigit_of_mem_zeroPadded) (by omega) (by omega) (.inl length),
      digitsValue_zeroPadded]
  obtain ⟨c, cs, written, digit⟩ := zeroPadded_head 4 n
  rw [written, List.cons_append] at read ⊢
  unfold lenientYear
  split
  · rename_i sign
    cases sign
    cases digit
  · rename_i sign
    cases sign
    cases digit
  · rw [read]
    rfl

/-- **What is written into JSON reads back.** -/
theorem parse?_zulu (t : Timestamp) (readable : 0 ≤ t.date.year ∧ t.date.year ≤ 9999) :
    parse? (zulu t) = some t := by
  obtain ⟨years, months, days, hours, minutes, seconds, fractions⟩ := parts_fit t readable
  have year : ((t.date.year.toNat : Nat) : Int) = t.date.year := Int.toNat_of_nonneg readable.1
  have zone : lenientOffset (trimStart ['Z']) = some (0, []) := by decide
  have ends : ∀ c ∈ ['Z'].head?, c.isDigit = false ∧ c ≠ '.' := by
    rintro _ ⟨⟩
    decide
  simp only [parse?, zulu, String.toList_ofList, localText, dateText, timeText, yearText,
    if_pos readable, List.append_assoc, List.cons_append, Option.bind_eq_bind, Option.bind_some,
    trimStart_zeroPadded, lenientYear_zeroPadded years, lenientField_zeroPadded months,
    lenientField_zeroPadded days, lenientField_zeroPadded hours, lenientField_zeroPadded minutes,
    lenientField_zeroPadded seconds, trimStart_cons (show isBlank '-' = false from rfl),
    trimStart_cons (show isBlank ':' = false from rfl), fraction_fractionText fractions ends, zone,
    expect, separator, if_true, or_true, true_or, year]
  exact assemble_written t.date t.time

/-! ## The clock -/

theorem year_of_ofParts? {year : Int} {month day : Nat} {d : Date}
    (found : Date.ofParts? year month day = some d) : d.year = year := by
  unfold Date.ofParts? at found
  split at found
  · rw [← Option.some.inj found]
  · cases found

/-- The days after the start of 1970 lie in years after Christ. -/
theorem year_nonneg_of_ofDays? {days : Nat} {d : Date} (found : Date.ofDays? days = some d) :
    0 ≤ d.year := by
  have cycles : 0 ≤ Int.fdiv ((days : Int) + 719468) 146097 :=
    Int.fdiv_nonneg (by omega) (by decide)
  rw [year_of_ofParts? (show Date.ofParts? _ _ _ = some d from found)]
  split <;> omega

theorem year_ofNanos_nonneg (nanos : Nat) : 0 ≤ (Timestamp.ofNanos nanos).date.year := by
  show 0 ≤ ((Date.ofDays? (nanos / 1000000000 / 86400 : Nat)).getD Date.epoch).year
  cases found : Date.ofDays? (nanos / 1000000000 / 86400 : Nat) with
  | none => decide
  | some d => exact year_nonneg_of_ofDays? found

/-- What the clock shows can be stored and read back up to the year 9999. -/
theorem parseStrict?_ofNanos {nanos : Nat}
    (readable : (Timestamp.ofNanos nanos).date.year ≤ 9999) :
    parseStrict? (numeric (.ofNanos nanos)) = some (.ofNanos nanos) :=
  parseStrict?_numeric _ ⟨year_ofNanos_nonneg nanos, readable⟩

end Rfc3339
end DoubleEntry
