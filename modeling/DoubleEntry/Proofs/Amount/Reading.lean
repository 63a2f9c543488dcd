import Mathlib.Algebra.Order.Field.Rat
import Mathlib.Tactic.FieldSimp
import Mathlib.Tactic.Ring
import DoubleEntry.Amount.Text
import DoubleEntry.Proofs.Text.Blanks
import DoubleEntry.Proofs.Text.Numerals

/-!
# What is read as an amount

* `Denotes` — the grammar of amounts in major units: digits, possibly a point and at most two more
  digits, together with the number that they denote.
* `boundedParse` — reading in bounded arithmetic: the numbers are built up digit by digit, and every
  number on the way has to be an amount.
* `parse_exact` — **a text is read exactly if it is in the grammar and a hundred times its number is
  an amount, and then it is read as just that**.  The cause of a failure tells the two conditions
  apart.
-/

namespace DoubleEntry.Amount

open Text

/-! ## The grammar -/

/-- All characters are decimal digits. -/
def Digits (cs : List Char) : Prop :=
  ∀ c ∈ cs, c.isDigit = true

/-- A text in the grammar of amounts in major units, and the number that it denotes. -/
inductive Denotes : List Char → ℚ → Prop
  | whole {ds : List Char} (filled : ds ≠ []) (digits : Digits ds) : Denotes ds (digitsValue ds)
  | point {ds fs : List Char} (filled : ds ≠ []) (digits : Digits ds) (few : fs.length ≤ 2)
      (decimals : Digits fs) :
      Denotes (ds ++ '.' :: fs) (digitsValue ds + digitsValue fs / 10 ^ fs.length)

/-- On the two sides of the first point is what the grammar wants there. -/
structure Shaped (cs : List Char) : Prop where
  filled : (splitPoint cs).1 ≠ []
  digits : Digits (splitPoint cs).1
  few : (splitPoint cs).2.length ≤ 2
  decimals : Digits (splitPoint cs).2

/-- The minor units that are read off the two sides of the first point. -/
def minorOf (cs : List Char) : Nat :=
  digitsValue (splitPoint cs).1 * 100 + centsOf (splitPoint cs).2

variable {cs ds fs : List Char} {q : ℚ}

theorem Digits.no_point (digits : Digits ds) : ∀ c ∈ ds, decide (c ≠ '.') = true := by
  intro c mem
  refine decide_eq_true fun point => ?_
  cases (point ▸ digits c mem : ('.' : Char).isDigit = true)

/-- What begins with digits does not begin with a sign. -/
theorem Digits.unsigned {ds fs gs : List Char} (digits : Digits ds)
    (filled : ds ≠ []) : ds ++ gs ≠ '-' :: fs := by
  cases ds with
  | nil => exact absurd rfl filled
  | cons d ds =>
    intro same
    obtain rfl : d = '-' := (List.cons.inj same).1
    cases digits '-' List.mem_cons_self

theorem splitPoint_whole (digits : Digits ds) : splitPoint ds = (ds, []) := by
  have all := digits.no_point
  rw [splitPoint, List.takeWhile_eq_self_iff.2 all, List.dropWhile_eq_nil_iff.2 all]
  rfl

theorem splitPoint_point (digits : Digits ds) : splitPoint (ds ++ '.' :: fs) = (ds, fs) := by
  have all := digits.no_point
  rw [splitPoint, List.takeWhile_append_of_pos all, List.dropWhile_append_of_pos all]
  simp

/-- Nothing but the point is lost between its two sides. -/
theorem splitPoint_cases (cs : List Char) :
    splitPoint cs = (cs, []) ∨ cs = (splitPoint cs).1 ++ '.' :: (splitPoint cs).2 := by
  have whole : cs.takeWhile (· ≠ '.') ++ cs.dropWhile (· ≠ '.') = cs :=
    List.takeWhile_append_dropWhile
  have stops := List.head?_dropWhile_not (fun c : Char => decide (c ≠ '.')) cs
  cases rest : cs.dropWhile (· ≠ '.') with
  | nil =>
    rw [rest, List.append_nil] at whole
    exact .inl (by rw [splitPoint, rest, whole]; rfl)
  | cons c fs =>
    rw [rest] at whole stops
    obtain rfl : c = '.' := by simpa using stops
    exact .inr (by rw [splitPoint, rest]; exact whole.symm)

/-- Two decimals are a number of hundredths. -/
theorem centsOf_eq (few : fs.length ≤ 2) :
    (centsOf fs : ℚ) = digitsValue fs / 10 ^ fs.length * 100 := by
  have filled : centsOf fs = 10 ^ (2 - fs.length) * digitsValue fs := by
    rw [centsOf, digitsValue, Nat.ofDigitChars_append, Nat.ofDigitChars_replicate_zero]
    rfl
  have hundred : (10 : ℚ) ^ (2 - fs.length) * 10 ^ fs.length = 100 := by
    rw [← pow_add, Nat.sub_add_cancel few]
    norm_num
  rw [filled, Nat.cast_mul, Nat.cast_pow, ← hundred]
  field_simp
  push_cast
  ring

theorem shaped_of_split (split : splitPoint cs = (ds, fs)) (filled : ds ≠ []) (digits : Digits ds)
    (few : fs.length ≤ 2) (decimals : Digits fs) : Shaped cs := by
  constructor <;> rw [split] <;> assumption

theorem minorOf_of_split (split : splitPoint cs = (ds, fs)) (few : fs.length ≤ 2) :
    (digitsValue ds + digitsValue fs / 10 ^ fs.length : ℚ) * 100 = minorOf cs := by
  rw [minorOf, split, Nat.cast_add, centsOf_eq few]
  push_cast
  ring

/-- The number in the grammar is what is read off the two sides of the first point. -/
theorem denotes_iff : Denotes cs q ↔ Shaped cs ∧ q * 100 = minorOf cs := by
  constructor
  · rintro (⟨filled, digits⟩ | ⟨filled, digits, few, decimals⟩)
    · have split := splitPoint_whole digits
      have value := minorOf_of_split split (Nat.zero_le 2)
      exact ⟨shaped_of_split split filled digits (Nat.zero_le 2) nofun,
        by simpa [digitsValue] using value⟩
    · exact ⟨shaped_of_split (splitPoint_point digits) filled digits few decimals,
        minorOf_of_split (splitPoint_point digits) few⟩
  · rintro ⟨⟨filled, digits, few, decimals⟩, value⟩
    have number : q = digitsValue (splitPoint cs).1 +
        digitsValue (splitPoint cs).2 / 10 ^ (splitPoint cs).2.length :=
      mul_right_cancel₀ (by norm_num) (value.trans (minorOf_of_split rfl few).symm)
    rcases splitPoint_cases cs with split | split
    · rw [split] at filled digits number
      rw [number]
      simpa [digitsValue] using Denotes.whole filled digits
    · rw [number]
      nth_rewrite 1 [split]
      exact .point filled digits few decimals

/-- A text denotes one number at most. -/
theorem Denotes.unique {q' : ℚ} (denotes : Denotes cs q) (denotes' : Denotes cs q') : q = q' :=
  mul_right_cancel₀ (by norm_num)
    ((denotes_iff.1 denotes).2.trans (denotes_iff.1 denotes').2.symm)

/-- What holds of a hundred times the number in the grammar holds of what is read. -/
theorem exists_denotes_iff {p : ℚ → Prop} :
    (∃ q, Denotes cs q ∧ p (q * 100)) ↔ Shaped cs ∧ p (minorOf cs) := by
  constructor
  · rintro ⟨q, denotes, holds⟩
    obtain ⟨shaped, value⟩ := denotes_iff.1 denotes
    exact ⟨shaped, value ▸ holds⟩
  · rintro ⟨shaped, holds⟩
    have value : (minorOf cs / 100 : ℚ) * 100 = minorOf cs := div_mul_cancel₀ _ (by norm_num)
    exact ⟨_, denotes_iff.2 ⟨shaped, value⟩, by rwa [value]⟩

/-! ## Reading -/

/-- The two tests that `parse` makes are those of the grammar. -/
theorem shaped_iff : Shaped cs ↔
    ((splitPoint cs).1.isEmpty || !(splitPoint cs).1.all Char.isDigit) = false ∧
      (decide (2 < (splitPoint cs).2.length) || !(splitPoint cs).2.all Char.isDigit) = false := by
  simp only [Bool.or_eq_false_iff, List.isEmpty_eq_false_iff, Bool.not_eq_false', List.all_eq_true,
    decide_eq_false_iff_not, Nat.not_lt]
  exact ⟨fun ⟨filled, digits, few, decimals⟩ => ⟨⟨filled, digits⟩, few, decimals⟩,
    fun ⟨⟨filled, digits⟩, few, decimals⟩ => ⟨filled, digits, few, decimals⟩⟩

variable {input : String}

theorem parse_of_shaped (shaped : Shaped (trim input.toList)) :
    parse input = if (minorOf (trim input.toList) : Int) ≤ greatest
      then .ok (minorOf (trim input.toList))
      else .error (.tooLarge (.ofList (trim input.toList))) := by
  obtain ⟨whole, rest⟩ := shaped_iff.1 shaped
  have minor : (digitsValue (splitPoint (trim input.toList)).1 * 100 +
      centsOf (splitPoint (trim input.toList)).2 : Int) = minorOf (trim input.toList) := by
    simp only [minorOf, Int.natCast_add, Int.natCast_mul]
    rfl
  simp only [parse, whole, rest, minor, Bool.false_eq_true, if_false]
  by_cases fits : (minorOf (trim input.toList) : Int) ≤ greatest
  · rw [fit?, if_pos ⟨Int.le_trans (by decide) (Int.natCast_nonneg _), fits⟩, if_pos fits]
  · rw [fit?, if_neg fun range => fits range.2, if_neg fits]

theorem parse_of_not_shaped (unshaped : ¬ Shaped (trim input.toList)) :
    parse input = .error (.notANumber (.ofList (trim input.toList))) ∨
      parse input = .error (.badDecimals (.ofList (trim input.toList))) := by
  simp only [parse]
  split
  · exact .inl rfl
  · rename_i whole
    split
    · exact .inr rfl
    · rename_i rest
      exact absurd (shaped_iff.2 ⟨by simpa using whole, by simpa using rest⟩) unshaped

/-! ## Bounded arithmetic -/

/-- A check on the way to a number that is no smaller is superfluous. -/
theorem fit?_bind {a b : Int} {f : Int → Option Int} (pos : 0 ≤ a) (grows : a ≤ b)
    (after : InRange a → f a = fit? b) : (fit? a).bind f = fit? b := by
  by_cases fits : InRange a
  · rw [fit?, if_pos fits]
    exact after fits
  · have beyond : ¬ InRange b := fun ⟨_, high⟩ =>
      fits ⟨Int.le_trans (by decide) pos, Int.le_trans grows high⟩
    rw [fit?, fit?, if_neg fits, if_neg beyond]
    rfl

/-- Put a digit behind a number, if the number ten times as large and the outcome are amounts. -/
def withDigit? (n : Int) (c : Char) : Option Int :=
  (fit? (n * 10)).bind fun tens => fit? (tens + (c.toNat - '0'.toNat : Nat))

/-- The number that digits denote, built up digit by digit. -/
def boundedValue? (ds : List Char) : Option Int :=
  ds.foldlM withDigit? 0

/-- So many hundreds and cents, if each number on the way is an amount. -/
def boundedMinor? (whole : List Char) (cents : Int) : Option Int :=
  (boundedValue? whole).bind fun units =>
    (fit? (units * 100)).bind fun hundreds => fit? (hundreds + cents)

/-- `parse` in bounded arithmetic, with decimals that are counted in bytes.  There is no outcome if
the decimals are no amount. -/
def boundedParse (input : String) : Option (Except TextError Int) :=
  let cs := trim input.toList
  let text := String.ofList cs
  let (whole, decimals) := splitPoint cs
  if whole.isEmpty || !whole.all Char.isDigit then some (.error (.notANumber text))
  else if 2 < (decimals.map Char.utf8Size).sum || !decimals.all Char.isDigit then
    some (.error (.badDecimals text))
  else (boundedValue? (decimals ++ List.replicate (2 - decimals.length) '0')).map fun cents =>
    match boundedMinor? whole cents with
    | some minor => .ok minor
    | none => .error (.tooLarge text)

theorem withDigit?_eq (n : Nat) (c : Char) :
    withDigit? n c = fit? (10 * n + (c.toNat - '0'.toNat) : Nat) := by
  refine fit?_bind (by omega) (by omega) fun _ => ?_
  congr 1
  omega

/-- Digits put behind an amount give what they denote there, if that is an amount. -/
theorem foldlM_withDigit? (ds : List Char) (n : Nat) (fits : InRange n) :
    ds.foldlM withDigit? (n : Int) = fit? (Nat.ofDigitChars 10 ds n) := by
  induction ds generalizing n with
  | nil => exact (if_pos fits).symm
  | cons c ds ih =>
    have first : (c :: ds).foldlM withDigit? (n : Int) =
        (withDigit? n c).bind (ds.foldlM withDigit?) := rfl
    rw [first, withDigit?_eq, Nat.ofDigitChars_cons]
    exact fit?_bind (by omega) (Int.ofNat_le.2 (le_ofDigitChars ds _)) (ih _)

theorem boundedValue?_eq (ds : List Char) : boundedValue? ds = fit? (digitsValue ds) :=
  foldlM_withDigit? ds 0 (by decide)

theorem boundedMinor?_eq (whole : List Char) (cents : Nat) :
    boundedMinor? whole cents = fit? (digitsValue whole * 100 + cents : Nat) := by
  rw [boundedMinor?, boundedValue?_eq]
  refine fit?_bind (by omega) (by omega) fun _ => fit?_bind (by omega) (by omega) fun _ => ?_
  congr 1

/-- Digits have one byte each, so it does not matter in what decimals are counted. -/
theorem long_in_bytes (cs : List Char) :
    (decide (2 < (cs.map Char.utf8Size).sum) || !cs.all Char.isDigit) =
      (decide (2 < cs.length) || !cs.all Char.isDigit) := by
  cases digits : cs.all Char.isDigit with
  | false => simp
  | true =>
    have single : cs.map Char.utf8Size = cs.map fun _ => 1 := by
      refine List.map_congr_left fun c mem => ?_
      have digit := (Char.isDigit_iff_toNat.1 (List.all_eq_true.1 digits c mem)).2
      exact Char.utf8Size_eq_one_iff.2 (UInt32.le_iff_toNat_le.2 (Nat.le_trans digit (by decide)))
    simp [single]

theorem boundedValue?_decimals (shaped : Shaped cs) :
    boundedValue? ((splitPoint cs).2 ++ List.replicate (2 - (splitPoint cs).2.length) '0') =
      some (centsOf (splitPoint cs).2 : Int) := by
  have few := shaped.few
  have digits :
      Digits ((splitPoint cs).2 ++ List.replicate (2 - (splitPoint cs).2.length) '0') := by
    intro c mem
    rcases List.mem_append.1 mem with decimal | zero
    · exact shaped.decimals c decimal
    · rw [List.eq_of_mem_replicate zero]
      rfl
  have small : centsOf (splitPoint cs).2 < 10 ^ 2 := by
    have filled := digitsValue_lt digits
    rwa [List.length_append, List.length_replicate, Nat.add_sub_of_le few] at filled
  rw [boundedValue?_eq]
  exact if_pos ⟨Int.le_trans (by decide) (Int.natCast_nonneg _),
    Int.le_trans (Int.ofNat_le.2 (Nat.le_of_lt small)) (by decide)⟩

/-- In bounded arithmetic there is always an outcome, and the same one. -/
theorem boundedParse_eq (input : String) : boundedParse input = some (parse input) := by
  simp only [boundedParse, parse, long_in_bytes]
  split
  · rfl
  · rename_i whole
    split
    · rfl
    · rename_i rest
      have shaped := shaped_iff.2 ⟨by simpa using whole, by simpa using rest⟩
      rw [boundedValue?_decimals shaped, Option.map_some, boundedMinor?_eq]
      rfl

/-! ## What is read -/

theorem parse_eq_ok (trimmed : trim input.toList = cs) {m : Int} :
    parse input = .ok m ↔ Shaped cs ∧ (minorOf cs : Int) = m ∧ m ≤ greatest := by
  subst trimmed
  by_cases shaped : Shaped (trim input.toList)
  · rw [parse_of_shaped shaped]
    split
    · rename_i fits
      refine ⟨fun read => ?_, fun ⟨_, value, _⟩ => congrArg _ value⟩
      cases read
      exact ⟨shaped, rfl, fits⟩
    · rename_i large
      exact ⟨nofun, fun ⟨_, value, fits⟩ => absurd (value ▸ fits) large⟩
  · obtain refused | refused := parse_of_not_shaped shaped <;> simp [refused, shaped]

theorem parse_eq_tooLarge (trimmed : trim input.toList = cs) :
    parse input = .error (.tooLarge (.ofList cs)) ↔ Shaped cs ∧ greatest < minorOf cs := by
  subst trimmed
  by_cases shaped : Shaped (trim input.toList)
  · rw [parse_of_shaped shaped]
    split
    · rename_i fits
      exact ⟨nofun, fun ⟨_, large⟩ => absurd fits (Int.not_le.2 large)⟩
    · rename_i large
      exact ⟨fun _ => ⟨shaped, Int.not_le.1 large⟩, fun _ => rfl⟩
  · obtain refused | refused := parse_of_not_shaped shaped <;> simp [refused, shaped]

theorem parse_eq_malformed (trimmed : trim input.toList = cs) :
    parse input = .error (.notANumber (.ofList cs)) ∨
      parse input = .error (.badDecimals (.ofList cs)) ↔ ¬ Shaped cs := by
  subst trimmed
  refine ⟨fun refused shaped => ?_, parse_of_not_shaped⟩
  rw [parse_of_shaped shaped] at refused
  split at refused <;> simp at refused

/-- **What is read as an amount, and what is not.**  Without the blanks around it, a text is read if
and only if it is in the grammar and a hundred times its number is an amount; that is what is read.
A number that is too large is refused as such, and any other text for its form.  Bounded arithmetic
makes no difference. -/
theorem parse_exact (input : String) : ∃ cs, Core input.toList cs ∧
    (∀ m, parse input = .ok m ↔ ∃ q, Denotes cs q ∧ q * 100 = m ∧ m ≤ greatest) ∧
    (parse input = .error (.tooLarge (.ofList cs)) ↔ ∃ q, Denotes cs q ∧ greatest < q * 100) ∧
    (parse input = .error (.notANumber (.ofList cs)) ∨
      parse input = .error (.badDecimals (.ofList cs)) ↔ ∀ q, ¬ Denotes cs q) ∧
    boundedParse input = some (parse input) := by
  obtain ⟨cs, trimmed⟩ : ∃ cs, trim input.toList = cs := ⟨_, rfl⟩
  refine ⟨cs, trim_eq_iff.1 trimmed, fun m => ?_, ?_, ?_, boundedParse_eq input⟩
  · rw [parse_eq_ok trimmed, exists_denotes_iff (p := fun x => x = m ∧ m ≤ greatest)]
    norm_cast
  · rw [parse_eq_tooLarge trimmed, exists_denotes_iff (p := fun x => greatest < x)]
    norm_cast
  · have denotes : (∃ q, Denotes cs q) ↔ Shaped cs := by
      simpa using @exists_denotes_iff cs fun _ => True
    rw [parse_eq_malformed trimmed, ← not_exists, denotes]

/-- The greatest amount can be given, with zeros in front and between blanks, and one cent more
cannot. -/
example : parse "\u2003 0092233720368547758.07\n" = .ok greatest ∧
    parse "92233720368547758.08" = .error (.tooLarge "92233720368547758.08") := by
  decide +kernel

end DoubleEntry.Amount
