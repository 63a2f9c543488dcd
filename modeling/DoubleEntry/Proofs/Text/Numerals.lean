import Mathlib.Algebra.Group.Nat.Defs
import DoubleEntry.Text.Decimal

/-!
# Decimal numerals and the numbers they denote

What is written for a number — its digits, with or without zeros in front — and what digits denote.

* `natText_head`: only zero is written with a zero in front.
* `length_zeroPadded` and `digitsValue_zeroPadded`: a padded numeral has its width and its number.
* `digitsValue_append`: the value of digits after other digits.
* `readBelow?_eq_some`: which texts are read as a number below a bound.
-/

namespace DoubleEntry.Text

variable {width n : Nat}

/-! ## What is written -/

theorem natText_ne_nil (n : Nat) : natText n ≠ [] := Nat.toDigits_ne_nil

/-- Only zero is written with a zero in front. -/
theorem natText_head (n : Nat) : (natText n).head? = some '0' → n = 0 := by
  induction n using Nat.strongRecOn with
  | ind n ih =>
    intro zero
    by_cases small : n < 10
    · rw [natText, Nat.toDigits_of_lt_base small] at zero
      simpa using zero
    · have front : natText n = natText (n / 10) ++ [(n % 10).digitChar] :=
        Nat.toDigits_of_base_le (by decide) (Nat.not_lt.1 small)
      rw [front, List.head?_append, List.head?_eq_some_head (natText_ne_nil _),
        Option.some_or, ← List.head?_eq_some_head] at zero
      have less := ih (n / 10) (by omega) zero
      omega

theorem natText_zero : natText 0 = ['0'] := rfl

theorem length_zeroPadded (pos : 0 < width) (fits : n < 10 ^ width) :
    (zeroPadded width n).length = width := by
  have short : (natText n).length ≤ width := (Nat.length_toDigits_le_iff (by decide) pos).2 fits
  rw [zeroPadded, List.length_append, List.length_replicate]
  omega

theorem isDigit_of_mem_zeroPadded {c : Char} (mem : c ∈ zeroPadded width n) :
    c.isDigit = true := by
  rcases List.mem_append.1 mem with zero | digit
  · rw [List.eq_of_mem_replicate zero]
    rfl
  · exact isDigit_of_mem_natText digit

/-! ## What digits denote -/

theorem digitsValue_zeroPadded (width n : Nat) : digitsValue (zeroPadded width n) = n := by
  rw [zeroPadded, digitsValue, Nat.ofDigitChars_append, Nat.ofDigitChars_replicate_zero,
    Nat.mul_zero]
  exact digitsValue_natText n

theorem digitsValue_append (ds es : List Char) :
    digitsValue (ds ++ es) = 10 ^ es.length * digitsValue ds + digitsValue es := by
  rw [digitsValue, Nat.ofDigitChars_append, Nat.ofDigitChars_eq_ofDigitChars_zero]
  rfl

theorem digitsValue_lt {ds : List Char} (digits : ∀ c ∈ ds, c.isDigit = true) :
    digitsValue ds < 10 ^ ds.length := by
  induction ds with
  | nil => exact Nat.one_pos
  | cons c ds ih =>
    have digit : c.toNat ≤ 57 := (Char.isDigit_iff_toNat.1 (digits c List.mem_cons_self)).2
    have first : digitsValue [c] ≤ 9 := by
      simp only [digitsValue, Nat.ofDigitChars_cons, Nat.ofDigitChars_nil,
        show '0'.toNat = 48 from rfl]
      omega
    have rest := ih fun d mem => digits d (List.mem_cons_of_mem c mem)
    calc digitsValue (c :: ds) = 10 ^ ds.length * digitsValue [c] + digitsValue ds :=
          digitsValue_append [c] ds
      _ < 10 ^ ds.length * 9 + 10 ^ ds.length :=
          Nat.add_lt_add_of_le_of_lt (Nat.mul_le_mul_left _ first) rest
      _ = 10 ^ (c :: ds).length := by rw [List.length_cons, Nat.pow_succ, ← Nat.mul_succ]

theorem readDigits?_eq_some {ds : List Char} :
    readDigits? ds = some n ↔ ds ≠ [] ∧ (∀ c ∈ ds, c.isDigit = true) ∧ digitsValue ds = n := by
  unfold readDigits?
  by_cases filled : ds = []
  · simp [filled]
  · by_cases digits : ∀ c ∈ ds, c.isDigit = true
    · simp only [List.isEmpty_eq_false_iff.2 filled, List.all_eq_true.2 digits, Bool.not_true,
        Bool.or_self, Bool.false_eq_true, if_false, Option.some.injEq]
      exact ⟨fun value => ⟨filled, digits, value⟩, fun read => read.2.2⟩
    · have other : ds.all Char.isDigit = false := by simpa using digits
      simp only [other, Bool.not_false, Bool.or_true, if_true, reduceCtorEq, false_iff]
      exact fun read => digits read.2.1

/-- Digits, or a plus sign and digits, are read as their number if it is below the bound. -/
theorem readBelow?_eq_some {bound : Nat} {cs : List Char} :
    readBelow? bound cs = some n ↔ ∃ ds, (cs = ds ∨ cs = '+' :: ds) ∧ ds ≠ [] ∧
      (∀ c ∈ ds, c.isDigit = true) ∧ digitsValue ds = n ∧ n < bound := by
  have unsigned {ds : List Char} (digits : ∀ c ∈ ds, c.isDigit = true) (rest : List Char) :
      ds ≠ '+' :: rest := by
    rintro rfl
    cases digits '+' List.mem_cons_self
  unfold readBelow?
  simp only [Option.filter_eq_some_iff, readDigits?_eq_some, decide_eq_true_eq]
  split
  · rename_i rest
    constructor
    · rintro ⟨⟨filled, digits, value⟩, below⟩
      exact ⟨rest, .inr rfl, filled, digits, value, below⟩
    · rintro ⟨ds, rfl | same, filled, digits, value, below⟩
      · exact absurd rfl (unsigned digits rest)
      · cases same
        exact ⟨⟨filled, digits, value⟩, below⟩
  · rename_i signless
    constructor
    · rintro ⟨⟨filled, digits, value⟩, below⟩
      exact ⟨cs, .inl rfl, filled, digits, value, below⟩
    · rintro ⟨ds, rfl | rfl, filled, digits, value, below⟩
      · exact ⟨⟨filled, digits, value⟩, below⟩
      · exact absurd rfl (signless ds)

theorem le_ofDigitChars (ds : List Char) (s : Nat) : s ≤ Nat.ofDigitChars 10 ds s := by
  induction ds generalizing s with
  | nil => simp
  | cons d ds ih =>
    rw [Nat.ofDigitChars_cons]
    exact Nat.le_trans (by omega) (ih _)

end DoubleEntry.Text
