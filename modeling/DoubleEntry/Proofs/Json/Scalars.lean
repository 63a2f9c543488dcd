import DoubleEntry.Json.Document
import DoubleEntry.Json.Printer
import DoubleEntry.Proofs.Text.Numerals

/-!
# Scalars read back

The text of a literal, a number or a string is outlined as what it was written for, whatever follows
it: `readLiteral_append`, `readNumber_natText` and `readString_escaped`.  A number must not be
followed by what could be a part of it (`EndsNumber`).
-/

namespace DoubleEntry

namespace Json

open Text

variable {rest : List Char}

/-! ## Literals -/

theorem readLiteral_append (first : Char) (value : Doc) (cs : List Char) :
    readLiteral first value cs (cs ++ rest) = (value, rest) := by
  induction cs with
  | nil => rw [List.nil_append, readLiteral]
  | cons c cs ih => rw [List.cons_append, readLiteral, if_pos rfl, ih]

/-! ## Numbers -/

/-- What follows cannot be a part of a number. -/
def EndsNumber (rest : List Char) : Prop :=
  ∀ c ∈ rest.head?, c.isDigit = false ∧ c ≠ '.' ∧ c ≠ 'e' ∧ c ≠ 'E'

/-- Digits of a number that 64 bits hold are all read. -/
theorem absorb_eq {ds : List Char} {s : Nat}
    (fits : Nat.ofDigitChars 10 ds s ≤ NumberText.greatestWord) :
    NumberText.absorb s ds = (Nat.ofDigitChars 10 ds s, []) := by
  induction ds generalizing s with
  | nil => rfl
  | cons d ds ih =>
    rw [Nat.ofDigitChars_cons] at fits ⊢
    have next : s * 10 + (d.toNat - 48) = 10 * s + (d.toNat - '0'.toNat) := by
      rw [Nat.mul_comm]
      rfl
    have small := Nat.le_trans (le_ofDigitChars ds _) fits
    rw [NumberText.absorb]
    simp only [next, if_pos small]
    exact ih fits

/-- The integers that are written without loss. -/
def IsExact (n : Int) : Prop :=
  -9223372036854775808 ≤ n ∧ n ≤ 18446744073709551615

instance (n : Int) : Decidable (IsExact n) :=
  inferInstanceAs (Decidable (_ ∧ _))

/-- The parts of an exact integer denote it. -/
theorem value_natText {n : Int} (exact : IsExact n) :
    NumberText.value ⟨decide (n < 0), natText n.natAbs, none, none⟩ = .int n := by
  obtain ⟨low, high⟩ := exact
  have word : Nat.ofDigitChars 10 (natText n.natAbs) 0 = n.natAbs := digitsValue_natText _
  have absorbed : NumberText.absorb 0 (natText n.natAbs) = (n.natAbs, []) := by
    rw [absorb_eq, word]
    rw [word, NumberText.greatestWord]
    omega
  simp only [NumberText.value, NumberText.scaledSignificand, absorbed]
  obtain ⟨m, size⟩ : ∃ m, n.natAbs = m := ⟨_, rfl⟩
  rw [size]
  by_cases below : n < 0
  · have bounds : 1 ≤ m ∧ m ≤ 9223372036854775808 := by omega
    have same : -(m : Int) = n := by omega
    simp [below, bounds, same]
  · have same : (m : Int) = n := by omega
    simp [below, same]

/-- Digits are read as a number. -/
theorem readNumber_natText (negative : Bool) (n : Nat) (ends : EndsNumber rest) :
    readNumber negative (natText n ++ rest) =
      (.num (NumberText.value ⟨negative, natText n, none, none⟩), rest) := by
  have digits (c : Char) (mem : c ∈ natText n) : c.isDigit = true := isDigit_of_mem_natText mem
  have stops : rest.takeWhile Char.isDigit = [] ∧ rest.dropWhile Char.isDigit = rest := by
    cases rest with
    | nil => exact ⟨rfl, rfl⟩
    | cons c rest => simp [(ends c rfl).1]
  have taken : (natText n ++ rest).takeWhile Char.isDigit = natText n := by
    rw [List.takeWhile_append_of_pos digits, stops.1, List.append_nil]
  have left : (natText n ++ rest).dropWhile Char.isDigit = rest := by
    rw [List.dropWhile_append_of_pos digits, stops.2]
  have done : readDecimals ⟨negative, natText n, none, none⟩ rest =
      (.num (NumberText.value ⟨negative, natText n, none, none⟩), rest) := by
    cases rest with
    | nil => rfl
    | cons c rest =>
      obtain ⟨-, point, small, capital⟩ := ends c rfl
      simp [readDecimals, readExponent, point, small, capital]
  unfold readNumber
  simp only [taken, left]
  split
  · rename_i none
    exact absurd none (natText_ne_nil n)
  · rename_i first more zero
    have zero' : n = 0 := natText_head n (by rw [zero]; rfl)
    rw [zero', natText_zero] at zero
    cases zero
  · exact done

/-! ## Strings -/

theorem hexValue?_hexDigit {n : Nat} (small : n < 16) : hexValue? (hexDigit n) = some n := by
  have all : ∀ m : Fin 16, hexValue? (hexDigit m) = some m.val := by decide
  exact all ⟨n, small⟩

/-- An escape of a control character is read as that character. -/
theorem readCodePoint_hexDigits {n : Nat} (control : n < 0x20) :
    readCodePoint ('0' :: '0' :: hexDigit (n / 16) :: hexDigit (n % 16) :: rest) =
      .ok (some (Char.ofNat n), rest) := by
  have sizes : ∀ m : Fin 32, ¬ (String.ofList
      ['0', '0', hexDigit (m.val / 16), hexDigit (m.val % 16)]).utf8ByteSize < 4 := by
    decide
  have digits : fourDigits? '0' '0' (hexDigit (n / 16)) (hexDigit (n % 16)) = some n := by
    simp only [fourDigits?, hexValue?_hexDigit (show n / 16 < 16 by omega),
      hexValue?_hexDigit (show n % 16 < 16 by omega), show hexValue? '0' = some 0 from rfl]
    exact congrArg some (by omega)
  have unit : readUnit ('0' :: '0' :: hexDigit (n / 16) :: hexDigit (n % 16) :: rest) =
      .ok (n, rest) := by
    have complete : ¬ (String.ofList (List.take 4
        ('0' :: '0' :: hexDigit (n / 16) :: hexDigit (n % 16) :: rest))).utf8ByteSize < 4 :=
      sizes ⟨n, control⟩
    unfold readUnit
    rw [if_neg complete]
    simp only [digits]
  have whole : isLowHalf n = false ∧ isHighHalf n = false := by
    simp [isLowHalf, isHighHalf]
    omega
  unfold readCodePoint
  rw [unit]
  simp [bind, Except.bind, whole.1, whole.2, pure, Except.pure]

/-- A character is read as it was written. -/
theorem readString_escaped_cons (c : Char) (fuel : Nat) (content : List Char) (cs : List Char) :
    readString (fuel + 1) (some content) (escaped c ++ cs) =
      readString fuel (some (c :: content)) cs := by
  unfold escaped
  by_cases quote : c = '"'
  · subst quote; rfl
  by_cases backslash : c = '\\'
  · subst backslash; rfl
  by_cases backspace : c = '\x08'
  · subst backspace; rfl
  by_cases feed : c = '\x0c'
  · subst feed; rfl
  by_cases line : c = '\n'
  · subst line; rfl
  by_cases carriage : c = '\r'
  · subst carriage; rfl
  by_cases tab : c = '\t'
  · subst tab; rfl
  simp only [beq_iff_eq, quote, backslash, backspace, feed, line, carriage, tab, if_false]
  by_cases control : c.toNat < 0x20
  · simp only [control, if_true, List.cons_append, List.nil_append]
    rw [readString]
    simp [readCodePoint_hexDigits control]
  · simp [control, readString, backslash]

theorem readString_escaped (s : List Char) (fuel : Nat) (enough : s.length < fuel)
    (content : List Char) : readString fuel (some content) (s.flatMap escaped ++ '"' :: rest) =
      (.str (some (String.ofList (content.reverse ++ s))), rest) := by
  induction s generalizing fuel content with
  | nil =>
    obtain ⟨fuel, rfl⟩ := Nat.exists_eq_add_one.2 (Nat.zero_lt_of_lt enough)
    simp [readString]
  | cons c s ih =>
    obtain ⟨fuel, rfl⟩ := Nat.exists_eq_add_one.2 (Nat.zero_lt_of_lt enough)
    rw [List.flatMap_cons, List.append_assoc, readString_escaped_cons,
      ih fuel (Nat.lt_of_succ_lt_succ enough)]
    simp

end Json
end DoubleEntry
