import DoubleEntry.Proofs.Amount.Reading

/-!
# Amounts written and read back

* `Layout` — the parts of an amount as it is written: a sign, digits, a point, two more digits, a
  blank and the code of the currency.  `Layout.text_injective` says that the parts can be told from
  the text.
* `format_reversible` — **writing and reading are inverse**: a written amount has exactly one
  layout, which gives the amount and its currency, and the part before the currency is read back if
  the amount is one that can be given.
-/

namespace DoubleEntry.Amount

open Text

/-! ## The parts of a written amount -/

/-- The parts of an amount as text. -/
structure Layout where
  negative : Bool
  whole : List Char
  cents : List Char
  currency : Currency

namespace Layout

/-- The sign. -/
def sign (l : Layout) : List Char :=
  if l.negative then ['-'] else []

/-- The parts put together. -/
def text (l : Layout) : List Char :=
  l.sign ++ l.whole ++ '.' :: l.cents ++ ' ' :: l.currency.code.toList

/-- The minor units that the parts denote. -/
def amount (l : Layout) : Int :=
  (if l.negative then -1 else 1) * (100 * digitsValue l.whole + digitsValue l.cents)

/-- The parts are what they should be: digits without a superfluous zero in front, then two digits,
and a sign only below zero. -/
structure Proper (l : Layout) : Prop where
  filled : l.whole ≠ []
  digits : Digits l.whole
  plain : l.whole.head? = some '0' → l.whole = ['0']
  two : l.cents.length = 2
  decimals : Digits l.cents
  signed : l.negative = true → l.amount < 0

/-- The parts of an amount. -/
def of (m : Int) (c : Currency) : Layout :=
  ⟨decide (m < 0), natText (m.natAbs / 100), zeroPadded 2 (m.natAbs % 100), c⟩

variable {l l' : Layout}

theorem text_of (m : Int) (c : Currency) : (of m c).text = (format m c).toList := by
  simp [of, text, sign, format, majorText]

theorem amount_of (m : Int) (c : Currency) : (of m c).amount = m := by
  have parts := Nat.div_add_mod m.natAbs 100
  simp only [of, amount, digitsValue_natText, digitsValue_zeroPadded, decide_eq_true_eq]
  split <;> omega

theorem proper_of (m : Int) (c : Currency) : (of m c).Proper where
  filled := natText_ne_nil _
  digits _ := isDigit_of_mem_natText
  plain zero := by
    have small := natText_head _ zero
    simp only [of, small]
    rfl
  two := length_zeroPadded (by decide) (Nat.mod_lt _ (by decide))
  decimals _ := isDigit_of_mem_zeroPadded
  signed negative := by
    rw [amount_of]
    exact of_decide_eq_true negative

/-- The parts can be told from the text. -/
theorem text_injective (proper : l.Proper) (proper' : l'.Proper) (same : l.text = l'.text) :
    l = l' := by
  obtain ⟨negative, whole, cents, currency⟩ := l
  obtain ⟨negative', whole', cents', currency'⟩ := l'
  simp only [text, sign, List.append_assoc, List.cons_append] at same
  have sameSign : negative = negative' := by
    cases negative <;> cases negative'
    · rfl
    · exact absurd same (proper.digits.unsigned proper.filled)
    · exact absurd same.symm (proper'.digits.unsigned proper'.filled)
    · rfl
  subst sameSign
  -- The whole part ends at the first point, and two digits after it comes the currency.
  have split := congrArg splitPoint (List.append_cancel_left same)
  rw [splitPoint_point proper.digits, splitPoint_point proper'.digits, Prod.mk.injEq] at split
  obtain ⟨sameCents, code⟩ := List.append_inj split.2 (proper.two.trans proper'.two.symm)
  have sameCode := String.toList_inj.1 (List.cons.inj code).2
  rw [Layout.mk.injEq]
  exact ⟨rfl, split.1, sameCents, Currency.code_injective _ _ sameCode⟩

end Layout

/-! ## The number without its currency -/

variable {m : Int}

/-- A written number has no blanks. -/
theorem trim_majorText (m : Int) : trim (majorText m) = majorText m := by
  refine trim_eq_self fun c mem => ?_
  simp only [majorText, List.mem_append, List.mem_cons] at mem
  obtain (sign | whole) | rfl | cents := mem
  · split at sign
    · obtain rfl := List.mem_singleton.1 sign
      rfl
    · cases sign
  · exact isBlank_of_isDigit (isDigit_of_mem_natText whole)
  · rfl
  · exact isBlank_of_isDigit (isDigit_of_mem_zeroPadded cents)

theorem centsOf_zeroPadded {n : Nat} (fits : n < 10 ^ 2) : centsOf (zeroPadded 2 n) = n := by
  rw [centsOf, length_zeroPadded (by decide) fits, Nat.sub_self, List.replicate_zero,
    List.append_nil, digitsValue_zeroPadded]

/-- A number that is not below zero is written in the grammar, and denotes itself. -/
theorem shaped_majorText (pos : 0 ≤ m) : Shaped (majorText m) ∧ minorOf (majorText m) = m := by
  have fits : m.natAbs % 100 < 10 ^ 2 := Nat.mod_lt _ (by decide)
  have whole : Digits (natText (m.natAbs / 100)) := fun _ => isDigit_of_mem_natText
  have split : splitPoint (majorText m) =
      (natText (m.natAbs / 100), zeroPadded 2 (m.natAbs % 100)) := by
    rw [majorText, if_neg (Int.not_lt.2 pos)]
    exact splitPoint_point whole
  constructor
  · exact shaped_of_split split (natText_ne_nil _) whole
      (Nat.le_of_eq (length_zeroPadded (by decide) fits)) fun _ => isDigit_of_mem_zeroPadded
  · rw [minorOf, split, digitsValue_natText, centsOf_zeroPadded fits]
    omega

theorem trim_number (m : Int) : trim (String.ofList (majorText m)).toList = majorText m := by
  rw [String.toList_ofList, trim_majorText]

theorem parse_majorText (pos : 0 ≤ m) (fits : m ≤ greatest) :
    parse (.ofList (majorText m)) = .ok m := by
  obtain ⟨shaped, value⟩ := shaped_majorText pos
  exact (parse_eq_ok (trim_number m)).2 ⟨shaped, value, fits⟩

theorem parse_majorText_of_large (large : greatest < m) :
    parse (.ofList (majorText m)) = .error (.tooLarge (.ofList (majorText m))) := by
  obtain ⟨shaped, value⟩ := shaped_majorText (Int.le_trans (by decide) (Int.le_of_lt large))
  exact (parse_eq_tooLarge (trim_number m)).2 ⟨shaped, value.symm ▸ large⟩

/-- The sign is no digit. -/
theorem parse_majorText_of_neg (below : m < 0) :
    parse (.ofList (majorText m)) = .error (.notANumber (.ofList (majorText m))) := by
  have sign : ∃ cs, majorText m = '-' :: cs := ⟨_, by rw [majorText, if_pos below]; rfl⟩
  obtain ⟨cs, written⟩ := sign
  have trimmed := trim_majorText m
  have minus : ('-' : Char).isDigit = false := rfl
  rw [written] at trimmed ⊢
  simp [parse, trimmed, splitPoint, minus]

/-- What is read is not below zero. -/
theorem bounds_of_parse {s : String} (read : parse s = .ok m) : 0 ≤ m ∧ m ≤ greatest := by
  obtain ⟨-, rfl, fits⟩ := (parse_eq_ok rfl).1 read
  exact ⟨Int.natCast_nonneg _, fits⟩

theorem format_eq (m : Int) (c : Currency) :
    format m c = .ofList (majorText m) ++ " " ++ c.code :=
  String.toList_inj.1 (by simp [format])

/-- **Writing and reading are inverse.**  A written amount has one layout, from which the amount and
its currency are told; without its currency it is read back if it is neither negative nor too large;
and what is read stays the same when it is written and read again. -/
theorem format_reversible :
    (∀ m c, ∃ l : Layout, l.Proper ∧ (format m c).toList = l.text ∧ l.amount = m ∧
      l.currency = c ∧ ∀ l' : Layout, l'.Proper → (format m c).toList = l'.text → l' = l) ∧
    (∀ m m' c c', format m c = format m' c' → m = m' ∧ c = c') ∧
    (∀ m c, ∃ number, format m c = number ++ " " ++ c.code ∧
      (0 ≤ m → m ≤ greatest → parse number = .ok m) ∧
      (m < 0 → parse number = .error (.notANumber number)) ∧
      (greatest < m → parse number = .error (.tooLarge number))) ∧
    (∀ s m c, parse s = .ok m → ∃ number, format m c = number ++ " " ++ c.code ∧
      parse number = .ok m) := by
  refine ⟨fun m c => ?_, fun m m' c c' same => ?_, fun m c => ?_, fun s m c read => ?_⟩
  · refine ⟨.of m c, Layout.proper_of m c, (Layout.text_of m c).symm, Layout.amount_of m c, rfl,
      fun l' proper written => ?_⟩
    exact Layout.text_injective proper (Layout.proper_of m c)
      (written.symm.trans (Layout.text_of m c).symm)
  · have parts : Layout.of m c = .of m' c' :=
      Layout.text_injective (Layout.proper_of m c) (Layout.proper_of m' c') (by
        rw [Layout.text_of, Layout.text_of, same])
    refine ⟨?_, congrArg Layout.currency parts⟩
    rw [← Layout.amount_of m c, parts, Layout.amount_of]
  · exact ⟨_, format_eq m c, parse_majorText, parse_majorText_of_neg, parse_majorText_of_large⟩
  · obtain ⟨pos, fits⟩ := bounds_of_parse read
    exact ⟨_, format_eq m c, parse_majorText pos fits⟩

/-- Totals may lie far outside the range of amounts. -/
example : format (-170141183460469231731687303715884105728) .cad =
    "-1701411834604692317316873037158841057.28 CAD" := by
  decide +kernel

end DoubleEntry.Amount
