import DoubleEntry.Currency.Reader
import DoubleEntry.Proofs.Outcomes
import DoubleEntry.Proofs.Text.Blanks
import DoubleEntry.Proofs.Text.Uppercase
import DoubleEntry.Store.Relational

/-!
# Which texts name a currency

* `Currency.Spells` — a text is the code of a currency between blanks, in letters of either case.
* `Currency.parse_codes` — **the texts that are read as a currency are those that spell its code**,
  in requests and in the rows of a database.  The long s counts as an s.
* `Currency.not_ascii_only` — it would not be the same to go by the case of ASCII letters alone.
-/

namespace DoubleEntry

open Text

namespace Currency

/-- Between blanks, a text is the code of a currency, once each letter is replaced by its
capital. -/
def Spells (capital : Char → Char) (text : String) (c : Currency) : Prop :=
  ∃ core, Core text.toList core ∧ core.map capital = c.code.toList

variable {text : String} {c : Currency}

theorem ofCode?_eq_some {code : String} : ofCode? code = some c ↔ code = c.code := by
  constructor
  · intro found
    have same : (c.code == code) = true := by simpa using List.find?_some found
    exact (beq_iff_eq.1 same).symm
  · rintro rfl
    exact ofCode?_code c

/-- Only letters of a code have the code as their upper case. -/
theorem upper_eq_code {cs : List Char} :
    upper cs = c.code.toList ↔ cs.map capital = c.code.toList :=
  upper_eq_iff (by cases c <;> simp [code]) (by cases c <;> decide)

theorem ofCode?_normalized : ofCode? (normalized text) = some c ↔ Spells capital text c := by
  rw [ofCode?_eq_some, normalized, ← String.toList_inj, String.toList_ofList, upper_eq_code]
  constructor
  · exact fun spelled => ⟨_, core_trim _, spelled⟩
  · rintro ⟨core, around, spelled⟩
    rwa [trim_eq_iff.2 around]

theorem parse_eq_ok : parse text = .ok c ↔ Spells capital text c := by
  rw [← ofCode?_normalized, parse]
  cases ofCode? (normalized text) <;> simp

theorem parse_of_unknown (unknown : ∀ c, ¬ Spells capital text c) :
    ∃ message, parse text = .error (.validation message) := by
  unfold parse
  cases named : ofCode? (normalized text) with
  | none => exact ⟨_, rfl⟩
  | some c => exact absurd (ofCode?_normalized.1 named) (unknown c)

/-- Without a long s, only ASCII letters have a capital. -/
theorem spells_of_modern (modern : 'ſ' ∉ text.toList) :
    Spells capital text c ↔ Spells Char.toUpper text c := by
  have same (core : List Char) (around : Core text.toList core) :
      core.map capital = core.map Char.toUpper := by
    obtain ⟨before, after, split, -⟩ := around.parts
    refine List.map_congr_left fun d mem => if_neg ?_
    rintro rfl
    exact modern (split ▸ List.mem_append_left _ (List.mem_append_right _ mem))
  constructor
  · exact fun ⟨core, around, spelled⟩ => ⟨core, around, same core around ▸ spelled⟩
  · exact fun ⟨core, around, spelled⟩ => ⟨core, around, (same core around).symm ▸ spelled⟩

end Currency

namespace Relational

variable {text : String} {c : Currency}

theorem readCurrency_eq_ok : readCurrency text = .ok c ↔ Currency.Spells capital text c := by
  rw [← Currency.parse_eq_ok, readCurrency]
  cases Currency.parse text <;> simp

theorem AccountRow.currency_of_read {r : AccountRow} {a : Account} (read : r.read = .ok a) :
    Currency.Spells capital r.currency a.currency := by
  obtain ⟨c, named, read⟩ := Except.bind_eq_ok.1 read
  obtain ⟨time, -, made⟩ := Except.bind_eq_ok.1 read
  cases made
  exact readCurrency_eq_ok.1 named

/-- Totals are given only if each row names a currency. -/
theorem Tables.currency_of_totals {t : Tables} {totals : Totals} (done : t.totals = .ok totals) :
    ∀ row ∈ t.accounts, ∃ c, Currency.Spells capital row.currency c := by
  intro row mem
  obtain ⟨balances, read, -⟩ := Except.bind_eq_ok.1 done
  have text : row.currency ∈ (t.accounts.map (·.currency)).eraseDups :=
    List.mem_eraseDups.2 (List.mem_map_of_mem mem)
  obtain ⟨_, named⟩ := Except.exists_of_mapM_eq_ok read _ (List.mem_map_of_mem text)
  obtain ⟨c, named, -⟩ := Except.bind_eq_ok.1 named
  exact ⟨c, readCurrency_eq_ok.1 named⟩

end Relational

namespace Currency

/-- **What names a currency.**  A text is read as a currency if and only if it spells the code of
that currency, and is refused as invalid if it spells none.  The long s counts as an s; in a text
without it, only the case of ASCII letters does not matter.  The same goes for the texts in the rows
of a database: rows and totals can be read only if their texts spell a code. -/
theorem parse_codes :
    (∀ text c, parse text = .ok c ↔ Spells capital text c) ∧
    (∀ text, (∃ message, parse text = .error (.validation message)) ↔
      ∀ c, ¬ Spells capital text c) ∧
    (∀ text c, 'ſ' ∉ text.toList → (parse text = .ok c ↔ Spells Char.toUpper text c)) ∧
    (∀ text c, Relational.readCurrency text = .ok c ↔ Spells capital text c) ∧
    (∀ (row : Relational.AccountRow) a, row.read = .ok a → Spells capital row.currency a.currency) ∧
    ∀ (t : Relational.Tables) totals, t.totals = .ok totals →
      ∀ row ∈ t.accounts, ∃ c, Spells capital row.currency c := by
  refine ⟨fun _ _ => parse_eq_ok, fun text => ⟨?_, parse_of_unknown⟩, ?_,
    fun _ _ => Relational.readCurrency_eq_ok, fun _ _ => Relational.AccountRow.currency_of_read,
    fun _ _ => Relational.Tables.currency_of_totals⟩
  · rintro ⟨message, refused⟩ c spelled
    cases refused.symm.trans (parse_eq_ok.2 spelled)
  · intro text c modern
    rw [parse_eq_ok, spells_of_modern modern]

/-- A text with a long s names the dollar, although no letter of ASCII has it as its other case. -/
theorem not_ascii_only : ¬ ∀ text c, parse text = .ok c ↔ Spells Char.toUpper text c := by
  intro ascii
  have named : parse "uſd" = .ok .usd := by decide +kernel
  obtain ⟨core, around, spelled⟩ := (ascii "uſd" .usd).1 named
  have found : trim "uſd".toList = ['u', 'ſ', 'd'] := by decide +kernel
  rw [← trim_eq_iff.2 around, found] at spelled
  exact absurd spelled (by decide)

end Currency

end DoubleEntry
