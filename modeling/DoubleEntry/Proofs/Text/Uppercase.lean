import DoubleEntry.Text.Uppercase

/-!
# Texts whose upper case is ASCII

Few characters outside ASCII have an upper case in ASCII: the long s has `S`, the dotless i has `I`,
and the sharp s and some ligatures have several letters.

* `capital` — the upper case of ASCII letters and of the long s.
* `upper_eq_iff` — **an ASCII text is the upper case of another if and only if it has the capitals
  of that**, as long as nothing in it could come from one of the remaining characters.
-/

namespace DoubleEntry.Text

/-- The capital of a letter, for ASCII letters and the long s. -/
def capital (c : Char) : Char :=
  if c = 'ſ' then 'S' else c.toUpper

/-- The ASCII texts that are the upper case of one character outside ASCII other than the long s. -/
def foreignCapitals : List (List Char) :=
  [['I'], ['S', 'S'], ['F', 'F'], ['F', 'I'], ['F', 'L'], ['F', 'F', 'I'], ['F', 'F', 'L'],
    ['S', 'T']]

/-- A text that cannot be a part of an ASCII text without those above. -/
def Foreign (cs : List Char) : Prop :=
  cs ∈ foreignCapitals ∨ ∃ c ∈ cs, 128 ≤ c.toNat

/-! ## The tables -/

theorem foreign_of_mem_caseExpansions :
    ∀ e ∈ caseExpansions, e.2.map Char.ofNat ∈ foreignCapitals ∨
      ∃ n ∈ e.2, 128 ≤ n ∧ n < 0xD800 := by
  decide +kernel

theorem range_of_mem_caseRuns :
    ∀ r ∈ caseRuns, r.first = 305 ∧ r.last = 305 ∧ r.distance = -232 ∨
      r.first = 383 ∧ r.last = 383 ∨
      128 ≤ r.first + r.distance ∧ (r.last + r.distance < 0xD800 ∨
        0xDFFF < r.first + r.distance ∧ r.last + r.distance < 0x110000) := by
  decide +kernel

/-! ## One character -/

theorem toNat_ofNat_of_valid {n : Nat} (valid : n.isValidChar) : (Char.ofNat n).toNat = n := by
  rw [Char.ofNat, dif_pos valid]
  rfl

theorem toUpper_of_not_ascii {c : Char} (high : 128 ≤ c.toNat) : c.toUpper = c := by
  have beyond : ¬ ('a'.val ≤ c.val ∧ c.val ≤ 'z'.val) := fun ⟨_, low⟩ =>
    absurd (UInt32.le_iff_toNat_le.1 low) (Nat.not_le.2 (Nat.lt_of_lt_of_le (by decide) high))
  exact dif_neg beyond

theorem foreign_of_expansion {n : Nat} {ns : List Nat} (found : caseExpansions.lookup n = some ns) :
    Foreign (ns.map Char.ofNat) := by
  obtain ⟨before, after, split, -⟩ := List.lookup_eq_some_iff.1 found
  have mem : (n, ns) ∈ caseExpansions := by
    rw [split]
    exact List.mem_append_right _ List.mem_cons_self
  obtain known | ⟨m, mem, high, valid⟩ := foreign_of_mem_caseExpansions _ mem
  · exact .inl known
  · refine .inr ⟨Char.ofNat m, List.mem_map_of_mem mem, ?_⟩
    rwa [toNat_ofNat_of_valid (.inl valid)]

/-- Of the characters that are mapped by a run, only the long s and the dotless i have an upper case
in ASCII. -/
theorem foreign_of_run {n : Nat} {r : CaseRun} (found : caseRuns.find? (·.holds n) = some r)
    (short : n ≠ 383) : Foreign [Char.ofNat (n + r.distance).toNat] := by
  have holds := List.find?_some found
  simp only [CaseRun.holds, Bool.and_eq_true, decide_eq_true_eq] at holds
  obtain ⟨⟨first, last⟩, -⟩ := holds
  obtain ⟨first', last', distance⟩ | ⟨first', last'⟩ | ⟨high, valid⟩ :=
    range_of_mem_caseRuns r (List.mem_of_find?_eq_some found)
  · obtain rfl : n = 305 := by omega
    rw [distance]
    exact .inl List.mem_cons_self
  · omega
  · have valid' : ((n + r.distance).toNat).isValidChar := by
      unfold Nat.isValidChar
      omega
    refine .inr ⟨_, List.mem_singleton_self _, ?_⟩
    rw [toNat_ofNat_of_valid valid']
    omega

/-- The upper case of a character is its capital, or foreign. -/
theorem upperChar_cases (c : Char) :
    upperChar c = [capital c] ∨ 128 ≤ (capital c).toNat ∧ Foreign (upperChar c) := by
  by_cases long : c = 'ſ'
  · subst long
    exact .inl (by decide)
  have plain : capital c = c.toUpper := if_neg long
  by_cases ascii : c.toNat < 128
  · exact .inl (by rw [upperChar, if_pos ascii, plain])
  have high : 128 ≤ c.toNat := Nat.not_lt.1 ascii
  rw [plain, toUpper_of_not_ascii high, upperChar]
  simp only [if_neg ascii]
  cases expansion : caseExpansions.lookup c.toNat with
  | some ns => exact .inr ⟨high, foreign_of_expansion expansion⟩
  | none =>
    cases run : caseRuns.find? (·.holds c.toNat) with
    | none => exact .inl rfl
    | some r => exact .inr ⟨high, foreign_of_run run fun same => long (Char.toNat_inj.1 same)⟩

/-! ## Texts -/

/-- **An ASCII text is the upper case of another if and only if it has its capitals**, as long as it
contains nothing that could be the upper case of another character. -/
theorem upper_eq_iff {cs target : List Char} (ascii : ∀ d ∈ target, d.toNat < 128)
    (apart : ∀ ds ∈ foreignCapitals, ¬ ds <:+: target) :
    upper cs = target ↔ cs.map capital = target := by
  induction cs generalizing target with
  | nil => rfl
  | cons c cs ih =>
    rw [upper, List.flatMap_cons, ← upper, List.map_cons]
    obtain single | ⟨high, known | ⟨d, mem, high'⟩⟩ := upperChar_cases c
    · rw [single, List.singleton_append]
      cases target with
      | nil => exact ⟨nofun, nofun⟩
      | cons d target =>
        have rest := ih (fun d mem => ascii d (List.mem_cons_of_mem _ mem)) fun ds mem inside =>
          apart ds mem (inside.trans (List.suffix_cons d target).isInfix)
        rw [List.cons.injEq, List.cons.injEq, rest]
    · refine ⟨fun same => absurd ?_ (apart _ known), fun same => ?_⟩
      · exact same ▸ (List.prefix_append _ _).isInfix
      · exact absurd (ascii _ (same ▸ List.mem_cons_self)) (Nat.not_lt.2 high)
    · refine ⟨fun same => ?_, fun same => ?_⟩
      · exact absurd (ascii d (same ▸ List.mem_append_left _ mem)) (Nat.not_lt.2 high')
      · exact absurd (ascii _ (same ▸ List.mem_cons_self)) (Nat.not_lt.2 high)

end DoubleEntry.Text
