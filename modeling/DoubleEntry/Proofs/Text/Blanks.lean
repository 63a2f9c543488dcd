import Mathlib.Data.List.TakeWhile
import DoubleEntry.Text.Blank

/-!
# Texts without the blanks around them

* `Core` — what is left of a text without the blanks on both sides, described by what was cut off.
* `trim_eq_iff` — **trimming gives the core**, so a text has exactly one.
-/

namespace DoubleEntry.Text

variable {cs core before : List Char}

/-- No digit is blank. -/
theorem isBlank_of_isDigit {c : Char} (digit : c.isDigit = true) : isBlank c = false := by
  have range : 48 ≤ c.toNat ∧ c.toNat ≤ 57 := by
    simpa [Char.isDigit, UInt32.le_iff_toNat_le] using digit
  simp only [isBlank, Bool.or_eq_false_iff, Bool.and_eq_false_iff, decide_eq_false_iff_not,
    beq_eq_false_iff_ne]
  omega

/-- All characters are blank. -/
def Blank (cs : List Char) : Prop :=
  ∀ c ∈ cs, isBlank c = true

/-- There is no blank in front. -/
def SolidFront (cs : List Char) : Prop :=
  ∀ c ∈ cs.head?, isBlank c = false

/-- A text consists of blanks, its core and blanks, and the core neither begins nor ends with a
blank. -/
structure Core (text core : List Char) : Prop where
  parts : ∃ before after, text = before ++ core ++ after ∧ Blank before ∧ Blank after
  front : SolidFront core
  back : SolidFront core.reverse

/-! ## Dropping blanks in front -/

theorem solidFront_dropWhile (cs : List Char) : SolidFront (cs.dropWhile isBlank) := by
  intro c first
  have stops := List.head?_dropWhile_not isBlank cs
  rw [Option.mem_def.1 first] at stops
  simpa using stops

theorem dropWhile_of_blank (blank : Blank before) (solid : SolidFront cs) :
    (before ++ cs).dropWhile isBlank = cs := by
  rw [List.dropWhile_append_of_pos blank]
  cases cs with
  | nil => rfl
  | cons c cs => simp [solid c rfl]

theorem exists_blank_front (cs : List Char) :
    ∃ before, cs = before ++ cs.dropWhile isBlank ∧ Blank before :=
  ⟨cs.takeWhile isBlank, List.takeWhile_append_dropWhile.symm,
    fun _ mem => List.mem_takeWhile_imp mem⟩

/-! ## The core -/

theorem core_trim (cs : List Char) : Core cs (trim cs) := by
  obtain ⟨before, front, blank⟩ := exists_blank_front cs
  obtain ⟨after, back, blank'⟩ := exists_blank_front (trimStart cs).reverse
  have split : trimStart cs = trim cs ++ after.reverse := by
    rw [trim, trimEnd, ← List.reverse_append, ← back, List.reverse_reverse]
  refine ⟨⟨before, after.reverse, ?_, blank, fun c mem => blank' c (List.mem_reverse.1 mem)⟩,
    ?_, ?_⟩
  · rw [List.append_assoc, ← split]
    exact front
  · -- The core begins with what the text begins with after its blanks.
    intro c first
    refine solidFront_dropWhile cs c ?_
    rw [show cs.dropWhile isBlank = trim cs ++ after.reverse from split, List.head?_append,
      Option.mem_def.1 first]
    rfl
  · rw [trim, trimEnd, List.reverse_reverse]
    exact solidFront_dropWhile _

/-- **Trimming gives the core.** -/
theorem trim_eq_iff : trim cs = core ↔ Core cs core := by
  constructor
  · rintro rfl
    exact core_trim cs
  · rintro ⟨⟨before, after, rfl, blank, blank'⟩, front, back⟩
    cases core with
    | nil =>
      have nothing : trimStart (before ++ [] ++ after) = [] := by
        rw [List.append_nil]
        exact List.dropWhile_eq_nil_iff.2 fun c mem =>
          (List.mem_append.1 mem).elim (blank c) (blank' c)
      rw [trim, nothing]
      rfl
    | cons c cs =>
      have start : trimStart (before ++ (c :: cs) ++ after) = c :: cs ++ after := by
        rw [trimStart, List.append_assoc]
        exact dropWhile_of_blank blank front
      have last : (after.reverse ++ (c :: cs).reverse).dropWhile isBlank = (c :: cs).reverse :=
        dropWhile_of_blank (fun d mem => blank' d (List.mem_reverse.1 mem)) back
      rw [trim, start, trimEnd, List.reverse_append, last, List.reverse_reverse]

/-- A text without blanks is its own core. -/
theorem trim_eq_self (solid : ∀ c ∈ cs, isBlank c = false) : trim cs = cs :=
  trim_eq_iff.2 ⟨⟨[], [], by simp, nofun, nofun⟩,
    fun c first => solid c (List.mem_of_mem_head? first),
    fun c last => solid c (List.mem_reverse.1 (List.mem_of_mem_head? last))⟩

end DoubleEntry.Text
