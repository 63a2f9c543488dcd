import DoubleEntry.Json.Reader
import DoubleEntry.Proofs.Json.Scalars
import DoubleEntry.Proofs.Outcomes

/-!
# What is written is outlined

The two layouts differ in the white space only: both are `Layout.laid` with other gaps.  Whatever
the gaps are, the text of a value is outlined as this value (`Layout.readValue_laid`); so both texts
of a value have the outline `docOf` (`outline_text`, `outline_prettyText`).
-/

namespace DoubleEntry.Json

open Text

variable {rest : List Char}

/-! ## The outline of a value -/

mutual

/-- The outline of the text of a value. -/
def docOf : Json → Doc
  | .null => .null
  | .bool b => .bool b
  | .int n => .num (.int n)
  | .float x => .num (.float x)
  | .str s => .str (some s)
  | .arr items => .arr (docsOf items) none
  | .obj fields => .obj (docsOfFields fields) none

/-- The outlines of the items of an array. -/
def docsOf : List Json → List Doc
  | [] => []
  | x :: items => docOf x :: docsOf items

/-- The outlines of the fields of an object. -/
def docsOfFields : List (String × Json) → List (Doc × Doc)
  | [] => []
  | (key, x) :: fields => (.str (some key), docOf x) :: docsOfFields fields

end

mutual

/-- The value has exact integers only. -/
def Exact : Json → Prop
  | .int n => IsExact n
  | .float _ => False
  | .arr items => ExactItems items
  | .obj fields => ExactFields fields
  | _ => True

/-- So have the items of an array. -/
def ExactItems : List Json → Prop
  | [] => True
  | x :: items => Exact x ∧ ExactItems items

/-- So have the fields of an object. -/
def ExactFields : List (String × Json) → Prop
  | [] => True
  | (_, x) :: fields => Exact x ∧ ExactFields fields

end

/-! ## White space -/

/-- The characters are white space. -/
def Blank (space : List Char) : Prop := ∀ c ∈ space, isSpace c = true

theorem blank_nil : Blank [] := nofun

theorem skipSpace_append {space : List Char} (blank : Blank space) :
    skipSpace (space ++ rest) = skipSpace rest :=
  List.dropWhile_append_of_pos blank

theorem skipSpace_of_solid {c : Char} (solid : isSpace c = false) (cs : List Char) :
    skipSpace (c :: cs) = c :: cs := by
  simp [skipSpace, solid]

theorem readValue_append {space : List Char} (blank : Blank space) (fuel : Nat) :
    readValue fuel (space ++ rest) = readValue fuel rest := by
  cases fuel with
  | zero => rw [readValue, readValue]
  | succ fuel => rw [readValue, readValue, skipSpace_append blank]

theorem readItems_append {space : List Char} (blank : Blank space) (fuel : Nat) :
    readItems fuel (space ++ rest) = readItems fuel rest := by
  cases fuel with
  | zero => rw [readItems, readItems]
  | succ fuel => rw [readItems, readItems, readValue_append blank]

theorem readFields_append {space : List Char} (blank : Blank space) (fuel : Nat) :
    readFields fuel (space ++ rest) = readFields fuel rest := by
  cases fuel with
  | zero => rw [readFields, readFields]
  | succ fuel => rw [readFields, readFields, skipSpace_append blank]

theorem endsNumber_append {space : List Char} (blank : Blank space) (ends : EndsNumber rest) :
    EndsNumber (space ++ rest) := by
  cases space with
  | nil => exact ends
  | cons c space =>
    rintro d ⟨⟩
    have space := blank c List.mem_cons_self
    simp only [isSpace, Bool.or_eq_true, beq_iff_eq] at space
    rcases space with ((rfl | rfl) | rfl) | rfl <;> decide

theorem endsNumber_nil : EndsNumber [] := nofun

/-! ## Layouts -/

/-- A layout: the white space before an item or the end at a depth of nesting, and after a colon. -/
structure Layout where
  gap : Nat → List Char
  afterColon : List Char
  blank_gap : ∀ depth, Blank (gap depth)
  blank_afterColon : Blank afterColon

namespace Layout

variable (L : Layout)

mutual

/-- A value at a depth of nesting. -/
def laid (depth : Nat) : Json → List Char
  | .arr [] => ['[', ']']
  | .arr (x :: items) =>
      '[' :: L.gap (depth + 1) ++ laid (depth + 1) x ++ laidItems depth items
  | .obj [] => ['\x7b', '\x7d']
  | .obj ((key, x) :: fields) =>
      '\x7b' :: L.gap (depth + 1) ++ quotedString key ++ ':' :: L.afterColon ++
        laid (depth + 1) x ++ laidFields depth fields
  | v => scalar v

/-- The items after the first, and the end of the array. -/
def laidItems (depth : Nat) : List Json → List Char
  | [] => L.gap depth ++ [']']
  | x :: items => ',' :: L.gap (depth + 1) ++ laid (depth + 1) x ++ laidItems depth items

/-- The fields after the first, and the end of the object. -/
def laidFields (depth : Nat) : List (String × Json) → List Char
  | [] => L.gap depth ++ ['\x7d']
  | (key, x) :: fields =>
      ',' :: L.gap (depth + 1) ++ quotedString key ++ ':' :: L.afterColon ++
        laid (depth + 1) x ++ laidFields depth fields

end

end Layout

/-- The layout without white space. -/
def tight : Layout := ⟨fun _ => [], [], fun _ => blank_nil, blank_nil⟩

/-- The layout over several lines. -/
def airy : Layout where
  gap := lineAt
  afterColon := [' ']
  blank_gap depth c mem := by
    rcases List.mem_cons.1 mem with rfl | inside
    · rfl
    · rw [List.eq_of_mem_replicate inside]
      rfl
  blank_afterColon := by
    intro c mem
    rw [List.mem_singleton.1 mem]
    rfl

@[simp] theorem tight_gap (depth : Nat) : tight.gap depth = [] := rfl

@[simp] theorem tight_afterColon : tight.afterColon = [] := rfl

@[simp] theorem airy_gap (depth : Nat) : airy.gap depth = lineAt depth := rfl

@[simp] theorem airy_afterColon : airy.afterColon = [' '] := rfl

mutual

theorem laid_tight (depth : Nat) : (v : Json) → tight.laid depth v = compact v
  | .null | .bool _ | .int _ | .float _ | .str _ => by simp [Layout.laid, compact]
  | .arr [] => by simp [Layout.laid, compact]
  | .arr (x :: items) => by
    simp [Layout.laid, compact, laid_tight _ x, laidItems_tight _ items]
  | .obj [] => by simp [Layout.laid, compact]
  | .obj ((key, x) :: fields) => by
    simp [Layout.laid, compact, laid_tight _ x, laidFields_tight _ fields]

theorem laidItems_tight (depth : Nat) :
    (items : List Json) → tight.laidItems depth items = compactItems items
  | [] => by simp [Layout.laidItems, compactItems]
  | x :: items => by
    simp [Layout.laidItems, compactItems, laid_tight _ x, laidItems_tight _ items]

theorem laidFields_tight (depth : Nat) :
    (fields : List (String × Json)) → tight.laidFields depth fields = compactFields fields
  | [] => by simp [Layout.laidFields, compactFields]
  | (key, x) :: fields => by
    simp [Layout.laidFields, compactFields, laid_tight _ x, laidFields_tight _ fields]

end

mutual

theorem laid_airy (depth : Nat) : (v : Json) → airy.laid depth v = pretty depth v
  | .null | .bool _ | .int _ | .float _ | .str _ => by simp [Layout.laid, pretty]
  | .arr [] => by simp [Layout.laid, pretty]
  | .arr (x :: items) => by
    simp [Layout.laid, pretty, laid_airy _ x, laidItems_airy _ items]
  | .obj [] => by simp [Layout.laid, pretty]
  | .obj ((key, x) :: fields) => by
    simp [Layout.laid, pretty, laid_airy _ x, laidFields_airy _ fields]

theorem laidItems_airy (depth : Nat) :
    (items : List Json) → airy.laidItems depth items = prettyItems depth items
  | [] => by simp [Layout.laidItems, prettyItems]
  | x :: items => by
    simp [Layout.laidItems, prettyItems, laid_airy _ x, laidItems_airy _ items]

theorem laidFields_airy (depth : Nat) :
    (fields : List (String × Json)) → airy.laidFields depth fields = prettyFields depth fields
  | [] => by simp [Layout.laidFields, prettyFields]
  | (key, x) :: fields => by
    simp [Layout.laidFields, prettyFields, laid_airy _ x, laidFields_airy _ fields]

end

/-! ## Reading what was laid out -/

section Steps

variable {v : Json} {fuel : Nat} {cs after more : List Char}

/-- An array with items. -/
theorem readValue_arr {c : Char} {items : List Doc} {fault : Option Defect}
    (begins : skipSpace cs = c :: more) (other : c ≠ ']')
    (read : readItems fuel (c :: more) = (items, fault, rest)) :
    readValue (fuel + 1) ('[' :: cs) = (.arr items fault, rest) := by
  rw [readValue, skipSpace_of_solid rfl]
  simp [begins, other, read]

/-- An object with fields. -/
theorem readValue_obj {c : Char} {fields : List (Doc × Doc)} {fault : Option Defect}
    (begins : skipSpace cs = c :: more) (other : c ≠ '\x7d')
    (read : readFields fuel (c :: more) = (fields, fault, rest)) :
    readValue (fuel + 1) ('\x7b' :: cs) = (.obj fields fault, rest) := by
  rw [readValue, skipSpace_of_solid rfl]
  simp [begins, other, read]

/-- The last item of an array. -/
theorem readItems_last (read : readValue fuel cs = (docOf v, after))
    (ends : skipSpace after = ']' :: rest) :
    readItems (fuel + 1) cs = ([docOf v], none, rest) := by
  rw [readItems, read]
  cases v <;> simp only [docOf, ends]

/-- An item of an array with others after it. -/
theorem readItems_more {items : List Doc} {fault : Option Defect}
    (read : readValue fuel cs = (docOf v, after)) (goes : skipSpace after = ',' :: more)
    (others : readItems fuel more = (items, fault, rest)) :
    readItems (fuel + 1) cs = (docOf v :: items, fault, rest) := by
  rw [readItems, read]
  cases v <;> simp only [docOf, goes, others]

/-- The last field of an object. -/
theorem readField_last {key : Doc} (read : readValue fuel cs = (docOf v, after))
    (ends : skipSpace after = '\x7d' :: rest) :
    readField (fuel + 1) key cs = ([(key, docOf v)], none, rest) := by
  rw [readField, read]
  cases v <;> simp only [docOf, ends]

/-- A field of an object with others after it. -/
theorem readField_more {key : Doc} {fields : List (Doc × Doc)} {fault : Option Defect}
    (read : readValue fuel cs = (docOf v, after)) (goes : skipSpace after = ',' :: more)
    (others : readFields fuel more = (fields, fault, rest)) :
    readField (fuel + 1) key cs = ((key, docOf v) :: fields, fault, rest) := by
  rw [readField, read]
  cases v <;> simp only [docOf, goes, others]

end Steps

theorem length_le_escaped (s : List Char) : s.length ≤ (s.flatMap escaped).length := by
  induction s with
  | nil => exact Nat.zero_le _
  | cons c s ih =>
    have one : 1 ≤ (escaped c).length := by
      unfold escaped
      repeat' split
      all_goals simp
    simp only [List.flatMap_cons, List.length_cons, List.length_append]
    omega

theorem readString_quoted (key : String) :
    readString ((key.toList.flatMap escaped ++ '"' :: rest).length + 1) (some [])
      (key.toList.flatMap escaped ++ '"' :: rest) = (.str (some key), rest) := by
  have enough : key.toList.length < (key.toList.flatMap escaped ++ '"' :: rest).length + 1 := by
    have := length_le_escaped key.toList
    rw [List.length_append]
    omega
  rw [readString_escaped _ _ enough]
  simp

theorem quotedString_append (s : String) :
    quotedString s ++ rest = '"' :: (s.toList.flatMap escaped ++ '"' :: rest) := by
  simp [quotedString]

theorem readValue_str (fuel : Nat) (s : String) :
    readValue (fuel + 1) (quotedString s ++ rest) = (.str (some s), rest) := by
  rw [quotedString_append, readValue]
  exact readString_quoted s

/-- A key and its colon. -/
theorem readFields_key (fuel : Nat) (key : String) (cs : List Char) :
    readFields (fuel + 1) (quotedString key ++ ':' :: cs) =
      readField fuel (.str (some key)) cs := by
  rw [quotedString_append, readFields, skipSpace_of_solid rfl]
  simp only [readString_quoted, skipSpace_of_solid (show isSpace ':' = false from rfl)]

theorem ne_of_isDigit {c d : Char} (digit : c.isDigit = true) (other : d.isDigit = false) :
    c ≠ d := by
  rintro rfl
  rw [digit] at other
  cases other

theorem isSpace_of_isDigit {c : Char} (digit : c.isDigit = true) : isSpace c = false := by
  simp [isSpace, ne_of_isDigit digit (d := ' ') rfl, ne_of_isDigit digit (d := '\n') rfl,
    ne_of_isDigit digit (d := '\t') rfl, ne_of_isDigit digit (d := '\r') rfl]

/-- A digit begins a number without sign. -/
theorem readValue_of_digit {c : Char} (digit : c.isDigit = true) (fuel : Nat) (cs : List Char) :
    readValue (fuel + 1) (c :: cs) = readNumber false (c :: cs) := by
  rw [readValue, skipSpace_of_solid (isSpace_of_isDigit digit)]
  split
  case h_1 =>
    rename_i same
    cases same
  case h_9 =>
    rename_i same
    cases same
    rw [if_pos digit]
  all_goals
    rename_i same
    cases same
    cases digit

theorem intText_of_nonneg {n : Int} (nonneg : ¬ n < 0) :
    ∃ c cs, intText n = c :: cs ∧ c.isDigit = true := by
  rw [intText, if_neg nonneg]
  cases digits : natText n.natAbs with
  | nil => exact absurd digits (natText_ne_nil _)
  | cons c cs =>
    exact ⟨c, cs, rfl, isDigit_of_mem_natText (by rw [digits]; exact List.mem_cons_self)⟩

theorem readValue_int {n : Int} (fuel : Nat) (exact : IsExact n) (ends : EndsNumber rest) :
    readValue (fuel + 1) (intText n ++ rest) = (.num (.int n), rest) := by
  have value := value_natText exact
  by_cases below : n < 0
  · rw [intText, if_pos below, List.cons_append, readValue]
    simp only [below, decide_true] at value
    rw [← value]
    exact readNumber_natText true n.natAbs ends
  · simp only [below, decide_false] at value
    obtain ⟨c, cs, digits, digit⟩ := intText_of_nonneg below
    rw [← value, ← readNumber_natText false n.natAbs ends, ← show intText n = natText n.natAbs from
      if_neg below, digits]
    exact readValue_of_digit digit fuel (cs ++ rest)

/-- The value is neither array nor object. -/
def Flat : Json → Prop
  | .arr _ => False
  | .obj _ => False
  | _ => True

theorem readValue_scalar {v : Json} (flat : Flat v) (exact : Exact v) (fuel : Nat)
    (ends : EndsNumber rest) : readValue (fuel + 1) (scalar v ++ rest) = (docOf v, rest) := by
  cases v with
  | null => exact readLiteral_append 'n' .null "ull".toList
  | bool b =>
    cases b with
    | true => exact readLiteral_append 't' (.bool true) "rue".toList
    | false => exact readLiteral_append 'f' (.bool false) "alse".toList
  | int n => exact readValue_int fuel exact ends
  | float x => exact exact.elim
  | str s => exact readValue_str fuel s
  | arr items => exact flat.elim
  | obj fields => exact flat.elim

namespace Layout

variable (L : Layout)

/-- The items of an array from one of them on, and the end of the array. -/
def itemLines (depth : Nat) : List Json → List Char
  | [] => []
  | x :: items => L.laid (depth + 1) x ++ L.laidItems depth items

/-- The fields of an object from one of them on, and the end of the object. -/
def fieldLines (depth : Nat) : List (String × Json) → List Char
  | [] => []
  | (key, x) :: fields => quotedString key ++ ':' ::
      (L.afterColon ++ (L.laid (depth + 1) x ++ L.laidFields depth fields))

theorem laidItems_cons (depth : Nat) (x : Json) (items : List Json) :
    L.laidItems depth (x :: items) =
      ',' :: (L.gap (depth + 1) ++ L.itemLines depth (x :: items)) := by
  simp [laidItems, itemLines]

theorem laidFields_cons (depth : Nat) (f : String × Json) (fields : List (String × Json)) :
    L.laidFields depth (f :: fields) =
      ',' :: (L.gap (depth + 1) ++ L.fieldLines depth (f :: fields)) := by
  simp [laidFields, fieldLines]

theorem laid_arr (depth : Nat) (x : Json) (items : List Json) :
    L.laid depth (.arr (x :: items)) =
      '[' :: (L.gap (depth + 1) ++ L.itemLines depth (x :: items)) := by
  simp [laid, itemLines]

theorem laid_obj (depth : Nat) (f : String × Json) (fields : List (String × Json)) :
    L.laid depth (.obj (f :: fields)) =
      '\x7b' :: (L.gap (depth + 1) ++ L.fieldLines depth (f :: fields)) := by
  simp [laid, fieldLines]

theorem laid_flat (v : Json) (flat : Flat v) (depth : Nat) : L.laid depth v = scalar v := by
  cases v with
  | arr items => exact flat.elim
  | obj fields => exact flat.elim
  | _ => simp [laid]

/-! ### What stands at the ends of a value -/

/-- No value begins with white space or the end of an array. -/
theorem laid_head (depth : Nat) {v : Json} (exact : Exact v) :
    ∃ c cs, L.laid depth v = c :: cs ∧ isSpace c = false ∧ c ≠ ']' := by
  cases v with
  | null => exact ⟨'n', "ull".toList, L.laid_flat .null trivial depth, rfl, by decide⟩
  | bool b =>
    cases b with
    | true => exact ⟨'t', "rue".toList, L.laid_flat (.bool true) trivial depth, rfl, by decide⟩
    | false => exact ⟨'f', "alse".toList, L.laid_flat (.bool false) trivial depth, rfl, by decide⟩
  | int n =>
    rw [L.laid_flat (.int n) trivial, scalar]
    by_cases below : n < 0
    · exact ⟨'-', natText n.natAbs, if_pos below, rfl, by decide⟩
    · obtain ⟨c, cs, digits, digit⟩ := intText_of_nonneg below
      exact ⟨c, cs, digits, isSpace_of_isDigit digit, ne_of_isDigit digit rfl⟩
  | float x => exact exact.elim
  | str s => exact ⟨'"', _, L.laid_flat (.str s) trivial depth, rfl, by decide⟩
  | arr items =>
    cases items with
    | nil => exact ⟨'[', _, by rw [laid], rfl, by decide⟩
    | cons x items => exact ⟨'[', _, L.laid_arr depth x items, rfl, by decide⟩
  | obj fields =>
    cases fields with
    | nil => exact ⟨'\x7b', _, by rw [laid], rfl, by decide⟩
    | cons f fields => exact ⟨'\x7b', _, L.laid_obj depth f fields, rfl, by decide⟩

theorem skipSpace_lastItem (depth : Nat) (rest : List Char) :
    skipSpace (L.laidItems depth [] ++ rest) = ']' :: rest := by
  rw [laidItems, List.append_assoc, skipSpace_append (L.blank_gap depth)]
  rfl

theorem skipSpace_lastField (depth : Nat) (rest : List Char) :
    skipSpace (L.laidFields depth [] ++ rest) = '\x7d' :: rest := by
  rw [laidFields, List.append_assoc, skipSpace_append (L.blank_gap depth)]
  rfl

theorem endsNumber_laidItems (depth : Nat) (items : List Json) (rest : List Char) :
    EndsNumber (L.laidItems depth items ++ rest) := by
  cases items with
  | nil =>
    rw [laidItems, List.append_assoc]
    refine endsNumber_append (L.blank_gap depth) ?_
    rintro _ ⟨⟩
    decide
  | cons x items =>
    rw [laidItems_cons]
    rintro _ ⟨⟩
    decide

theorem endsNumber_laidFields (depth : Nat) (fields : List (String × Json)) (rest : List Char) :
    EndsNumber (L.laidFields depth fields ++ rest) := by
  cases fields with
  | nil =>
    rw [laidFields, List.append_assoc]
    refine endsNumber_append (L.blank_gap depth) ?_
    rintro _ ⟨⟩
    decide
  | cons f fields =>
    rw [laidFields_cons]
    rintro _ ⟨⟩
    decide

/-! ### Reading -/

theorem readValue_flat (v : Json) (flat : Flat v) (exact : Exact v) (depth fuel : Nat)
    (ends : EndsNumber rest) :
    readValue (fuel + 1) (L.laid depth v ++ rest) = (docOf v, rest) := by
  rw [L.laid_flat v flat]
  exact readValue_scalar flat exact fuel ends

mutual

/-- **A value is read as it was laid out.** -/
theorem readValue_laid (depth fuel : Nat) (rest : List Char) (ends : EndsNumber rest) :
    (v : Json) → Exact v → 2 * (L.laid depth v).length ≤ fuel →
      readValue (fuel + 1) (L.laid depth v ++ rest) = (docOf v, rest)
  | .null, exact, _ => L.readValue_flat .null trivial exact depth fuel ends
  | .bool b, exact, _ => L.readValue_flat (.bool b) trivial exact depth fuel ends
  | .int n, exact, _ => L.readValue_flat (.int n) trivial exact depth fuel ends
  | .str s, exact, _ => L.readValue_flat (.str s) trivial exact depth fuel ends
  | .float _, exact, _ => exact.elim
  | .arr [], _, _ => by
    rw [laid]
    rfl
  | .obj [], _, _ => by
    rw [laid]
    rfl
  | .arr (x :: items), exact, enough => by
    rw [laid_arr] at enough ⊢
    simp only [List.length_cons, List.length_append] at enough
    have read := readItems_laid depth fuel rest (x :: items) (List.cons_ne_nil _ _) exact
      (by omega)
    obtain ⟨c, cs, first, solid, other⟩ := L.laid_head (depth + 1) exact.1
    have lines : L.itemLines depth (x :: items) ++ rest =
        c :: (cs ++ (L.laidItems depth items ++ rest)) := by
      simp [itemLines, first]
    rw [lines] at read
    rw [List.cons_append, List.append_assoc]
    refine readValue_arr ?_ other read
    rw [skipSpace_append (L.blank_gap _), lines, skipSpace_of_solid solid]
  | .obj ((key, x) :: fields), exact, enough => by
    rw [laid_obj] at enough ⊢
    simp only [List.length_cons, List.length_append] at enough
    have read := readFields_laid depth fuel rest ((key, x) :: fields) (List.cons_ne_nil _ _) exact
      (by omega)
    rw [fieldLines, List.append_assoc, quotedString_append] at read
    rw [List.cons_append, List.append_assoc]
    refine readValue_obj ?_ (by decide) read
    rw [skipSpace_append (L.blank_gap _), fieldLines, List.append_assoc, quotedString_append,
      skipSpace_of_solid rfl]

theorem readItems_laid (depth fuel : Nat) (rest : List Char) :
    (items : List Json) → items ≠ [] → ExactItems items →
      2 * (L.itemLines depth items).length + 2 ≤ fuel →
      readItems fuel (L.itemLines depth items ++ rest) = (docsOf items, none, rest)
  | [], nonempty, _, _ => absurd rfl nonempty
  | [x], _, exact, enough => by
    simp only [itemLines, List.length_append] at enough
    obtain ⟨fuel, rfl⟩ : ∃ f, fuel = f + 2 := ⟨fuel - 2, by omega⟩
    have read := readValue_laid (depth + 1) fuel (L.laidItems depth [] ++ rest)
      (L.endsNumber_laidItems depth [] rest) x exact.1 (by omega)
    rw [itemLines, List.append_assoc]
    exact readItems_last read (L.skipSpace_lastItem depth rest)
  | x :: y :: items, _, exact, enough => by
    simp only [itemLines, List.length_append] at enough
    obtain ⟨fuel, rfl⟩ : ∃ f, fuel = f + 2 := ⟨fuel - 2, by omega⟩
    have read := readValue_laid (depth + 1) fuel (L.laidItems depth (y :: items) ++ rest)
      (L.endsNumber_laidItems depth _ rest) x exact.1 (by omega)
    rw [laidItems_cons] at enough read
    simp only [List.length_cons, List.length_append] at enough
    have others := readItems_laid depth (fuel + 1) rest (y :: items) (List.cons_ne_nil _ _) exact.2
      (by omega)
    rw [itemLines, laidItems_cons]
    simp only [List.append_assoc, List.cons_append] at read ⊢
    refine readItems_more read (skipSpace_of_solid rfl _) ?_
    rw [readItems_append (L.blank_gap _)]
    exact others

theorem readFields_laid (depth fuel : Nat) (rest : List Char) :
    (fields : List (String × Json)) → fields ≠ [] → ExactFields fields →
      2 * (L.fieldLines depth fields).length + 2 ≤ fuel →
      readFields fuel (L.fieldLines depth fields ++ rest) = (docsOfFields fields, none, rest)
  | [], nonempty, _, _ => absurd rfl nonempty
  | [(key, x)], _, exact, enough => by
    simp only [fieldLines, List.length_append, List.length_cons] at enough
    obtain ⟨fuel, rfl⟩ : ∃ f, fuel = f + 3 := ⟨fuel - 3, by omega⟩
    have read := readValue_laid (depth + 1) fuel (L.laidFields depth [] ++ rest)
      (L.endsNumber_laidFields depth [] rest) x exact.1 (by omega)
    rw [← readValue_append L.blank_afterColon] at read
    simp only [fieldLines, List.append_assoc, List.cons_append]
    rw [readFields_key]
    exact readField_last read (L.skipSpace_lastField depth rest)
  | (key, x) :: f :: fields, _, exact, enough => by
    simp only [fieldLines, List.length_append, List.length_cons] at enough
    obtain ⟨fuel, rfl⟩ : ∃ f, fuel = f + 3 := ⟨fuel - 3, by omega⟩
    have read := readValue_laid (depth + 1) fuel (L.laidFields depth (f :: fields) ++ rest)
      (L.endsNumber_laidFields depth _ rest) x exact.1 (by omega)
    rw [← readValue_append L.blank_afterColon] at read
    rw [laidFields_cons] at enough read
    simp only [List.length_cons, List.length_append] at enough
    have others := readFields_laid depth (fuel + 1) rest (f :: fields) (List.cons_ne_nil _ _)
      exact.2 (by omega)
    rw [fieldLines, laidFields_cons]
    simp only [List.append_assoc, List.cons_append] at read ⊢
    rw [readFields_key]
    refine readField_more read (skipSpace_of_solid rfl _) ?_
    rw [readFields_append (L.blank_gap _)]
    exact others

end

end Layout

/-! ## Texts -/

theorem outline_laid (L : Layout) {v : Json} (exact : Exact v) :
    outline (L.laid 0 v) = (docOf v, []) := by
  have read := L.readValue_laid 0 (2 * (L.laid 0 v).length + 1) [] endsNumber_nil v exact (by omega)
  rwa [List.append_nil] at read

/-- **A compact text** has the outline of its value. -/
theorem outline_text {v : Json} (exact : Exact v) : outline v.text.toList = (docOf v, []) := by
  rw [text, String.toList_ofList, ← laid_tight 0]
  exact outline_laid tight exact

/-- **A pretty text** has the outline of its value. -/
theorem outline_prettyText {v : Json} (exact : Exact v) :
    outline v.prettyText.toList = (docOf v, []) := by
  rw [prettyText, String.toList_ofList, ← laid_airy 0]
  exact outline_laid airy exact

section Texts

variable {α : Type} {reader : Reader α} {t : String} {x : α}

/-- A text is read if its outline is, and nothing follows. -/
theorem readText_eq_ok : readText reader t = .ok x ↔
    reader depthLimit (outline t.toList).1 = .ok x ∧ skipSpace (outline t.toList).2 = [] := by
  unfold readText
  rcases outline t.toList with ⟨doc, rest⟩
  simp only [Except.bind_eq_ok]
  constructor
  · rintro ⟨y, read, done⟩
    split at done
    · rename_i empty
      cases done
      exact ⟨read, List.isEmpty_iff.1 empty⟩
    · cases done
  · rintro ⟨read, empty⟩
    exact ⟨x, read, by rw [empty]; rfl⟩

/-- Who reads a written text reads the outline of its value. -/
theorem readText_of_outline {doc : Doc} (written : outline t.toList = (doc, []))
    (read : reader depthLimit doc = .ok x) : readText reader t = .ok x := by
  rw [readText_eq_ok, written]
  exact ⟨read, rfl⟩

end Texts

end DoubleEntry.Json
