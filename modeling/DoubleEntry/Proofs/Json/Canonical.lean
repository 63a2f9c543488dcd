import Mathlib.Data.List.Nodup
import DoubleEntry.Proofs.Json.Layout

/-!
# Free values read back

Who reads an object as a free value keeps the last field of each key and lists the fields by key
(`field?_sortedByKey`, `ascending_sortedByKey`).  What was read in this way is `Canonical`, and so
it is read from its own text again: `any_docOf` and `canonical_of_any`.
-/

namespace DoubleEntry.Json

variable {key : String} {f : String × Json} {fields others : List (String × Json)}

/-! ## Fields by key -/

/-- The fields are in ascending order of their keys, and no key comes twice. -/
def Ascending (fields : List (String × Json)) : Prop :=
  fields.Pairwise fun f g => f.1 < g.1

/-- No key comes twice. -/
def Distinct (fields : List (String × Json)) : Prop :=
  (fields.map Prod.fst).Nodup

theorem Ascending.distinct (ascending : Ascending fields) : Distinct fields := by
  refine List.pairwise_map.2 (ascending.imp ?_)
  intro f g less same
  rw [same] at less
  exact String.lt_irrefl _ less

theorem field?_cons :
    field? key (f :: fields) = if f.1 = key then some f.2 else field? key fields := by
  by_cases same : f.1 = key <;> simp [field?, same]

theorem field?_eq_none : field? key fields = none ↔ key ∉ fields.map Prod.fst := by
  induction fields with
  | nil => simp [field?]
  | cons f fields ih =>
    rw [field?_cons, List.map_cons, List.mem_cons, not_or, ← ih]
    by_cases same : f.1 = key
    · simp [same]
    · simp [same, Ne.symm same]

/-- Among distinct keys, a field is found if and only if it is there. -/
theorem field?_eq_some (distinct : Distinct fields) {v : Json} :
    field? key fields = some v ↔ (key, v) ∈ fields := by
  induction fields with
  | nil => simp [field?]
  | cons f fields ih =>
    obtain ⟨name, x⟩ := f
    obtain ⟨new, distinct⟩ := List.nodup_cons.1 distinct
    rw [field?_cons, List.mem_cons, Prod.mk.injEq]
    by_cases same : name = key
    · subst same
      have elsewhere : (name, v) ∉ fields := fun mem => new (List.mem_map.2 ⟨_, mem, rfl⟩)
      simp [elsewhere, eq_comm]
    · simp [same, Ne.symm same, ih distinct]

theorem field?_of_perm (distinct : Distinct fields) (perm : others.Perm fields) :
    field? key others = field? key fields := by
  have distinct' : Distinct others := (perm.map Prod.fst).nodup_iff.2 distinct
  refine Option.ext fun v => ?_
  rw [field?_eq_some distinct, field?_eq_some distinct', perm.mem_iff]

/-- The value of the last field with a key. -/
def last? (key : String) : List (String × Json) → Option Json
  | [] => none
  | f :: fields => (last? key fields).or (if f.1 = key then some f.2 else none)

theorem last?_filter {p : String × Json → Bool} (kept : ∀ f, f.1 = key → p f = true) :
    last? key (fields.filter p) = last? key fields := by
  induction fields with
  | nil => rfl
  | cons f fields ih =>
    by_cases keeps : p f = true
    · rw [List.filter_cons_of_pos keeps, last?, last?, ih]
    · have other : f.1 ≠ key := fun same => keeps (kept f same)
      rw [List.filter_cons_of_neg keeps, last?, ih, if_neg other, Option.or_none]

theorem last?_eq_none : last? key fields = none ↔ key ∉ fields.map Prod.fst := by
  induction fields with
  | nil => simp [last?]
  | cons f fields ih =>
    rw [last?, Option.or_eq_none_iff, ih, List.map_cons, List.mem_cons, not_or]
    by_cases same : f.1 = key
    · simp [same]
    · simp [same, Ne.symm same]

/-- Where a key does not come twice, its last field is the first one. -/
theorem last?_of_once (once : (fields.map Prod.fst).count key ≤ 1) :
    last? key fields = field? key fields := by
  induction fields with
  | nil => rfl
  | cons f fields ih =>
    rw [List.map_cons, List.count_cons] at once
    rw [last?, field?_cons]
    by_cases same : f.1 = key
    · rw [if_pos (beq_iff_eq.2 same)] at once
      have none : key ∉ fields.map Prod.fst := List.count_eq_zero.1 (by omega)
      rw [if_pos same, if_pos same, last?_eq_none.2 none, Option.none_or]
    · rw [if_neg same, if_neg same, Option.or_none, ih (by omega)]

theorem last?_of_distinct (distinct : Distinct fields) : last? key fields = field? key fields :=
  last?_of_once (List.nodup_iff_count_le_one.1 distinct key)

/-- Keep the last field of each key. -/
def lastOfEach (fields : List (String × Json)) : List (String × Json) :=
  fields.foldr (fun f kept => if kept.any (·.1 == f.1) then kept else f :: kept) []

theorem sortedByKey_eq : sortedByKey fields =
    (lastOfEach fields).mergeSort fun f g => decide (f.1 ≤ g.1) := rfl

theorem lastOfEach_cons : lastOfEach (f :: fields) =
    if f.1 ∈ (lastOfEach fields).map Prod.fst then lastOfEach fields
    else f :: lastOfEach fields := by
  have found : (lastOfEach fields).any (·.1 == f.1) = true ↔
      f.1 ∈ (lastOfEach fields).map Prod.fst := by
    rw [List.any_eq_true, List.mem_map]
    exact exists_congr fun g => and_congr_right fun _ => beq_iff_eq
  simp only [← found]
  rfl

theorem distinct_lastOfEach (fields : List (String × Json)) : Distinct (lastOfEach fields) := by
  induction fields with
  | nil => exact List.nodup_nil
  | cons f fields ih =>
    rw [lastOfEach_cons]
    split
    · exact ih
    · rename_i new
      exact List.nodup_cons.2 ⟨new, ih⟩

theorem field?_lastOfEach : field? key (lastOfEach fields) = last? key fields := by
  induction fields with
  | nil => rfl
  | cons f fields ih =>
    rw [lastOfEach_cons, last?, ← ih]
    by_cases same : f.1 = key
    · rw [if_pos same, same]
      split
      · rename_i later
        cases found : field? key (lastOfEach fields) with
        | none => exact absurd later (field?_eq_none.1 found)
        | some v => rfl
      · rename_i last
        rw [field?_cons, if_pos same, field?_eq_none.2 last, Option.none_or]
    · rw [if_neg same, Option.or_none]
      split
      · rfl
      · rw [field?_cons, if_neg same]

theorem lastOfEach_of_distinct (distinct : Distinct fields) : lastOfEach fields = fields := by
  induction fields with
  | nil => rfl
  | cons f fields ih =>
    obtain ⟨new, distinct⟩ := List.nodup_cons.1 distinct
    rw [lastOfEach_cons, ih distinct, if_neg new]

/-- The last field of each key is kept. -/
theorem field?_sortedByKey : field? key (sortedByKey fields) = last? key fields := by
  rw [sortedByKey_eq, field?_of_perm (distinct_lastOfEach fields) (List.mergeSort_perm _ _),
    field?_lastOfEach]

theorem mem_lastOfEach (mem : f ∈ lastOfEach fields) : f ∈ fields := by
  induction fields with
  | nil => exact mem
  | cons g fields ih =>
    rw [lastOfEach_cons] at mem
    split at mem
    · exact List.mem_cons_of_mem g (ih mem)
    · rcases List.mem_cons.1 mem with rfl | later
      · exact List.mem_cons_self
      · exact List.mem_cons_of_mem g (ih later)

theorem mem_of_mem_sortedByKey (mem : f ∈ sortedByKey fields) : f ∈ fields :=
  mem_lastOfEach (List.mem_mergeSort.1 mem)

theorem ascending_sortedByKey (fields : List (String × Json)) : Ascending (sortedByKey fields) := by
  have sorted : (sortedByKey fields).Pairwise fun f g => decide (f.1 ≤ g.1) = true := by
    refine List.pairwise_mergeSort ?_ ?_ (lastOfEach fields)
    · intro f g h first second
      exact decide_eq_true
        (String.le_trans (of_decide_eq_true first) (of_decide_eq_true second))
    · intro f g
      rcases String.le_total f.1 g.1 with le | ge
      · simp [le]
      · simp [ge]
  have distinct : Distinct (sortedByKey fields) :=
    ((List.mergeSort_perm _ _).map Prod.fst).nodup_iff.2 (distinct_lastOfEach fields)
  refine (sorted.and (List.pairwise_map.1 distinct)).imp ?_
  rintro f g ⟨le, ne⟩
  rw [← String.not_le]
  exact fun ge => ne (String.le_antisymm (of_decide_eq_true le) ge)

theorem sortedByKey_of_ascending (ascending : Ascending fields) : sortedByKey fields = fields := by
  rw [sortedByKey_eq, lastOfEach_of_distinct ascending.distinct]
  refine List.mergeSort_of_pairwise (ascending.imp ?_)
  intro f g less
  refine decide_eq_true ((String.le_total f.1 g.1).resolve_right ?_)
  rwa [String.not_le]

/-! ## Canonical values -/

mutual

/-- The value is as reading leaves it at a depth: integers are exact, and the fields of each object
stand in the order of their keys. -/
def Canonical (depth : Nat) : Json → Prop
  | .int n => IsExact n
  | .float _ => False
  | .arr items => 1 < depth ∧ CanonicalItems (depth - 1) items
  | .obj fields => 1 < depth ∧ CanonicalFields (depth - 1) fields ∧ Ascending fields
  | _ => True

/-- So are the items of an array. -/
def CanonicalItems (depth : Nat) : List Json → Prop
  | [] => True
  | x :: items => Canonical depth x ∧ CanonicalItems depth items

/-- So are the values of fields. -/
def CanonicalFields (depth : Nat) : List (String × Json) → Prop
  | [] => True
  | (_, x) :: fields => Canonical depth x ∧ CanonicalFields depth fields

end

theorem entering_eq_ok {depth inner : Nat} :
    entering depth = .ok inner ↔ 1 < depth ∧ inner = depth - 1 := by
  unfold entering
  split
  · rename_i shallow
    simp only [reduceCtorEq, false_iff, not_and]
    omega
  · rename_i deep
    simp only [Except.ok.injEq, Nat.not_le.1 deep, true_and]
    exact eq_comm

theorem canonicalFields_iff {depth : Nat} :
    CanonicalFields depth fields ↔ ∀ f ∈ fields, Canonical depth f.2 := by
  induction fields with
  | nil => simp [CanonicalFields]
  | cons f fields ih => simp [CanonicalFields, ih]

mutual

/-- A canonical value is read from its own outline. -/
theorem any_docOf (depth : Nat) : (v : Json) → Canonical depth v → any depth (docOf v) = .ok v
  | .null, _ | .bool _, _ | .int _, _ | .str _, _ => by simp only [docOf, any]
  | .float _, canonical => canonical.elim
  | .arr items, ⟨deep, canonical⟩ => by
    rw [docOf, any, entering_eq_ok.2 ⟨deep, rfl⟩]
    simp [bind, Except.bind, anyItems_docsOf _ items canonical, closing, pure, Except.pure]
  | .obj fields, ⟨deep, canonical, ascending⟩ => by
    rw [docOf, any, entering_eq_ok.2 ⟨deep, rfl⟩]
    simp [bind, Except.bind, anyFields_docsOf _ fields canonical, closing, pure, Except.pure,
      sortedByKey_of_ascending ascending]

theorem anyItems_docsOf (depth : Nat) : (items : List Json) → CanonicalItems depth items →
    anyItems depth (docsOf items) = .ok items
  | [], _ => rfl
  | x :: items, ⟨first, others⟩ => by
    simp [docsOf, anyItems, any_docOf depth x first, anyItems_docsOf depth items others, bind,
      Except.bind, pure, Except.pure]

theorem anyFields_docsOf (depth : Nat) : (fields : List (String × Json)) →
    CanonicalFields depth fields → anyFields depth (docsOfFields fields) = .ok fields
  | [], _ => rfl
  | (key, x) :: fields, ⟨first, others⟩ => by
    simp [docsOfFields, anyFields, keyText, any_docOf depth x first,
      anyFields_docsOf depth fields others, bind, Except.bind, pure, Except.pure]

end

theorem exactFields_iff : ExactFields fields ↔ ∀ f ∈ fields, Exact f.2 := by
  induction fields with
  | nil => simp [ExactFields]
  | cons f fields ih => simp [ExactFields, ih]

mutual

theorem Canonical.exact {depth : Nat} : (v : Json) → Canonical depth v → Exact v
  | .null, _ | .bool _, _ | .str _, _ => trivial
  | .int _, exact => exact
  | .float _, canonical => canonical.elim
  | .arr items, ⟨_, canonical⟩ => CanonicalItems.exact items canonical
  | .obj fields, ⟨_, canonical, _⟩ => CanonicalFields.exact fields canonical

theorem CanonicalItems.exact {depth : Nat} :
    (items : List Json) → CanonicalItems depth items → ExactItems items
  | [], _ => trivial
  | x :: items, ⟨first, others⟩ => ⟨Canonical.exact x first, CanonicalItems.exact items others⟩

theorem CanonicalFields.exact {depth : Nat} :
    (fields : List (String × Json)) → CanonicalFields depth fields → ExactFields fields
  | [], _ => trivial
  | (_, x) :: fields, ⟨first, others⟩ =>
    ⟨Canonical.exact x first, CanonicalFields.exact fields others⟩

end

mutual

/-- What was read as a free value is canonical, if its numbers are. -/
theorem canonical_of_any (depth : Nat) : (doc : Doc) → (v : Json) →
    any depth doc = .ok v → Exact v → Canonical depth v
  | .null, v, read, exact => by
    cases read
    trivial
  | .bool b, v, read, exact => by
    cases read
    trivial
  | .num (.int n), v, read, exact => by
    cases read
    exact exact
  | .num (.float x), v, read, exact => by
    cases read
    exact exact
  | .num .tooLarge, v, read, exact => by cases read
  | .str (some s), v, read, exact => by
    cases read
    trivial
  | .str none, v, read, exact => by cases read
  | .arr items fault, v, read, exact => by
    simp only [any, Except.bind_eq_ok, Except.pure_eq_ok] at read
    obtain ⟨inner, enters, values, read, -, -, rfl⟩ := read
    obtain ⟨deep, rfl⟩ := entering_eq_ok.1 enters
    exact ⟨deep, canonicalItems_of_any _ items values read exact⟩
  | .obj fields fault, v, read, exact => by
    simp only [any, Except.bind_eq_ok, Except.pure_eq_ok] at read
    obtain ⟨inner, enters, values, read, -, -, rfl⟩ := read
    obtain ⟨deep, rfl⟩ := entering_eq_ok.1 enters
    refine ⟨deep, canonicalFields_iff.2 fun f mem => ?_, ascending_sortedByKey values⟩
    exact canonicalFields_of_any _ fields values read f (mem_of_mem_sortedByKey mem)
      (exactFields_iff.1 exact f mem)
  | .unquoted _, v, read, exact => by cases read
  | .broken _ _ _, v, read, exact => by cases read

theorem canonicalItems_of_any (depth : Nat) : (docs : List Doc) → (items : List Json) →
    anyItems depth docs = .ok items → ExactItems items → CanonicalItems depth items
  | [], items, read, exact => by
    cases read
    trivial
  | doc :: docs, items, read, exact => by
    simp only [anyItems, Except.bind_eq_ok, Except.pure_eq_ok] at read
    obtain ⟨x, first, others, read, rfl⟩ := read
    exact ⟨canonical_of_any depth doc x first exact.1,
      canonicalItems_of_any depth docs others read exact.2⟩

theorem canonicalFields_of_any (depth : Nat) : (docs : List (Doc × Doc)) →
    (fields : List (String × Json)) → anyFields depth docs = .ok fields →
    ∀ f ∈ fields, Exact f.2 → Canonical depth f.2
  | [], fields, read, f, mem, exact => by
    cases read
    cases mem
  | (key, doc) :: docs, fields, read, f, mem, exact => by
    simp only [anyFields, Except.bind_eq_ok, Except.pure_eq_ok] at read
    obtain ⟨name, -, x, first, others, read, rfl⟩ := read
    rcases List.mem_cons.1 mem with rfl | later
    · exact canonical_of_any depth doc x first exact
    · exact canonicalFields_of_any depth docs others read f later exact

end

end DoubleEntry.Json
