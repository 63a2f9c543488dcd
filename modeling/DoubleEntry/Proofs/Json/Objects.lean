import DoubleEntry.Proofs.Json.OpenRecords

/-!
# Which objects are open records

An open record is read from an object exactly if the whole object can be read as a free value, no
declared field comes twice, and the record can be built from what stands in the declared fields:
`openRecord_eq_ok`, and `exists_openRecord_eq_ok` for the declared fields alone.
-/

namespace DoubleEntry.Json

variable {α : Type} {r : Record α} {slots : List (String × Reader Unit)} {depth : Nat}
variable {name first : String} {key doc : Doc} {docs : List (Doc × Doc)}
variable {seen : List String} {v : Json} {all : List (String × Json)}

/-- What the readers of the declared fields find passes. -/
def Passes (slots : List (String × Reader Unit)) (depth : Nat) (docs : List (Doc × Doc)) : Prop :=
  ∀ name reader, slots.lookup name = some reader →
    ∀ doc, fieldDoc? docs name = some doc → reader depth doc = .ok ()

theorem fieldDoc?_cons : fieldDoc? ((.str (some first), doc) :: docs) name =
    if first = name then some doc else fieldDoc? docs name := by
  by_cases same : first = name
  · simp [fieldDoc?, same]
  · have differs : (first == name) = false := beq_eq_false_iff_ne.2 same
    simp [fieldDoc?, same, differs]

theorem fieldDoc?_eq_none (read : anyFields depth docs = .ok all)
    (missing : name ∉ all.map Prod.fst) : fieldDoc? docs name = none := by
  cases found : fieldDoc? docs name with
  | none => rfl
  | some doc =>
    obtain ⟨v, -, there⟩ := (fieldDoc?_of_anyFields docs read).2 doc found
    rw [field?_eq_none.2 missing] at there
    cases there

/-- The first field passes by itself, and the others after it. -/
theorem checkFields_cons_of_fresh {other : Doc → Except Defect Unit}
    (known : ∀ reader, slots.lookup first = some reader →
      first ∉ seen ∧ reader depth doc = .ok ())
    (unknown : slots.lookup first = none → other doc = .ok ())
    (passed : checkFields slots other depth (first :: seen) docs = .ok ()) :
    checkFields slots other depth seen ((.str (some first), doc) :: docs) = .ok () := by
  rw [checkFields]
  refine Except.bind_eq_ok.2 ⟨first, rfl, ?_⟩
  cases slot : slots.lookup first with
  | none => simp only [unknown slot, passed, bind, Except.bind]
  | some reader =>
    obtain ⟨fresh, read⟩ := known reader slot
    simp only [fresh, read, passed, if_false, bind, Except.bind]

/-- Going through the fields of an object succeeds if they are free values, the declared ones come
once, and what they hold passes. -/
theorem checkFields_of_once (docs : List (Doc × Doc)) (read : anyFields depth docs = .ok all)
    (once : Once slots seen all) (passes : Passes slots depth docs) :
    checkFields slots (passAny depth) depth seen docs = .ok () := by
  induction docs generalizing seen all with
  | nil => rfl
  | cons f docs ih =>
    obtain ⟨key, doc⟩ := f
    obtain ⟨first, v, rest, rfl, value, others, rfl⟩ := anyFields_cons read
    obtain ⟨new, later⟩ := once_cons.1 once
    refine checkFields_cons_of_fresh (fun reader slot => ?_) (fun _ => passAny_eq_ok.2 ⟨v, value⟩)
      (ih others later fun name reader slot found there => ?_)
    · have declared : slots.lookup first ≠ none := by simp [slot]
      exact ⟨new declared, passes first reader slot doc (fieldDoc?_cons.trans (if_pos rfl))⟩
    · have declared : slots.lookup name ≠ none := by simp [slot]
      by_cases same : first = name
      · -- The field does not come again.
        have missing := (later name declared).1 (same ▸ List.mem_cons_self)
        rw [fieldDoc?_eq_none others missing] at there
        cases there
      · exact passes name reader slot found (fieldDoc?_cons.trans ((if_neg same).trans there))

theorem passes_of_build {x : α} (regular : r.Regular)
    (built : r.build depth (fieldDoc? docs) = .ok x) : Passes r.slots depth docs := by
  intro name reader slot doc there
  obtain ⟨before, after, split, -⟩ := List.lookup_eq_some_iff.1 slot
  exact regular built (name, reader) (by rw [split]; simp) doc there

/-- **Which objects are open records.** -/
theorem openRecord_eq_ok (free : r.Free) (regular : r.Regular) {x : α}
    {others : List (String × Json)} :
    openRecord r depth doc = .ok (x, others) ↔
      ∃ docs all, doc = .obj docs none ∧ 1 < depth ∧ anyFields (depth - 1) docs = .ok all ∧
        Once r.slots [] all ∧ r.build (depth - 1) (fieldDoc? docs) = .ok x ∧
        others = sortedByKey (all.filter fun f => (r.slots.lookup f.1).isNone) := by
  constructor
  · intro read
    cases doc with
    | obj docs fault =>
      simp only [openRecord, Except.bind_eq_ok] at read
      obtain ⟨inner, entered, ⟨⟩, passed, ⟨⟩, closed, value, built, kept, filtered, done⟩ := read
      cases done
      obtain ⟨deep, rfl⟩ := entering_eq_ok.1 entered
      obtain ⟨all, values⟩ := anyFields_of_checkFields free docs passed
      have known := anyFields_filter (fun name => (r.slots.lookup name).isNone) docs values
      cases known.symm.trans filtered
      cases fault with
      | some d => cases closed
      | none =>
        have once := once_of_checkFields docs values passed
        exact ⟨docs, all, rfl, deep, values, once, built, rfl⟩
    | _ => cases read
  · rintro ⟨docs, all, rfl, deep, values, once, built, rfl⟩
    have passed := checkFields_of_once docs values once (passes_of_build regular built)
    have known := anyFields_filter (fun name => (r.slots.lookup name).isNone) docs values
    rw [openRecord]
    refine Except.bind_eq_ok.2 ⟨_, entering_eq_ok.2 ⟨deep, rfl⟩, Except.bind_eq_ok.2 ⟨(), passed,
      Except.bind_eq_ok.2 ⟨(), rfl, Except.bind_eq_ok.2 ⟨x, built, Except.bind_eq_ok.2
        ⟨_, known, rfl⟩⟩⟩⟩⟩

/-- An outline is an object with these fields: all of them can be read as free values, and none of
the names comes twice. -/
structure ObjectWith (names : List String) (depth : Nat) (doc : Doc) (docs : List (Doc × Doc)) :
    Prop where
  whole : doc = .obj docs none
  fields : ∃ all, anyFields depth docs = .ok all ∧
    ∀ name ∈ names, (all.map Prod.fst).count name ≤ 1

theorem once_iff :
    Once slots [] all ↔ ∀ name ∈ slots.map Prod.fst, (all.map Prod.fst).count name ≤ 1 := by
  simp only [Once, ne_eq, lookup_eq_none, Decidable.not_not, List.not_mem_nil, false_implies,
    true_and]

/-- **What open records say in the fields that they declare.** -/
theorem exists_openRecord_eq_ok (free : r.Free) (regular : r.Regular) (deep : 1 < depth) {x : α} :
    (∃ others, openRecord r depth doc = .ok (x, others)) ↔
      ∃ docs, ObjectWith (r.slots.map Prod.fst) (depth - 1) doc docs ∧
        r.build (depth - 1) (fieldDoc? docs) = .ok x := by
  constructor
  · rintro ⟨others, read⟩
    obtain ⟨docs, all, whole, -, values, once, built, -⟩ :=
      (openRecord_eq_ok free regular).1 read
    exact ⟨docs, ⟨whole, all, values, once_iff.1 once⟩, built⟩
  · rintro ⟨docs, ⟨whole, all, values, few⟩, built⟩
    exact ⟨_, (openRecord_eq_ok free regular).2
      ⟨docs, all, whole, deep, values, once_iff.2 few, built, rfl⟩⟩

end DoubleEntry.Json
