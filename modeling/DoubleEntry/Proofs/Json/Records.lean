import DoubleEntry.Proofs.Json.Canonical

/-!
# Records read back

How a record is built from what stands in its fields (`build_seq`, `build_field`, `build_fieldOr`),
and what it takes for the outline of an object to be read as a record: no field comes twice, and the
record can be built (`record_docOf`, `openRecord_docOf`).
-/

namespace DoubleEntry.Json

variable {α β : Type} {depth : Nat} {name : String} {doc : Doc} {value : String → Option Doc}

/-! ## Single values -/

/-- What is read as an integer was written as one, and lies between the bounds. -/
theorem integer_eq_ok {low high n : Int} :
    integer low high depth doc = .ok n ↔ doc = .num (.int n) ∧ low ≤ n ∧ n ≤ high := by
  unfold integer
  split
  · rename_i m
    split
    · rename_i fits
      simp only [Except.ok.injEq, Doc.num.injEq, Numeral.int.injEq]
      exact ⟨fun same => ⟨same, same ▸ fits⟩, And.left⟩
    · rename_i off
      simp only [reduceCtorEq, Doc.num.injEq, Numeral.int.injEq, false_iff]
      rintro ⟨rfl, fits⟩
      exact off fits
  · rename_i other
    simp only [reduceCtorEq, false_iff]
    rintro ⟨rfl, -⟩
    exact other n rfl

theorem optional_of_ne_null {reader : Reader α} (filled : doc ≠ .null) :
    optional reader depth doc = (reader depth doc).map some := by
  cases doc <;> first | rfl | exact absurd rfl filled

/-! ## Building a record -/

namespace Record

theorem build_seq {r : Record (α → β)} {x : Record α} {b : β} :
    (r <*> x).build depth value = .ok b ↔
      ∃ g, r.build depth value = .ok g ∧ ∃ a, x.build depth value = .ok a ∧ g a = b := by
  simp only [Seq.seq, Except.bind_eq_ok, Except.pure_eq_ok]

theorem build_map {g : α → β} {x : Record α} {b : β} :
    (g <$> x).build depth value = .ok b ↔ ∃ a, x.build depth value = .ok a ∧ g a = b := by
  show (do let h ← Except.ok g; let a ← x.build depth value; pure (h a)) = _ ↔ _
  simp only [Except.bind_eq_ok, Except.pure_eq_ok, Except.ok.injEq, exists_eq_left']

theorem build_field {reader : Reader α} {a : α} :
    (field name reader).build depth value = .ok a ↔
      ∃ doc, value name = some doc ∧ reader depth doc = .ok a := by
  cases there : value name <;> simp [field, there]

theorem build_fieldOr {reader : Reader α} {default a : α} :
    (fieldOr name default reader).build depth value = .ok a ↔
      (value name = none ∧ default = a) ∨
        ∃ doc, value name = some doc ∧ reader depth doc = .ok a := by
  cases there : value name <;> simp [fieldOr, there]

theorem build_map_field {g : α → β} {reader : Reader α} {a : α} (there : value name = some doc)
    (read : reader depth doc = .ok a) : (g <$> field name reader).build depth value = .ok (g a) :=
  build_map.2 ⟨a, build_field.2 ⟨doc, there, read⟩, rfl⟩

theorem build_map_fieldOr {g : α → β} {default : α} {reader : Reader α} {a : α}
    (there : value name = some doc) (read : reader depth doc = .ok a) :
    (g <$> fieldOr name default reader).build depth value = .ok (g a) :=
  build_map.2 ⟨a, build_fieldOr.2 (.inr ⟨doc, there, read⟩), rfl⟩

theorem build_seq_field {r : Record (α → β)} {g : α → β} {reader : Reader α} {a : α}
    (built : r.build depth value = .ok g) (there : value name = some doc)
    (read : reader depth doc = .ok a) : (r <*> field name reader).build depth value = .ok (g a) :=
  build_seq.2 ⟨g, built, a, build_field.2 ⟨doc, there, read⟩, rfl⟩

theorem build_seq_fieldOr {r : Record (α → β)} {g : α → β} {default : α} {reader : Reader α} {a : α}
    (built : r.build depth value = .ok g) (there : value name = some doc)
    (read : reader depth doc = .ok a) :
    (r <*> fieldOr name default reader).build depth value = .ok (g a) :=
  build_seq.2 ⟨g, built, a, build_fieldOr.2 (.inr ⟨doc, there, read⟩), rfl⟩

theorem build_seq_missing {r : Record (α → β)} {g : α → β} {default : α} {reader : Reader α}
    (built : r.build depth value = .ok g) (missing : value name = none) :
    (r <*> fieldOr name default reader).build depth value = .ok (g default) :=
  build_seq.2 ⟨g, built, default, build_fieldOr.2 (.inl ⟨missing, rfl⟩), rfl⟩

/-- Where the record can be built, each field on its own can be read. -/
def Regular (r : Record α) : Prop :=
  ∀ ⦃depth value a⦄, r.build depth value = .ok a →
    ∀ s ∈ r.slots, ∀ doc, value s.1 = some doc → s.2 depth doc = .ok ()

theorem regular_field (reader : Reader α) : (field name reader).Regular := by
  intro depth value a built s slot doc there
  obtain ⟨doc', there', read⟩ := build_field.1 built
  cases List.mem_singleton.1 slot
  cases there.symm.trans there'
  simp [read, bind, Except.bind, pure, Except.pure]

theorem regular_fieldOr (default : α) (reader : Reader α) :
    (fieldOr name default reader).Regular := by
  intro depth value a built s slot doc there
  cases List.mem_singleton.1 slot
  rcases build_fieldOr.1 built with ⟨missing, -⟩ | ⟨doc', there', read⟩
  · cases there.symm.trans missing
  · cases there.symm.trans there'
    simp [read, bind, Except.bind, pure, Except.pure]

theorem Regular.seq {r : Record (α → β)} {x : Record α} (first : r.Regular) (second : x.Regular) :
    (r <*> x).Regular := by
  intro depth value b built s slot doc there
  obtain ⟨g, built, a, built', -⟩ := build_seq.1 built
  rcases List.mem_append.1 slot with early | late
  · exact first built s early doc there
  · exact second built' s late doc there

theorem Regular.seq_field {r : Record (α → β)} {reader : Reader α} (first : r.Regular) :
    (r <*> field name reader).Regular :=
  first.seq (regular_field reader)

theorem Regular.seq_fieldOr {r : Record (α → β)} {default : α} {reader : Reader α}
    (first : r.Regular) : (r <*> fieldOr name default reader).Regular :=
  first.seq (regular_fieldOr default reader)

theorem Regular.map {g : α → β} {x : Record α} (regular : x.Regular) : (g <$> x).Regular := by
  intro depth value b built s slot doc there
  obtain ⟨a, built, -⟩ := build_map.1 built
  exact regular built s slot doc there

end Record

/-! ## Objects as records -/

variable {fields : List (String × Json)} {r : Record α}

theorem docsOfFields_eq (fields : List (String × Json)) :
    docsOfFields fields = fields.map fun f => (.str (some f.1), docOf f.2) := by
  induction fields with
  | nil => rfl
  | cons f fields ih => rw [docsOfFields, ih, List.map_cons]

theorem fieldDoc?_docsOfFields :
    fieldDoc? (docsOfFields fields) name = (field? name fields).map docOf := by
  induction fields with
  | nil => rfl
  | cons f fields ih =>
    rw [field?_cons]
    by_cases same : f.1 = name
    · simp [docsOfFields, fieldDoc?, same]
    · have other : (f.1 == name) = false := beq_eq_false_iff_ne.2 same
      rw [if_neg same, ← ih]
      simp [docsOfFields, fieldDoc?, other]

mutual

/-- The outline of a value can be skipped. -/
theorem skip_docOf : (v : Json) → skip (docOf v) = .ok ()
  | .null | .bool _ | .int _ | .float _ | .str _ => by simp only [docOf, skip]
  | .arr items => by
    rw [docOf, skip, skipItems_docsOf items]
    rfl
  | .obj fields => by
    rw [docOf, skip, skipFields_docsOf fields]
    rfl

theorem skipItems_docsOf : (items : List Json) → skipItems (docsOf items) = .ok ()
  | [] => rfl
  | x :: items => by
    rw [docsOf, skipItems, skip_docOf x]
    exact skipItems_docsOf items

theorem skipFields_docsOf :
    (fields : List (String × Json)) → skipFields (docsOfFields fields) = .ok ()
  | [] => rfl
  | (key, x) :: fields => by
    simp only [docsOfFields, skipFields, skip, skip_docOf x, bind, Except.bind]
    exact skipFields_docsOf fields

end

/-- The fields of an object pass, if no key comes twice and each value passes. -/
theorem checkFields_docsOfFields {slots : List (String × Reader Unit)}
    {other : Doc → Except Defect Unit} (distinct : Distinct fields)
    (known : ∀ f ∈ fields, ∀ reader, slots.lookup f.1 = some reader →
      reader depth (docOf f.2) = .ok ())
    (unknown : ∀ f ∈ fields, slots.lookup f.1 = none → other (docOf f.2) = .ok ())
    (seen : List String) (new : ∀ f ∈ fields, f.1 ∉ seen) :
    checkFields slots other depth seen (docsOfFields fields) = .ok () := by
  induction fields generalizing seen with
  | nil => rfl
  | cons f fields ih =>
    obtain ⟨once, distinct⟩ := List.nodup_cons.1 distinct
    have others := ih distinct (fun g mem => known g (List.mem_cons_of_mem f mem))
      (fun g mem => unknown g (List.mem_cons_of_mem f mem)) (f.1 :: seen) (by
        intro g mem
        rw [List.mem_cons, not_or]
        refine ⟨fun same => once ?_, new g (List.mem_cons_of_mem f mem)⟩
        exact same ▸ List.mem_map_of_mem mem)
    have fresh : f.1 ∉ seen := new f List.mem_cons_self
    obtain ⟨key, x⟩ := f
    rw [docsOfFields, checkFields]
    cases slot : slots.lookup key with
    | some reader =>
      have read := known (key, x) List.mem_cons_self reader slot
      simp only [keyText, slot, fresh, read, others, bind, Except.bind, if_false]
    | none =>
      have passed := unknown (key, x) List.mem_cons_self slot
      simp only [keyText, slot, passed, others, bind, Except.bind]

/-- The value of each field, from the fields of an object. -/
def valueIn (fields : List (String × Json)) (name : String) : Option Doc :=
  (field? name fields).map docOf

theorem known_of_regular (regular : r.Regular) {a : α} (distinct : Distinct fields)
    (built : r.build depth (valueIn fields) = .ok a) (f : String × Json) (mem : f ∈ fields)
    (reader : Reader Unit) (slot : r.slots.lookup f.1 = some reader) :
    reader depth (docOf f.2) = .ok () := by
  obtain ⟨before, after, split, -⟩ := List.lookup_eq_some_iff.1 slot
  refine regular built (f.1, reader) (by rw [split]; simp) (docOf f.2) ?_
  rw [valueIn, (field?_eq_some distinct).2 mem, Option.map_some]

/-- **An object is read as a record** that can be built from its fields. -/
theorem record_docOf (regular : r.Regular) {a : α} (distinct : Distinct fields)
    (deep : 1 < depth) (built : r.build (depth - 1) (valueIn fields) = .ok a) :
    record r depth (docOf (.obj fields)) = .ok a := by
  have entered : entering depth = .ok (depth - 1) := entering_eq_ok.2 ⟨deep, rfl⟩
  have checked := checkFields_docsOfFields distinct (known_of_regular regular distinct built)
    (fun f _ _ => skip_docOf f.2) [] (fun _ _ => List.not_mem_nil)
  have same : fieldDoc? (docsOfFields fields) = valueIn fields :=
    funext fun name => fieldDoc?_docsOfFields
  simp only [docOf, record, entered, checked, closing, same, built, bind, Except.bind]

/-- **An object is read as an open record**, and its other fields are kept. -/
theorem openRecord_docOf (regular : r.Regular) {a : α} (distinct : Distinct fields)
    (deep : 1 < depth) (built : r.build (depth - 1) (valueIn fields) = .ok a)
    (others : ∀ f ∈ fields, r.slots.lookup f.1 = none → Canonical (depth - 1) f.2) :
    openRecord r depth (docOf (.obj fields)) =
      .ok (a, sortedByKey (fields.filter fun f => (r.slots.lookup f.1).isNone)) := by
  have entered : entering depth = .ok (depth - 1) := entering_eq_ok.2 ⟨deep, rfl⟩
  have checked : checkFields r.slots (fun doc => do let _ ← any (depth - 1) doc) (depth - 1) []
      (docsOfFields fields) = .ok () :=
    checkFields_docsOfFields distinct (known_of_regular regular distinct built)
      (fun f mem slot => by
        simp [any_docOf _ f.2 (others f mem slot), bind, Except.bind, pure, Except.pure])
      [] (fun _ _ => List.not_mem_nil)
  have same : fieldDoc? (docsOfFields fields) = valueIn fields :=
    funext fun name => fieldDoc?_docsOfFields
  have read := anyFields_docsOf (depth - 1)
    (fields.filter fun f => (r.slots.lookup f.1).isNone) (canonicalFields_iff.2 fun f mem => by
      obtain ⟨there, slot⟩ := List.mem_filter.1 mem
      exact others f there (Option.isNone_iff_eq_none.1 slot))
  rw [docOf, openRecord, same]
  refine Except.bind_eq_ok.2 ⟨_, entered, Except.bind_eq_ok.2 ⟨(), checked, Except.bind_eq_ok.2
    ⟨(), rfl, Except.bind_eq_ok.2 ⟨a, built, Except.bind_eq_ok.2 ⟨_, ?_, rfl⟩⟩⟩⟩⟩
  rw [docsOfFields_eq] at read
  rw [docsOfFields_eq, List.filter_map]
  exact read

/-- What is read as a record was built. -/
theorem built_of_record {a : α} (read : record r depth doc = .ok a) :
    ∃ depth value, r.build depth value = .ok a := by
  cases doc with
  | obj fields fault =>
    simp only [record, Except.bind_eq_ok] at read
    obtain ⟨inner, -, -, -, -, -, built⟩ := read
    exact ⟨_, _, built⟩
  | arr items fault =>
    simp only [record, Except.bind_eq_ok] at read
    obtain ⟨inner, -, -, -, built⟩ := read
    exact ⟨_, _, built⟩
  | _ => cases read

end DoubleEntry.Json
