import DoubleEntry.Proofs.Json.Records

/-!
# What an open record keeps

An object that was read as an open record can be read as a free value as well, and the fields that
the record does not declare are in both (`opened_of_openRecord`).  The other way round, declared
fields followed by such `Leftover` ones are read as the open record again
(`openRecord_known_append`).
-/

namespace DoubleEntry.Json

variable {α : Type} {r : Record α} {slots : List (String × Reader Unit)} {depth : Nat}
variable {name first : String} {key doc : Doc} {docs : List (Doc × Doc)}
variable {seen : List String} {v : Json} {all : List (String × Json)}

theorem lookup_eq_none : slots.lookup name = none ↔ name ∉ slots.map Prod.fst := by
  simp only [List.lookup_eq_none_iff, List.mem_map, not_exists, not_and, bne_iff_ne]
  exact forall₂_congr fun s _ => ne_comm

/-! ## Values of a given form as free values -/

/-- What the reader takes is a free value too. -/
def TakesFree (reader : Reader α) : Prop :=
  ∀ ⦃depth doc a⦄, reader depth doc = .ok a → ∃ v, any depth doc = .ok v

theorem takesFree_integer (low high : Int) : TakesFree (integer low high) := by
  intro depth doc n read
  obtain ⟨rfl, -⟩ := integer_eq_ok.1 read
  exact ⟨.int n, rfl⟩

theorem takesFree_string : TakesFree string := by
  intro depth doc s read
  unfold string at read
  split at read
  · rename_i t
    exact ⟨.str t, rfl⟩
  · cases read

theorem takesFree_optional {reader : Reader α} (free : TakesFree reader) :
    TakesFree (optional reader) := by
  intro depth doc a read
  by_cases null : doc = .null
  · subst null
    exact ⟨.null, rfl⟩
  · rw [optional_of_ne_null null] at read
    obtain ⟨x, read, -⟩ := Except.map_eq_ok.1 read
    exact free read

/-- Whatever the declared fields take is a free value too. -/
def Record.Free (r : Record α) : Prop :=
  ∀ s ∈ r.slots, TakesFree s.2

theorem Record.free_fieldOr {default : α} {reader : Reader α} (free : TakesFree reader) :
    (fieldOr name default reader).Free := by
  intro s slot depth doc _ read
  cases List.mem_singleton.1 slot
  obtain ⟨a, read, -⟩ := Except.bind_eq_ok.1 read
  exact free read

theorem Record.Free.seq_fieldOr {β : Type} {r : Record (α → β)} {default : α} {reader : Reader α}
    (first : r.Free) (free : TakesFree reader) : (r <*> fieldOr name default reader).Free :=
  fun s slot => (List.mem_append.1 slot).elim (first s) (free_fieldOr free s)

theorem Record.Free.map {β : Type} {g : α → β} {x : Record α} (free : x.Free) : (g <$> x).Free :=
  free

/-! ## Fields one by one -/

theorem keyText_eq_ok : keyText key = .ok name ↔ key = .str (some name) := by
  unfold keyText
  split <;> simp_all

/-- What the first field must be for all fields to pass. -/
theorem checkFields_cons {other : Doc → Except Defect Unit} {seen : List String}
    (passed : checkFields slots other depth seen ((key, doc) :: docs) = .ok ()) :
    ∃ name, key = .str (some name) ∧
      (∀ reader, slots.lookup name = some reader → name ∉ seen ∧ reader depth doc = .ok ()) ∧
      (slots.lookup name = none → other doc = .ok ()) ∧
      checkFields slots other depth (name :: seen) docs = .ok () := by
  rw [checkFields] at passed
  obtain ⟨name, named, passed⟩ := Except.bind_eq_ok.1 passed
  refine ⟨name, keyText_eq_ok.1 named, ?_⟩
  cases slot : slots.lookup name with
  | none =>
    simp only [slot, Except.bind_eq_ok] at passed
    obtain ⟨⟨⟩, skipped, passed⟩ := passed
    exact ⟨by rintro _ ⟨⟩, fun _ => skipped, passed⟩
  | some reader =>
    simp only [slot] at passed
    by_cases again : name ∈ seen
    · simp [again, bind, Except.bind] at passed
    · simp only [again, if_false, Except.bind_eq_ok] at passed
      obtain ⟨⟨⟩, read, passed⟩ := passed
      refine ⟨?_, by rintro ⟨⟩, passed⟩
      rintro _ ⟨⟩
      exact ⟨again, read⟩

/-- Reading a free value without keeping it. -/
def passAny (depth : Nat) (doc : Doc) : Except Defect Unit := do
  let _ ← any depth doc

theorem passAny_eq_ok : passAny depth doc = .ok () ↔ ∃ v, any depth doc = .ok v := by
  cases read : any depth doc <;> simp [passAny, read, bind, Except.bind, pure, Except.pure]

theorem anyFields_of_checkFields (free : r.Free) (docs : List (Doc × Doc)) {seen : List String}
    (passed : checkFields r.slots (passAny depth) depth seen docs = .ok ()) :
    ∃ all, anyFields depth docs = .ok all := by
  induction docs generalizing seen with
  | nil => exact ⟨[], rfl⟩
  | cons f docs ih =>
    obtain ⟨key, doc⟩ := f
    obtain ⟨name, rfl, known, unknown, passed⟩ := checkFields_cons passed
    obtain ⟨all, others⟩ := ih passed
    obtain ⟨v, read⟩ : ∃ v, any depth doc = .ok v := by
      cases slot : r.slots.lookup name with
      | none => exact passAny_eq_ok.1 (unknown slot)
      | some reader =>
        obtain ⟨before, after, split, -⟩ := List.lookup_eq_some_iff.1 slot
        exact free (name, reader) (by rw [split]; simp) (known reader slot).2
    exact ⟨(name, v) :: all, by simp [anyFields, keyText, read, others, bind, Except.bind, pure,
      Except.pure]⟩

theorem anyFields_cons (read : anyFields depth ((key, doc) :: docs) = .ok all) :
    ∃ name v rest, key = .str (some name) ∧ any depth doc = .ok v ∧
      anyFields depth docs = .ok rest ∧ all = (name, v) :: rest := by
  simp only [anyFields, Except.bind_eq_ok, Except.pure_eq_ok] at read
  obtain ⟨name, named, v, read, rest, others, rfl⟩ := read
  exact ⟨name, v, rest, keyText_eq_ok.1 named, read, others, rfl⟩

/-- No declared field comes twice, or again after it was seen. -/
def Once (slots : List (String × Reader Unit)) (seen : List String)
    (all : List (String × Json)) : Prop :=
  ∀ name, slots.lookup name ≠ none →
    (name ∈ seen → name ∉ all.map Prod.fst) ∧ (all.map Prod.fst).count name ≤ 1

theorem once_nil : Once slots seen [] :=
  fun _ _ => ⟨fun _ => List.not_mem_nil, Nat.zero_le 1⟩

theorem once_cons : Once slots seen ((first, v) :: all) ↔
    (slots.lookup first ≠ none → first ∉ seen) ∧ Once slots (first :: seen) all := by
  constructor
  · intro once
    refine ⟨fun declared mem => (once first declared).1 mem (by simp), fun name declared => ?_⟩
    obtain ⟨fresh, few⟩ := once name declared
    rw [List.map_cons, List.count_cons] at few
    refine ⟨fun mem later => ?_, by omega⟩
    rcases List.mem_cons.1 mem with rfl | mem
    · have again := List.count_pos_iff.2 later
      rw [if_pos (beq_self_eq_true _)] at few
      omega
    · exact fresh mem (List.mem_cons_of_mem _ later)
  · rintro ⟨new, once⟩ name declared
    obtain ⟨fresh, few⟩ := once name declared
    rw [List.map_cons, List.mem_cons, not_or, List.count_cons]
    by_cases same : first = name
    · subst same
      have none := List.count_eq_zero.2 (fresh List.mem_cons_self)
      refine ⟨fun mem => absurd mem (new declared), ?_⟩
      rw [if_pos (beq_self_eq_true _)]
      omega
    · refine ⟨fun mem => ⟨Ne.symm same, fresh (List.mem_cons_of_mem _ mem)⟩, ?_⟩
      rw [if_neg (by simpa using same)]
      exact few

/-- Where the fields pass, no declared one comes twice. -/
theorem once_of_checkFields (docs : List (Doc × Doc)) (read : anyFields depth docs = .ok all)
    (passed : checkFields slots (passAny depth) depth seen docs = .ok ()) :
    Once slots seen all := by
  induction docs generalizing seen all with
  | nil =>
    cases read
    exact once_nil
  | cons f docs ih =>
    obtain ⟨key, doc⟩ := f
    obtain ⟨first, v, rest, rfl, -, others, rfl⟩ := anyFields_cons read
    obtain ⟨_, ⟨⟩, fresh, -, passed⟩ := checkFields_cons passed
    refine once_cons.2 ⟨fun declared => ?_, ih others passed⟩
    obtain ⟨reader, slot⟩ := Option.ne_none_iff_exists'.1 declared
    exact (fresh reader slot).1

/-- The outlines and the free values of the fields stand under the same names. -/
theorem fieldDoc?_of_anyFields (docs : List (Doc × Doc)) (read : anyFields depth docs = .ok all) :
    (fieldDoc? docs name = none → field? name all = none) ∧
      ∀ doc, fieldDoc? docs name = some doc →
        ∃ v, any depth doc = .ok v ∧ field? name all = some v := by
  induction docs generalizing all with
  | nil =>
    cases read
    exact ⟨fun _ => rfl, by rintro _ ⟨⟩⟩
  | cons f docs ih =>
    obtain ⟨key, doc⟩ := f
    obtain ⟨first, v, rest, rfl, value, others, rfl⟩ := anyFields_cons read
    by_cases same : first = name
    · have found : fieldDoc? ((.str (some first), doc) :: docs) name = some doc := by
        simp [fieldDoc?, same]
      rw [found, field?_cons, if_pos same]
      refine ⟨by rintro ⟨⟩, ?_⟩
      rintro _ ⟨⟩
      exact ⟨v, value, rfl⟩
    · have differs : (first == name) = false := beq_eq_false_iff_ne.2 same
      have later : fieldDoc? ((.str (some first), doc) :: docs) name = fieldDoc? docs name := by
        simp [fieldDoc?, differs]
      rw [later, field?_cons, if_neg same]
      exact ih others

theorem anyFields_filter (p : String → Bool) (docs : List (Doc × Doc))
    (read : anyFields depth docs = .ok all) :
    anyFields depth (docs.filter fun f => match f.1 with
      | .str (some name) => p name
      | _ => false) = .ok (all.filter fun f => p f.1) := by
  induction docs generalizing all with
  | nil =>
    cases read
    rfl
  | cons f docs ih =>
    obtain ⟨key, doc⟩ := f
    obtain ⟨first, v, rest, rfl, value, others, rfl⟩ := anyFields_cons read
    cases keeps : p first <;>
      simp [keeps, anyFields, keyText, value, ih others, bind, Except.bind, pure,
        Except.pure]

/-! ## The fields that are left over -/

/-- Fields that a record does not declare, as reading leaves them. -/
structure Leftover (r : Record α) (depth : Nat) (others : List (String × Json)) : Prop where
  ascending : Ascending others
  unknown : ∀ f ∈ others, r.slots.lookup f.1 = none
  canonical : ∀ f ∈ others, Canonical depth f.2

theorem Leftover.nil : Leftover r depth [] :=
  ⟨.nil, nofun, nofun⟩

theorem Leftover.field?_eq_none {others : List (String × Json)} (leftover : Leftover r depth others)
    (declared : r.slots.lookup name ≠ none) : field? name others = none :=
  Json.field?_eq_none.2 fun mem => by
    obtain ⟨f, inside, rfl⟩ := List.mem_map.1 mem
    exact declared (leftover.unknown f inside)

/-- What reading an open record takes from an object, next to the fields of the object as free
values. -/
structure Opened (r : Record α) (depth : Nat) (doc : Doc) (x : α)
    (fields others : List (String × Json)) : Prop where
  whole : any depth doc = .ok (.obj fields)
  ascending : Ascending fields
  built : ∃ value, r.build (depth - 1) value = .ok x ∧ ∀ name, r.slots.lookup name ≠ none →
    (value name = none → field? name fields = none) ∧
      ∀ doc, value name = some doc → ∃ v, any (depth - 1) doc = .ok v ∧ field? name fields = some v
  kept : ∀ name, r.slots.lookup name = none → field? name others = field? name fields
  leftover : ExactFields fields → Leftover r (depth - 1) others

theorem field?_unknown {fields : List (String × Json)} (unknown : r.slots.lookup name = none) :
    field? name (sortedByKey (fields.filter fun f => (r.slots.lookup f.1).isNone)) =
      field? name (sortedByKey fields) := by
  rw [field?_sortedByKey, field?_sortedByKey]
  refine last?_filter fun f same => ?_
  rw [same, unknown]
  rfl

/-- **An open record is a free value**, and its other fields are among those of this value. -/
theorem opened_of_openRecord (free : r.Free) {x : α} {others : List (String × Json)}
    (read : openRecord r depth doc = .ok (x, others)) :
    ∃ fields, Opened r depth doc x fields others := by
  cases doc with
  | obj docs fault =>
    simp only [openRecord, Except.bind_eq_ok] at read
    obtain ⟨inner, entered, ⟨⟩, passed, ⟨⟩, closed, value, built, kept, filtered, done⟩ := read
    cases done
    obtain ⟨deep, rfl⟩ := entering_eq_ok.1 entered
    obtain ⟨all, values⟩ := anyFields_of_checkFields free docs passed
    have known := anyFields_filter (fun name => (r.slots.lookup name).isNone) docs values
    cases known.symm.trans filtered
    have unknown : ∀ f ∈ sortedByKey (all.filter fun f => (r.slots.lookup f.1).isNone),
        r.slots.lookup f.1 = none := fun f mem =>
      Option.isNone_iff_eq_none.1 (List.mem_filter.1 (mem_of_mem_sortedByKey mem)).2
    refine ⟨sortedByKey all, ?_, ascending_sortedByKey all, ⟨_, built, fun name known => ?_⟩,
      fun name => field?_unknown, fun exact => ?_⟩
    · simp [any, entered, values, closed, bind, Except.bind, pure, Except.pure]
    · rw [field?_sortedByKey, last?_of_once (once_of_checkFields docs values passed name known).2]
      exact fieldDoc?_of_anyFields docs values
    · -- A field that is left over is the last of its name in the whole object too, so its value is
      -- one of those that are exact.
      refine ⟨ascending_sortedByKey _, unknown, fun f mem => ?_⟩
      have found := (field?_eq_some (ascending_sortedByKey _).distinct).2 mem
      rw [field?_unknown (unknown f mem),
        field?_eq_some (ascending_sortedByKey _).distinct] at found
      exact canonicalFields_of_any _ docs all values f (mem_of_mem_sortedByKey found)
        (exactFields_iff.1 exact f found)
  | _ => cases read

/-- Declared fields. -/
structure Known (r : Record α) (known : List (String × Json)) : Prop where
  distinct : Distinct known
  declared : ∀ f ∈ known, r.slots.lookup f.1 ≠ none

variable {known others : List (String × Json)}

theorem Known.distinct_append (declared : Known r known) (leftover : Leftover r depth others) :
    Distinct (known ++ others) := by
  rw [Distinct, List.map_append, List.nodup_append]
  refine ⟨declared.distinct, leftover.ascending.distinct, ?_⟩
  rintro name first _ second rfl
  obtain ⟨f, mem, rfl⟩ := List.mem_map.1 first
  obtain ⟨g, mem', same⟩ := List.mem_map.1 second
  exact declared.declared f mem (same ▸ leftover.unknown g mem')

/-- **Declared fields and leftover ones** are read as they were. -/
theorem openRecord_known_append (regular : r.Regular) (declared : Known r known) {x : α}
    (leftover : Leftover r (depth - 1) others) (deep : 1 < depth)
    (built : r.build (depth - 1) (valueIn (known ++ others)) = .ok x) :
    openRecord r depth (docOf (.obj (known ++ others))) = .ok (x, others) := by
  have distinct := declared.distinct_append leftover
  have read := openRecord_docOf regular distinct deep built fun f mem unknown => by
    rcases List.mem_append.1 mem with early | late
    · exact absurd unknown (declared.declared f early)
    · exact leftover.canonical f late
  have dropped : known.filter (fun f => (r.slots.lookup f.1).isNone) = [] :=
    List.filter_eq_nil_iff.2 fun f mem => by simpa using declared.declared f mem
  have stays : others.filter (fun f => (r.slots.lookup f.1).isNone) = others :=
    List.filter_eq_self.2 fun f mem => by simpa using leftover.unknown f mem
  rw [read, List.filter_append, dropped, stays, List.nil_append,
    sortedByKey_of_ascending leftover.ascending]

theorem field?_append {fields : List (String × Json)} :
    field? name (fields ++ others) = (field? name fields).or (field? name others) := by
  simp only [field?, List.find?_append]
  cases fields.find? (·.1 == name) <;> rfl

theorem anyFields_docsOfFields_cons {x v : Json} {fields values : List (String × Json)}
    (first : any depth (docOf x) = .ok v)
    (later : anyFields depth (docsOfFields fields) = .ok values) :
    anyFields depth (docsOfFields ((name, x) :: fields)) = .ok ((name, v) :: values) := by
  simp [docsOfFields, anyFields, keyText, first, later, bind, Except.bind, pure, Except.pure]

theorem anyFields_append {fields values : List (String × Json)}
    (first : anyFields depth (docsOfFields fields) = .ok values)
    (second : anyFields depth (docsOfFields others) = .ok others) :
    anyFields depth (docsOfFields (fields ++ others)) = .ok (values ++ others) := by
  induction fields generalizing values with
  | nil =>
    cases first
    exact second
  | cons f fields ih =>
    obtain ⟨name, v, rest, ⟨⟩, read, later, rfl⟩ := anyFields_cons first
    exact anyFields_docsOfFields_cons read (ih later)

/-- As a free value, declared fields and leftover ones are listed by key. -/
theorem any_known_append {values : List (String × Json)} (leftover : Leftover r (depth - 1) others)
    (deep : 1 < depth) (read : anyFields (depth - 1) (docsOfFields known) = .ok values) :
    any depth (docOf (.obj (known ++ others))) = .ok (.obj (sortedByKey (values ++ others))) := by
  have both := anyFields_append read
    (anyFields_docsOf (depth - 1) others (canonicalFields_iff.2 leftover.canonical))
  rw [docOf, any, entering_eq_ok.2 ⟨deep, rfl⟩]
  simp [bind, Except.bind, both, closing, pure, Except.pure]

/-- Among them a declared field is found where the declared fields are, and another one among the
leftover ones. -/
theorem field?_known_append (declared : Known r known) (leftover : Leftover r depth others) :
    field? name (sortedByKey (known ++ others)) =
      if r.slots.lookup name = none then field? name others else field? name known := by
  rw [field?_sortedByKey, last?_of_distinct (declared.distinct_append leftover), field?_append]
  split
  · rename_i unknown
    have elsewhere : field? name known = none := field?_eq_none.2 fun mem => by
      obtain ⟨f, inside, rfl⟩ := List.mem_map.1 mem
      exact declared.declared f inside unknown
    rw [elsewhere, Option.none_or]
  · rename_i slot
    rw [leftover.field?_eq_none slot, Option.or_none]

end DoubleEntry.Json
