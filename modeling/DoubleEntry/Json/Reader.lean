import DoubleEntry.Json.Document
import DoubleEntry.Json.Value
import DoubleEntry.Time.Rfc3339

/-!
# Reading JSON forms

A `Reader` takes the outline of a JSON value to a value of its own type.  Readers find faults in
the order of the text: the first thing wrong decides the `Defect`, be it the text or its form.

* `integer`, `boolean`, `string`, `timestamp`, `oneOf`, `optional` read single values, `arrayOf`
  reads several;
* `record` reads the fields of a `Record`, written as an object or as an array in the order of
  declaration; `openRecord` takes objects only and keeps the fields it does not know;
* `any` and `dictionary` read free values;
* `readText` reads a whole text.

Values may be nested up to a depth of 127; what is skipped may be nested to any depth.
-/

namespace DoubleEntry.Json

/-- A reader of a form.  `depth` is one more than the levels of nesting that are still allowed. -/
abbrev Reader (α : Type) := (depth : Nat) → Doc → Except Defect α

/-! ## Parts of readers -/

/-- What is wrong with a value that is not of the wanted form: the fault of its text if that comes
first. -/
def objection : Doc → Defect
  | .broken _ wanted _ => wanted
  | .num .tooLarge => .malformed
  | .str none => .malformed
  | .unquoted value => objection value
  | _ => .mismatch

/-- Go one level down. -/
def entering (depth : Nat) : Except Defect Nat :=
  if depth ≤ 1 then .error .malformed else .ok (depth - 1)

/-- The end of an array or object. -/
def closing : Option Defect → Except Defect Unit
  | some d => .error d
  | none => .ok ()

/-- The text of a key. -/
def keyText : Doc → Except Defect String
  | .str (some name) => .ok name
  | .broken _ wanted _ => .error wanted
  | _ => .error .malformed

mutual

/-- Get past a value without looking at it. -/
def skip : Doc → Except Defect Unit
  | .broken _ _ skipped => .error skipped
  | .unquoted _ => .error .malformed
  | .arr items fault => do
    skipItems items
    closing fault
  | .obj fields fault => do
    skipFields fields
    closing fault
  | _ => .ok ()

/-- Get past the items of an array. -/
def skipItems : List Doc → Except Defect Unit
  | [] => .ok ()
  | x :: items => do
    skip x
    skipItems items

/-- Get past the fields of an object. -/
def skipFields : List (Doc × Doc) → Except Defect Unit
  | [] => .ok ()
  | (key, x) :: fields => do
    skip key
    skip x
    skipFields fields

end

/-! ## Values of a given form -/

/-- An integer between two bounds; it must be written without point and exponent. -/
def integer (low high : Int) : Reader Int
  | _, .num (.int n) => if low ≤ n ∧ n ≤ high then .ok n else .error .mismatch
  | _, doc => .error (objection doc)

/-- A truth value. -/
def boolean : Reader Bool
  | _, .bool b => .ok b
  | _, doc => .error (objection doc)

/-- A string. -/
def string : Reader String
  | _, .str (some s) => .ok s
  | _, doc => .error (objection doc)

/-- A string that denotes a value. -/
def stringOf {α : Type} (parse? : String → Option α) : Reader α := fun depth doc => do
  match parse? (← string depth doc) with
  | some x => pure x
  | none => .error .mismatch

/-- A point in time. -/
def timestamp : Reader Timestamp :=
  stringOf Rfc3339.parse?

/-- One of a choice of names, as a string or as the only key of an object whose value is null. -/
def oneOf {α : Type} (ofName? : String → Option α) : Reader α
  | _, .str (some s) => match ofName? s with
    | some x => .ok x
    | none => .error .mismatch
  | _, .str none => .error .malformed
  | _, .broken first wanted _ =>
    .error (if first = none ∨ first = some '"' then wanted else .malformed)
  | depth, .obj fields fault => do
    let _ ← entering depth
    match fields with
    | [] =>
      closing fault
      .error .malformed
    | (key, value) :: others =>
      let x ← match key with
        | .str (some s) => match ofName? s with
          | some x => pure x
          | none => .error .mismatch
        | _ => .error (objection key)
      match value with
      | .null => pure ()
      | _ => .error (objection value)
      if !others.isEmpty then .error .malformed
      closing fault
      pure x
  | _, _ => .error .malformed

/-- A value or null. -/
def optional {α : Type} (reader : Reader α) : Reader (Option α)
  | _, .null => .ok none
  | depth, doc => some <$> reader depth doc

/-- The items of an array, up to its fault. -/
def itemsOf {α : Type} (reader : Reader α) (depth : Nat) : List Doc → Except Defect (List α)
  | [] => .ok []
  | x :: items => do
    let x ← reader depth x
    return x :: (← itemsOf reader depth items)

/-- An array of values of one form. -/
def arrayOf {α : Type} (reader : Reader α) : Reader (List α)
  | depth, .arr items fault => do
    let items ← itemsOf reader (← entering depth) items
    closing fault
    pure items
  | _, doc => .error (objection doc)

/-! ## Free values -/

mutual

/-- Any value.  Of fields with the same key the last counts, and fields are ordered by key. -/
def any : Reader Json
  | _, .null => .ok .null
  | _, .bool b => .ok (.bool b)
  | _, .num (.int n) => .ok (.int n)
  | _, .num (.float x) => .ok (.float x)
  | _, .num .tooLarge => .error .malformed
  | _, .str (some s) => .ok (.str s)
  | _, .str none => .error .malformed
  | depth, .arr items fault => do
    let items ← anyItems (← entering depth) items
    closing fault
    pure (.arr items)
  | depth, .obj fields fault => do
    let fields ← anyFields (← entering depth) fields
    closing fault
    pure (.obj (sortedByKey fields))
  | _, .unquoted _ => .error .malformed
  | _, .broken _ wanted _ => .error wanted

/-- The items of an array. -/
def anyItems (depth : Nat) : List Doc → Except Defect (List Json)
  | [] => .ok []
  | x :: items => do
    let x ← any depth x
    return x :: (← anyItems depth items)

/-- The fields of an object. -/
def anyFields (depth : Nat) : List (Doc × Doc) → Except Defect (List (String × Json))
  | [] => .ok []
  | (key, x) :: fields => do
    let key ← keyText key
    let x ← any depth x
    return (key, x) :: (← anyFields depth fields)

end

/-- The fields of an object with free values. -/
def dictionary : Reader (List (String × Json))
  | depth, .obj fields fault => do
    let fields ← anyFields (← entering depth) fields
    closing fault
    pure (sortedByKey fields)
  | _, doc => .error (objection doc)

/-! ## Records -/

/-- The fields of a record: the reader of each, to find faults in the order of the text, and how
the record is built from what stands in its fields. -/
structure Record (α : Type) where
  slots : List (String × Reader Unit)
  build : (depth : Nat) → (String → Option Doc) → Except Defect α

namespace Record

/-- A field that must be there. -/
def field {α : Type} (name : String) (reader : Reader α) : Record α where
  slots := [(name, fun depth doc => do let _ ← reader depth doc)]
  build depth value := match value name with
    | some doc => reader depth doc
    | none => .error .mismatch

/-- A field that may be missing. -/
def fieldOr {α : Type} (name : String) (default : α) (reader : Reader α) : Record α where
  slots := [(name, fun depth doc => do let _ ← reader depth doc)]
  build depth value := match value name with
    | some doc => reader depth doc
    | none => .ok default

instance : Applicative Record where
  pure x := ⟨[], fun _ _ => .ok x⟩
  seq f x :=
    ⟨f.slots ++ (x ()).slots, fun depth value => do
      let g ← f.build depth value
      let y ← (x ()).build depth value
      pure (g y)⟩

end Record

/-- Go through the fields of an object.  A field that the record declares must not come twice;
`other` deals with those it does not declare. -/
def checkFields (slots : List (String × Reader Unit)) (other : Doc → Except Defect Unit)
    (depth : Nat) : (seen : List String) → List (Doc × Doc) → Except Defect Unit
  | _, [] => .ok ()
  | seen, (key, value) :: fields => do
    let name ← keyText key
    match slots.lookup name with
    | some reader =>
      if name ∈ seen then .error .mismatch
      reader depth value
    | none => other value
    checkFields slots other depth (name :: seen) fields

/-- Go through the items of an array, which are the fields in the order of declaration. -/
def checkItems (slots : List (String × Reader Unit)) (fault : Option Defect) (depth : Nat)
    (items : List Doc) : Except Defect Unit :=
  match slots, items with
  | [], [] => closing fault
  | [], _ :: _ => .error .malformed
  | _ :: _, [] => do
    closing fault
    .error .mismatch
  | (_, reader) :: slots, x :: items => do
    reader depth x
    checkItems slots fault depth items

/-- What stands in a field of an object. -/
def fieldDoc? (fields : List (Doc × Doc)) (name : String) : Option Doc :=
  (fields.find? fun f => match f.1 with
    | .str (some s) => s == name
    | _ => false).map Prod.snd

/-- A record, as an object or as an array.  Other fields are skipped. -/
def record {α : Type} (r : Record α) : Reader α
  | depth, .obj fields fault => do
    let depth ← entering depth
    checkFields r.slots skip depth [] fields
    closing fault
    r.build depth (fieldDoc? fields)
  | depth, .arr items fault => do
    let depth ← entering depth
    checkItems r.slots fault depth items
    r.build depth fun name => ((r.slots.map Prod.fst).zip items).lookup name
  | _, doc => .error (objection doc)

/-- A record as an object, and the other fields. -/
def openRecord {α : Type} (r : Record α) : Reader (α × List (String × Json))
  | depth, .obj fields fault => do
    let depth ← entering depth
    checkFields r.slots (fun doc => do let _ ← any depth doc) depth [] fields
    closing fault
    let value ← r.build depth (fieldDoc? fields)
    let others ← anyFields depth (fields.filter fun f => match f.1 with
      | .str (some name) => (r.slots.lookup name).isNone
      | _ => false)
    pure (value, sortedByKey others)
  | _, doc => .error (objection doc)

/-! ## Texts -/

/-- The nesting limit that reading starts with. -/
def depthLimit : Nat := 128

/-- Read a text that holds one value and nothing else but white space. -/
def readText {α : Type} (reader : Reader α) (text : String) : Except Defect α := do
  let (doc, rest) := outline text.toList
  let x ← reader depthLimit doc
  if (skipSpace rest).isEmpty then pure x else .error .malformed

end DoubleEntry.Json
