import DoubleEntry.Json.Binary64

/-!
# JSON values

The values that JSON texts denote.  Integers are exact and of any size; other numbers are binary
floating point.  The fields of an object keep their order.
-/

namespace DoubleEntry

/-- A JSON value. -/
inductive Json where
  | null
  | bool (b : Bool)
  | int (n : Int)
  | float (x : Json.Binary64)
  | str (s : String)
  | arr (items : List Json)
  | obj (fields : List (String × Json))

namespace Json

/-- The value of a field. -/
def field? (key : String) (fields : List (String × Json)) : Option Json :=
  (fields.find? (·.1 == key)).map Prod.snd

/-- Keep the last field of each key, and list them by key. -/
def sortedByKey (fields : List (String × Json)) : List (String × Json) :=
  let lastOfEach := fields.foldr
    (fun f kept => if kept.any (·.1 == f.1) then kept else f :: kept) []
  lastOfEach.mergeSort fun f g => decide (f.1 ≤ g.1)

end Json

end DoubleEntry
