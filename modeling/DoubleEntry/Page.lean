import DoubleEntry.Error

/-!
# Pages

A page is a window on a listing: skip `offset` records, show at most `limit`.
-/

namespace DoubleEntry

/-- A window on a listing. -/
structure Page where
  offset : Nat
  limit : Nat
  deriving DecidableEq, Repr

namespace Page

/-- The most records a page may ask for. -/
def maxLimit : Nat := 100

/-- A page with a limit between 1 and `maxLimit`. -/
def checked (offset limit : Nat) : Except Error Page :=
  if limit = 0 ∨ maxLimit < limit then
    .error (.validation ("page limit must be between 1 and " ++ toString maxLimit))
  else .ok ⟨offset, limit⟩

/-- The first twenty records. -/
def first : Page := ⟨0, 20⟩

/-- The records in the window. -/
def window {α : Type} (page : Page) (records : List α) : List α :=
  (records.drop page.offset).take page.limit

end Page

end DoubleEntry
