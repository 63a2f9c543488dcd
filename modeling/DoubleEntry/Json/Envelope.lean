import DoubleEntry.Json.Forms

/-!
# Envelopes

The JSON form in which an operation reports its outcome: either the data, or the failure in words
and its kind.
-/

namespace DoubleEntry

open Json (Reader Record)
open Json.Record (field fieldOr)

/-- The outcome of an operation. -/
structure Envelope (α : Type) where
  success : Bool
  data : Option α
  error : Option String
  context : Option (List (String × Json))

namespace Envelope

variable {α : Type}

/-- Success with data. -/
def ok (data : α) : Envelope α := ⟨true, some data, none, none⟩

/-- Failure with its message and its kind. -/
def fail (e : Error) : Envelope α :=
  ⟨false, none, some e.message, some [("kind", .str e.kind)]⟩

/-- The envelope of a result. -/
def ofResult : Except Error α → Envelope α
  | .ok data => ok data
  | .error e => fail e

/-- A value, or null. -/
def orNull {β : Type} (toJson : β → Json) : Option β → Json
  | some x => toJson x
  | none => .null

/-- The envelope as an object. -/
def toJson (dataToJson : α → Json) (e : Envelope α) : Json :=
  .obj [("success", .bool e.success), ("data", orNull dataToJson e.data),
    ("error", orNull .str e.error), ("context", orNull .obj e.context)]

/-- The fields of an envelope. -/
def fields (dataOfJson : Reader α) : Record (Envelope α) :=
  Envelope.mk <$> field "success" Json.boolean <*>
    fieldOr "data" none (Json.optional dataOfJson) <*>
    fieldOr "error" none (Json.optional Json.string) <*>
    fieldOr "context" none (Json.optional Json.dictionary)

/-- Read an envelope. -/
def ofJson (dataOfJson : Reader α) : Reader (Envelope α) := Json.record (fields dataOfJson)

end Envelope

end DoubleEntry
