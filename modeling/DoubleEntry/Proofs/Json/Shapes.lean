import DoubleEntry.Json.Envelope
import DoubleEntry.Proofs.Json.Forms

/-!
# All forms round-trip

The form of envelopes is lawful around any lawful form that does not write null.  With it, all forms
that the ledger writes are gathered in `Json.Shape`.

* `Json.Shape.roundTrips` — **what is written reads back**; and whatever text was read, in whatever
  spelling, the text that is written for it denotes the same value and is written again in the same
  way.
-/

namespace DoubleEntry

open Json
open Json.Record

/-! ## Envelopes -/

namespace Envelope

variable {α : Type}

/-- The form of values that may be missing: a missing value is written as null. -/
def orNullForm (F : Form α) : Form (Option α) where
  toJson := orNull F.toJson
  ofJson := Json.optional F.ofJson
  height := F.height
  Representable o := ∀ v ∈ o, F.Representable v
  Plain o := ∀ v ∈ o, F.Plain v

theorem orNullForm_lawful {F : Form α} (lawful : F.Lawful) (filled : ∀ v, F.toJson v ≠ .null) :
    (orNullForm F).Lawful where
  exact o fits plain := by
    cases o with
    | none => trivial
    | some v => exact lawful.exact v (fits v rfl) (plain v rfl)
  reads o fits plain depth deep := by
    cases o with
    | none => rfl
    | some v =>
      have written : docOf (F.toJson v) ≠ .null := by
        have := filled v
        cases shape : F.toJson v <;> simp_all [docOf]
      show Json.optional F.ofJson depth (docOf (F.toJson v)) = _
      rw [optional_of_ne_null written, lawful.reads v (fits v rfl) (plain v rfl) depth deep]
      rfl
  bounded depth doc o read := by
    rintro v ⟨⟩
    have filled : doc ≠ .null := by
      rintro rfl
      cases read
    have read : Json.optional F.ofJson depth doc = .ok (some v) := read
    rw [optional_of_ne_null filled] at read
    obtain ⟨w, read, same⟩ := Except.map_eq_ok.1 read
    exact Option.some.inj same ▸ lawful.bounded depth doc w read

/-- The form of what comes with a failure.  Plain is a single field with a string. -/
def contextForm : Form (List (String × Json)) where
  toJson := .obj
  ofJson := Json.dictionary
  height := 1
  Representable _ := True
  Plain fields := ∃ key s, fields = [(key, .str s)]

theorem contextForm_lawful : contextForm.Lawful where
  exact := by
    rintro _ _ ⟨key, s, rfl⟩
    exact ⟨trivial, trivial⟩
  reads := by
    rintro _ _ ⟨key, s, rfl⟩ depth deep
    show Json.dictionary depth (docOf (.obj [(key, .str s)])) = _
    have entered : entering depth = .ok (depth - 1) := entering_eq_ok.2 ⟨deep, rfl⟩
    have alone : Ascending [(key, Json.str s)] := List.pairwise_singleton _ _
    simp [docOf, docsOfFields, dictionary, entered, anyFields, keyText, any, closing,
      sortedByKey_of_ascending alone, bind, Except.bind, pure, Except.pure]
  bounded _ _ _ _ := trivial

/-- The form of envelopes around data of a form. -/
def form (F : Form α) : Form (Envelope α) where
  toJson := Envelope.toJson F.toJson
  ofJson := Envelope.ofJson F.ofJson
  height := max F.height 1 + 1
  Representable e := (orNullForm F).Representable e.data
  Plain e := (orNullForm F).Plain e.data ∧ (orNullForm contextForm).Plain e.context

theorem form_lawful {F : Form α} (lawful : F.Lawful) (filled : ∀ v, F.toJson v ≠ .null) :
    (form F).Lawful := by
  have data := orNullForm_lawful lawful filled
  have error := orNullForm_lawful stringForm_lawful (by rintro _ ⟨⟩)
  have context := orNullForm_lawful contextForm_lawful (by rintro _ ⟨⟩)
  refine .of_record (fun _ => rfl) rfl (Nat.succ_pos _)
    (regular_field _).map.seq_fieldOr.seq_fieldOr.seq_fieldOr ?distinct ?exact ?built ?bounded
  case distinct => simp [Distinct]
  case exact =>
    rintro e fits ⟨plain, simple⟩
    exact ⟨trivial, data.exact e.data fits plain,
      error.exact e.error (fun _ _ => trivial) (fun _ _ => trivial),
      context.exact e.context (fun _ _ => trivial) simple, trivial⟩
  case built =>
    rintro e fits ⟨plain, simple⟩ depth deep
    have deep : max F.height 1 + 1 ≤ depth := deep
    have room : F.height < depth ∧ 1 < depth := by omega
    have success := booleanForm_lawful.reads e.success trivial trivial depth
      (Nat.zero_lt_of_lt room.2)
    have data := data.reads e.data fits plain depth room.1
    have error := error.reads e.error (fun _ _ => trivial) (fun _ _ => trivial) depth
      (Nat.zero_lt_of_lt room.2)
    have context := context.reads e.context (fun _ _ => trivial) simple depth room.2
    exact build_seq_fieldOr (build_seq_fieldOr (build_seq_fieldOr
      (build_map_field rfl success) rfl data) rfl error) rfl context
  case bounded =>
    intro depth value e built
    simp only [Envelope.fields, build_seq, build_map, build_field, build_fieldOr] at built
    obtain ⟨_, ⟨_, ⟨_, ⟨success, -, rfl⟩, found, origin, rfl⟩, error, -, rfl⟩, context, -, rfl⟩ :=
      built
    rcases origin with ⟨-, rfl⟩ | ⟨doc, -, read⟩
    · rintro _ ⟨⟩
    · exact data.bounded _ doc found read

end Envelope

/-! ## All forms together -/

namespace Json

/-- The forms in which records are written and read. -/
inductive Shape where
  | account
  | newAccount
  | page
  | entry
  | transfer
  | request
  | result
  | state
  | currency
  | principal
  | amountEnvelope
  | pageEnvelope

namespace Shape

/-- What is written in a form. -/
abbrev Value : Shape → Type
  | account => Account
  | newAccount => NewAccount
  | page => Page
  | entry => Entry
  | transfer => Transfer
  | request => TransferRequest
  | result => TransferResult
  | state => TransferState
  | currency => Currency
  | principal => Principal
  | amountEnvelope => Envelope Int
  | pageEnvelope => Envelope Page

/-- How it is written and read. -/
def form : (s : Shape) → Form s.Value
  | account => Account.form
  | newAccount => NewAccount.form
  | page => Page.form
  | entry => Entry.form
  | transfer => Transfer.form
  | request => TransferRequest.form
  | result => TransferResult.form
  | state => TransferState.form
  | currency => Currency.form
  | principal => Principal.form
  | amountEnvelope => Envelope.form Amount.form
  | pageEnvelope => Envelope.form Page.form

theorem lawful : (s : Shape) → s.form.Lawful
  | account => Account.lawful
  | newAccount => NewAccount.lawful
  | page => Page.lawful
  | entry => Entry.lawful
  | transfer => Transfer.lawful
  | request => TransferRequest.lawful
  | result => TransferResult.lawful
  | state => TransferState.lawful
  | currency => Currency.lawful
  | principal => Principal.lawful
  | amountEnvelope => Envelope.form_lawful Amount.lawful nofun
  | pageEnvelope => Envelope.form_lawful Page.lawful nofun

theorem height_lt_depthLimit (s : Shape) : s.form.height < depthLimit := by
  cases s <;> decide

/-- **What is written reads back.**  And whatever text was read, in whatever spelling, the text that
is written for its value is read as this value and written once more in the same way. -/
theorem roundTrips (s : Shape) :
    (∀ v : s.Value, s.form.Representable v → s.form.Plain v →
      readText s.form.ofJson (s.form.toJson v).text = .ok v) ∧
    ∀ (t : String) (v : s.Value), readText s.form.ofJson t = .ok v → s.form.Plain v →
      ∃ w, readText s.form.ofJson (s.form.toJson v).text = .ok w ∧ w = v ∧
        (s.form.toJson w).text = (s.form.toJson v).text := by
  have written := fun v representable plain =>
    s.lawful.readText_text (v := v) s.height_lt_depthLimit representable plain
  refine ⟨written, fun t v read plain => ?_⟩
  exact ⟨v, written v (s.lawful.representable read) plain, rfl, rfl⟩

/-- An account in the short form, with escapes, a local time and half a second. -/
def spelled : String :=
  "\n[7, \"\\u0061da\", 250 ,\x7b\"EUR\" : null\x7d,\"2024-02-29t23:30:01.5+01:00\"] "

/-- The account that is meant. -/
def ada : Account :=
  ⟨7, "ada", 250, .eur, ⟨⟨2024, 2, 29, by decide⟩, ⟨22, 30, 1, 500000000, by decide⟩⟩⟩

/-- A failure with its kind. -/
def refusal : Envelope Page :=
  ⟨false, none, some "no", some [("kind", .str "io")]⟩

theorem roundTrips_spelled :
    readText Account.ofJson spelled = .ok ada ∧ Account.form.Plain ada ∧
      readText Account.ofJson ada.toJson.text = .ok ada ∧
      ada.toJson.text =
        "\x7b\"id\":7,\"owner\":\"ada\",\"balance\":250,\"currency\":\"EUR\"," ++
          "\"created_at\":\"2024-02-29T22:30:01.500Z\"\x7d" ∧
      readText (Envelope.ofJson Page.ofJson) (refusal.toJson Page.toJson).text = .ok refusal := by
  have read : readText Account.ofJson spelled = .ok ada :=
    Except.toOption_eq_some.1 (by decide +kernel)
  have plain : Account.form.Plain ada := ⟨by decide, by decide⟩
  have simple : (Envelope.form Page.form).Plain refusal := by
    refine ⟨nofun, ?_⟩
    rintro _ ⟨⟩
    exact ⟨"kind", "io", rfl⟩
  obtain ⟨w, again, rfl, -⟩ := (roundTrips account).2 spelled ada read plain
  refine ⟨read, plain, again, by decide +kernel, ?_⟩
  exact (roundTrips pageEnvelope).1 refusal nofun simple

end Shape

end Json

end DoubleEntry
