import DoubleEntry.Json.Forms
import DoubleEntry.Proofs.Json.Records
import DoubleEntry.Proofs.Time.Rfc3339

/-!
# Lawful forms

A `Json.Form` is lawful if what is written is read as the same value and only values that can be
represented are read.  The forms of single values are lawful, and those of the ledger's records
follow from them, field by field.
-/

namespace DoubleEntry

open Json
open Json.Record

/-! ## Forms -/

namespace Json

/-- A JSON form of a type: how values are written and read, and over how many levels of nesting;
which values there are, and which of them are written without loss. -/
structure Form (α : Type) where
  toJson : α → Json
  ofJson : Reader α
  height : Nat
  Representable : α → Prop
  Plain : α → Prop

namespace Form

variable {α : Type} {F : Form α} {v : α}

/-- What is written is read as the same value, and only representable values are read. -/
structure Lawful (F : Form α) : Prop where
  exact : ∀ v, F.Representable v → F.Plain v → Exact (F.toJson v)
  reads : ∀ v, F.Representable v → F.Plain v → ∀ depth, F.height < depth →
    F.ofJson depth (docOf (F.toJson v)) = .ok v
  bounded : ∀ depth doc v, F.ofJson depth doc = .ok v → F.Representable v

/-- What is written is read back from its text. -/
theorem Lawful.readText_text (lawful : F.Lawful) (low : F.height < depthLimit)
    (representable : F.Representable v) (plain : F.Plain v) :
    readText F.ofJson (F.toJson v).text = .ok v :=
  readText_of_outline (outline_text (lawful.exact v representable plain))
    (lawful.reads v representable plain _ low)

/-- The form of a record is lawful if each of its values is built from its own fields, and only
representable values are built. -/
theorem Lawful.of_record {r : Record α} {fields : α → List (String × Json)}
    (written : ∀ v, F.toJson v = .obj (fields v)) (read : F.ofJson = record r)
    (tall : 0 < F.height) (regular : r.Regular) (distinct : ∀ v, Distinct (fields v))
    (exact : ∀ v, F.Representable v → F.Plain v → ExactFields (fields v))
    (built : ∀ v, F.Representable v → F.Plain v → ∀ depth, F.height ≤ depth →
      r.build depth (valueIn (fields v)) = .ok v)
    (bounded : ∀ depth value v, r.build depth value = .ok v → F.Representable v) : F.Lawful where
  exact v fits plain := by
    rw [written]
    exact exact v fits plain
  reads v fits plain depth deep := by
    have inside := built v fits plain (depth - 1) (Nat.le_sub_one_of_lt deep)
    rw [written, read]
    exact record_docOf regular (distinct v) (by omega) inside
  bounded depth doc v success := by
    rw [read] at success
    obtain ⟨inner, value, made⟩ := built_of_record success
    exact bounded inner value v made

theorem Lawful.representable (lawful : F.Lawful) {t : String}
    (read : readText F.ofJson t = .ok v) : F.Representable v :=
  lawful.bounded _ _ _ (readText_eq_ok.1 read).1

end Form

end Json

/-! ## Single values -/

theorem Amount.InRange.exact {n : Int} (inRange : Amount.InRange n) : IsExact n := by
  obtain ⟨low, high⟩ := inRange
  unfold Amount.least at low
  unfold Amount.greatest at high
  exact ⟨low, by omega⟩

/-- The form of truth values. -/
def Json.booleanForm : Form Bool where
  toJson := .bool
  ofJson := boolean
  height := 0
  Representable _ := True
  Plain _ := True

theorem Json.booleanForm_lawful : booleanForm.Lawful where
  exact _ _ _ := trivial
  reads _ _ _ _ _ := rfl
  bounded _ _ _ _ := trivial

/-- The form of strings. -/
def Json.stringForm : Form String where
  toJson := .str
  ofJson := string
  height := 0
  Representable _ := True
  Plain _ := True

theorem Json.stringForm_lawful : stringForm.Lawful where
  exact _ _ _ := trivial
  reads _ _ _ _ _ := rfl
  bounded _ _ _ _ := trivial

/-- The form of amounts and ids. -/
def Amount.form : Form Int where
  toJson := .int
  ofJson := Amount.ofJson
  height := 0
  Representable := Amount.InRange
  Plain _ := True

theorem Amount.lawful : Amount.form.Lawful where
  exact _ inRange _ := inRange.exact
  reads n inRange _ depth _ :=
    show Amount.ofJson depth (.num (.int n)) = .ok n from integer_eq_ok.2 ⟨rfl, inRange⟩
  bounded _ _ _ read := (integer_eq_ok.1 read).2

/-- The form of the offset and the limit of a page. -/
def Page.countForm : Form Nat where
  toJson n := .int n
  ofJson := Page.countOfJson
  height := 0
  Representable n := n ≤ Page.greatest
  Plain _ := True

theorem Page.countForm_lawful : Page.countForm.Lawful where
  exact n small _ := by
    have small : n ≤ 4294967295 := small
    show IsExact n
    unfold IsExact
    omega
  reads n small _ depth _ := by
    have read : integer 0 Page.greatest depth (docOf (.int n)) = .ok (n : Int) :=
      integer_eq_ok.2 ⟨rfl, Int.natCast_nonneg n, Int.ofNat_le.2 small⟩
    show (integer 0 Page.greatest depth (docOf (.int n))).map Int.toNat = .ok n
    rw [read]
    rfl
  bounded depth doc n read := by
    obtain ⟨m, whole, rfl⟩ := Except.map_eq_ok.1 read
    exact Int.toNat_le.2 (integer_eq_ok.1 whole).2.2

/-- The form of currencies. -/
def Currency.form : Form Currency where
  toJson := Currency.toJson
  ofJson := Currency.ofJson
  height := 0
  Representable _ := True
  Plain _ := True

theorem Currency.lawful : Currency.form.Lawful where
  exact _ _ _ := trivial
  reads c _ _ _ _ := by cases c <;> rfl
  bounded _ _ _ _ := trivial

/-- The form of the states of a transfer. -/
def TransferState.form : Form TransferState where
  toJson := TransferState.toJson
  ofJson := TransferState.ofJson
  height := 0
  Representable _ := True
  Plain _ := True

theorem TransferState.lawful : TransferState.form.Lawful where
  exact _ _ _ := trivial
  reads s _ _ _ _ := by cases s <;> rfl
  bounded _ _ _ _ := trivial

/-- The form of principals. -/
def Principal.form : Form Principal where
  toJson := Principal.toJson
  ofJson := Principal.ofJson
  height := 0
  Representable _ := True
  Plain _ := True

theorem Principal.lawful : Principal.form.Lawful where
  exact _ _ _ := trivial
  reads _ _ _ _ _ := rfl
  bounded _ _ _ _ := trivial

/-- The year of the timestamp has four digits. -/
def Timestamp.Readable (t : Timestamp) : Prop :=
  0 ≤ t.date.year ∧ t.date.year ≤ 9999

/-- The form of timestamps. -/
def Timestamp.form : Form Timestamp where
  toJson := Timestamp.toJson
  ofJson := Json.timestamp
  height := 0
  Representable _ := True
  Plain := Timestamp.Readable

theorem Timestamp.lawful : Timestamp.form.Lawful where
  exact _ _ _ := trivial
  reads t _ readable _ _ := by
    show stringOf Rfc3339.parse? _ (.str (some (Rfc3339.zulu t))) = _
    simp [stringOf, string, Rfc3339.parse?_zulu t readable, bind, Except.bind, pure, Except.pure]
  bounded _ _ _ _ := trivial

/-! ## Records -/

/-- The form of accounts. -/
def Account.form : Form Account where
  toJson := Account.toJson
  ofJson := Account.ofJson
  height := 1
  Representable a := Amount.InRange a.id ∧ Amount.InRange a.balance
  Plain a := a.createdAt.Readable

theorem Account.lawful : Account.form.Lawful := by
  refine .of_record (fun _ => rfl) rfl (by decide)
    (regular_field _).map.seq_field.seq_field.seq_field.seq_field ?distinct ?exact ?built ?bounded
  case distinct => simp [Distinct]
  case exact =>
    intro a fits _
    exact ⟨fits.1.exact, trivial, fits.2.exact, trivial, trivial, trivial⟩
  case built =>
    intro a fits readable depth deep
    have id := Amount.lawful.reads a.id fits.1 trivial _ deep
    have owner := stringForm_lawful.reads a.owner trivial trivial _ deep
    have balance := Amount.lawful.reads a.balance fits.2 trivial _ deep
    have currency := Currency.lawful.reads a.currency trivial trivial _ deep
    have createdAt := Timestamp.lawful.reads a.createdAt trivial readable _ deep
    exact build_seq_field (build_seq_field (build_seq_field (build_seq_field
      (build_map_field rfl id) rfl owner) rfl balance) rfl currency) rfl createdAt
  case bounded =>
    intro depth value a built
    simp only [Account.fields, build_seq, build_map, build_field] at built
    obtain ⟨_, ⟨_, ⟨_, ⟨_, ⟨id, ⟨_, -, readId⟩, rfl⟩, owner, -, rfl⟩, balance, ⟨_, -, readBalance⟩,
      rfl⟩, currency, -, rfl⟩, createdAt, -, rfl⟩ := built
    exact ⟨Amount.lawful.bounded _ _ _ readId, Amount.lawful.bounded _ _ _ readBalance⟩

/-- The form of new accounts. -/
def NewAccount.form : Form NewAccount where
  toJson := NewAccount.toJson
  ofJson := NewAccount.ofJson
  height := 1
  Representable a := Amount.InRange a.initialBalance
  Plain _ := True

theorem NewAccount.lawful : NewAccount.form.Lawful := by
  refine .of_record (fun _ => rfl) rfl (by decide)
    (regular_field _).map.seq_field.seq_field ?distinct ?exact ?built ?bounded
  case distinct => simp [Distinct]
  case exact =>
    intro a fits _
    exact ⟨trivial, trivial, Amount.InRange.exact fits, trivial⟩
  case built =>
    intro a fits _ depth deep
    have owner := stringForm_lawful.reads a.owner trivial trivial _ deep
    have currency := Currency.lawful.reads a.currency trivial trivial _ deep
    have balance := Amount.lawful.reads a.initialBalance fits trivial _ deep
    exact build_seq_field (build_seq_field (build_map_field rfl owner) rfl currency) rfl balance
  case bounded =>
    intro depth value a built
    simp only [NewAccount.fields, build_seq, build_map, build_field] at built
    obtain ⟨_, ⟨_, ⟨owner, -, rfl⟩, currency, -, rfl⟩, balance, ⟨_, -, readBalance⟩, rfl⟩ := built
    exact Amount.lawful.bounded _ _ _ readBalance

/-- The form of pages. -/
def Page.form : Form Page where
  toJson := Page.toJson
  ofJson := Page.ofJson
  height := 1
  Representable p := p.offset ≤ Page.greatest ∧ p.limit ≤ Page.greatest
  Plain _ := True

theorem Page.lawful : Page.form.Lawful := by
  refine .of_record (fun _ => rfl) rfl (by decide)
    (regular_field _).map.seq_field ?distinct ?exact ?built ?bounded
  case distinct => simp [Distinct]
  case exact =>
    intro p fits _
    exact ⟨Page.countForm_lawful.exact _ fits.1 trivial,
      Page.countForm_lawful.exact _ fits.2 trivial, trivial⟩
  case built =>
    intro p fits _ depth deep
    have offset := Page.countForm_lawful.reads p.offset fits.1 trivial _ deep
    have limit := Page.countForm_lawful.reads p.limit fits.2 trivial _ deep
    exact build_seq_field (build_map_field rfl offset) rfl limit
  case bounded =>
    intro depth value p built
    simp only [Page.fields, build_seq, build_map, build_field] at built
    obtain ⟨_, ⟨offset, ⟨_, -, readOffset⟩, rfl⟩, limit, ⟨_, -, readLimit⟩, rfl⟩ := built
    exact ⟨Page.countForm_lawful.bounded _ _ _ readOffset,
      Page.countForm_lawful.bounded _ _ _ readLimit⟩

/-- The form of entries. -/
def Entry.form : Form Entry where
  toJson := Entry.toJson
  ofJson := Entry.ofJson
  height := 1
  Representable e := Amount.InRange e.id ∧ Amount.InRange e.account ∧ Amount.InRange e.amount
  Plain e := e.createdAt.Readable

theorem Entry.lawful : Entry.form.Lawful := by
  refine .of_record (fun _ => rfl) rfl (by decide)
    (regular_field _).map.seq_field.seq_field.seq_field ?distinct ?exact ?built ?bounded
  case distinct => simp [Distinct]
  case exact =>
    intro e fits _
    exact ⟨fits.1.exact, fits.2.1.exact, fits.2.2.exact, trivial, trivial⟩
  case built =>
    intro e fits readable depth deep
    have id := Amount.lawful.reads e.id fits.1 trivial _ deep
    have account := Amount.lawful.reads e.account fits.2.1 trivial _ deep
    have amount := Amount.lawful.reads e.amount fits.2.2 trivial _ deep
    have createdAt := Timestamp.lawful.reads e.createdAt trivial readable _ deep
    exact build_seq_field (build_seq_field (build_seq_field (build_map_field rfl id) rfl account)
      rfl amount) rfl createdAt
  case bounded =>
    intro depth value e built
    simp only [Entry.fields, build_seq, build_map, build_field] at built
    obtain ⟨_, ⟨_, ⟨_, ⟨id, ⟨_, -, readId⟩, rfl⟩, account, ⟨_, -, readAccount⟩, rfl⟩, amount,
      ⟨_, -, readAmount⟩, rfl⟩, createdAt, -, rfl⟩ := built
    exact ⟨Amount.lawful.bounded _ _ _ readId, Amount.lawful.bounded _ _ _ readAccount,
      Amount.lawful.bounded _ _ _ readAmount⟩

/-- The form of transfers. -/
def Transfer.form : Form Transfer where
  toJson := Transfer.toJson
  ofJson := Transfer.ofJson
  height := 1
  Representable t := Amount.InRange t.id ∧ Amount.InRange t.source ∧
    Amount.InRange t.destination ∧ Amount.InRange t.amount
  Plain t := t.createdAt.Readable

theorem Transfer.lawful : Transfer.form.Lawful := by
  refine .of_record (fun _ => rfl) rfl (by decide)
    (regular_field _).map.seq_field.seq_field.seq_field.seq_field ?distinct ?exact ?built ?bounded
  case distinct => simp [Distinct]
  case exact =>
    intro t fits _
    exact ⟨fits.1.exact, fits.2.1.exact, fits.2.2.1.exact, fits.2.2.2.exact, trivial, trivial⟩
  case built =>
    intro t fits readable depth deep
    have id := Amount.lawful.reads t.id fits.1 trivial _ deep
    have source := Amount.lawful.reads t.source fits.2.1 trivial _ deep
    have destination := Amount.lawful.reads t.destination fits.2.2.1 trivial _ deep
    have amount := Amount.lawful.reads t.amount fits.2.2.2 trivial _ deep
    have createdAt := Timestamp.lawful.reads t.createdAt trivial readable _ deep
    exact build_seq_field (build_seq_field (build_seq_field (build_seq_field
      (build_map_field rfl id) rfl source) rfl destination) rfl amount) rfl createdAt
  case bounded =>
    intro depth value t built
    simp only [Transfer.fields, build_seq, build_map, build_field] at built
    obtain ⟨_, ⟨_, ⟨_, ⟨_, ⟨id, ⟨_, -, readId⟩, rfl⟩, source, ⟨_, -, readSource⟩, rfl⟩, destination,
      ⟨_, -, readDestination⟩, rfl⟩, amount, ⟨_, -, readAmount⟩, rfl⟩, createdAt, -, rfl⟩ := built
    exact ⟨Amount.lawful.bounded _ _ _ readId, Amount.lawful.bounded _ _ _ readSource,
      Amount.lawful.bounded _ _ _ readDestination, Amount.lawful.bounded _ _ _ readAmount⟩

/-- The form of requests. -/
def TransferRequest.form : Form TransferRequest where
  toJson := TransferRequest.toJson
  ofJson := TransferRequest.ofJson
  height := 1
  Representable r :=
    Amount.InRange r.source ∧ Amount.InRange r.destination ∧ Amount.InRange r.amount
  Plain _ := True

theorem TransferRequest.lawful : TransferRequest.form.Lawful := by
  refine .of_record (fun _ => rfl) rfl (by decide)
    (regular_field _).map.seq_field.seq_field ?distinct ?exact ?built ?bounded
  case distinct => simp [Distinct]
  case exact =>
    intro r fits _
    exact ⟨fits.1.exact, fits.2.1.exact, fits.2.2.exact, trivial⟩
  case built =>
    intro r fits _ depth deep
    have source := Amount.lawful.reads r.source fits.1 trivial _ deep
    have destination := Amount.lawful.reads r.destination fits.2.1 trivial _ deep
    have amount := Amount.lawful.reads r.amount fits.2.2 trivial _ deep
    exact build_seq_field (build_seq_field (build_map_field rfl source) rfl destination) rfl amount
  case bounded =>
    intro depth value r built
    simp only [TransferRequest.fields, build_seq, build_map, build_field] at built
    obtain ⟨_, ⟨_, ⟨source, ⟨_, -, readSource⟩, rfl⟩, destination, ⟨_, -, readDestination⟩, rfl⟩,
      amount, ⟨_, -, readAmount⟩, rfl⟩ := built
    exact ⟨Amount.lawful.bounded _ _ _ readSource, Amount.lawful.bounded _ _ _ readDestination,
      Amount.lawful.bounded _ _ _ readAmount⟩

/-- The form of results. -/
def TransferResult.form : Form TransferResult where
  toJson := TransferResult.toJson
  ofJson := TransferResult.ofJson
  height := 2
  Representable r :=
    Transfer.form.Representable r.transfer ∧ Account.form.Representable r.sourceAccount ∧
      Account.form.Representable r.destinationAccount ∧ Entry.form.Representable r.debit ∧
      Entry.form.Representable r.credit
  Plain r :=
    Transfer.form.Plain r.transfer ∧ Account.form.Plain r.sourceAccount ∧
      Account.form.Plain r.destinationAccount ∧ Entry.form.Plain r.debit ∧
      Entry.form.Plain r.credit

theorem TransferResult.lawful : TransferResult.form.Lawful := by
  refine .of_record (fun _ => rfl) rfl (by decide)
    (regular_field _).map.seq_field.seq_field.seq_field.seq_field ?distinct ?exact ?built ?bounded
  case distinct => simp [Distinct]
  case exact =>
    rintro r ⟨transfer, source, destination, debit, credit⟩ ⟨plain₁, plain₂, plain₃, plain₄, plain₅⟩
    exact ⟨Transfer.lawful.exact _ transfer plain₁, Account.lawful.exact _ source plain₂,
      Account.lawful.exact _ destination plain₃, Entry.lawful.exact _ debit plain₄,
      Entry.lawful.exact _ credit plain₅, trivial⟩
  case built =>
    rintro r ⟨transfer, source, destination, debit, credit⟩ ⟨plain₁, plain₂, plain₃, plain₄, plain₅⟩
      depth deep
    have transfer := Transfer.lawful.reads _ transfer plain₁ _ deep
    have source := Account.lawful.reads _ source plain₂ _ deep
    have destination := Account.lawful.reads _ destination plain₃ _ deep
    have debit := Entry.lawful.reads _ debit plain₄ _ deep
    have credit := Entry.lawful.reads _ credit plain₅ _ deep
    exact build_seq_field (build_seq_field (build_seq_field (build_seq_field
      (build_map_field rfl transfer) rfl source) rfl destination) rfl debit) rfl credit
  case bounded =>
    intro depth value r built
    simp only [TransferResult.fields, build_seq, build_map, build_field] at built
    obtain ⟨_, ⟨_, ⟨_, ⟨_, ⟨transfer, ⟨_, -, read₁⟩, rfl⟩, source, ⟨_, -, read₂⟩, rfl⟩, destination,
      ⟨_, -, read₃⟩, rfl⟩, debit, ⟨_, -, read₄⟩, rfl⟩, credit, ⟨_, -, read₅⟩, rfl⟩ := built
    exact ⟨Transfer.lawful.bounded _ _ _ read₁, Account.lawful.bounded _ _ _ read₂,
      Account.lawful.bounded _ _ _ read₃, Entry.lawful.bounded _ _ _ read₄,
      Entry.lawful.bounded _ _ _ read₅⟩

end DoubleEntry
