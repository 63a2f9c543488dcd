import DoubleEntry.Proofs.Listing.Chronicle
import DoubleEntry.Proofs.Refinement.Together
import DoubleEntry.Proofs.Store.Keeping

/-!
# Stores as shelves

What listings need of a store is that it can be read as a ledger, in which a call puts new records
behind the others, with the ids that come next, and which windows it shows for a page.  The store in
memory is read as what it is, the relational one row by row.
-/

namespace DoubleEntry

open Store

/-! ## Shelves -/

/-- A store is read as a ledger, in what it keeps for all transactions as well as in each of them.
A call adds to the ledger what its answer says, and a page of a listing is a window on it. -/
structure Store.Shelf {σ τ Λ : Type} {store : Store σ τ} (keeping : store.Keeping Λ)
    (stirs : World σ → World σ → Prop) where
  reads : σ → Λ → Ledger → Prop
  stir : ∀ {w w' x l}, stirs w w' → reads w.data x l → reads w'.data x l
  spares : ∀ {w w'}, stirs w w' → keeping.Spares w w'
  begin : ∀ {w x l}, reads w.data x l → reads (store.begin w).2.data x l
  call : ∀ {w₀ w c tx l}, stirs w₀ w → l.InOrder → reads w.data (keeping.staged tx) l →
    ∃ l', reads (store.call c tx w).2.2.data (keeping.staged (store.call c tx w).2.1) l' ∧
      l'.InOrder ∧ (l.record c (store.call c tx w).1).SameRecords l'
  call_shared : ∀ {w c tx x l}, l.InOrder → reads w.data x l →
    ∃ l', reads (store.call c tx w).2.2.data x l' ∧ l'.InOrder ∧ l.SameRecords l'
  commit : ∀ {w tx x l}, reads w.data x l → reads (store.commit tx w).2.data x l
  rollback : ∀ {w tx x l}, reads w.data x l → reads (store.rollback tx w).2.data x l
  release : ∀ {w tx x l}, reads w.data x l → reads (store.release tx w).data x l
  lists : ∀ {w tx l} (s : Listing) (page : Page), reads w.data (keeping.staged tx) l →
    s.answer (store.call (s.call page) tx w).1 = .ok (page.window (s.of l))
  gets : ∀ {w tx l a}, reads w.data (keeping.staged tx) l → l.InOrder → a ∈ l.accounts →
    (store.call (.getAccount a.id) tx w).1 = .ok a

/-! ## Ids in order -/

namespace Ledger

variable {l l' : Ledger}

theorem Numbered.mono {last last' : Nat} {ids : List Int} (numbered : Numbered last ids)
    (more : last ≤ last') : Numbered last' ids :=
  ⟨numbered.1, fun id mem => by have := numbered.2 id mem; omega⟩

theorem Numbered.concat {last : Nat} {ids : List Int} {id : Int} (numbered : Numbered last ids)
    (next : id = (last + 1 : Nat)) : Numbered (last + 1) (ids ++ [id]) :=
  next ▸ numbered.append

theorem inOrder_empty : empty.InOrder := by
  constructor <;> simp [empty, Numbered]

theorem InOrder.withAccount {a : Account} (order : l.InOrder)
    (next : a.id = (l.lastAccount + 1 : Nat)) : (l.withAccount a).InOrder := by
  refine ⟨?_, order.entries, order.transfers⟩
  rw [Ledger.withAccount, List.map_append]
  exact order.accounts.concat next

theorem InOrder.withEntry {e : Entry} (order : l.InOrder) (next : e.id = (l.lastEntry + 1 : Nat)) :
    (l.withEntry e).InOrder := by
  refine ⟨order.accounts, ?_, order.transfers⟩
  rw [Ledger.withEntry, List.map_append]
  exact order.entries.concat next

theorem InOrder.withTransfer {t : Transfer} (order : l.InOrder)
    (next : t.id = (l.lastTransfer + 1 : Nat)) : (l.withTransfer t).InOrder := by
  refine ⟨order.accounts, order.entries, ?_⟩
  rw [Ledger.withTransfer, List.map_append]
  exact order.transfers.concat next

theorem InOrder.setBalance (order : l.InOrder) (id balance : Int) :
    (l.setBalance id balance).InOrder :=
  ⟨by rw [ids_setBalance]; exact order.accounts, order.entries, order.transfers⟩

theorem InOrder.written (order : l.InOrder) (written : Written l l') : l'.InOrder := by
  cases written with
  | unchanged => exact order
  | opened a next => exact order.withAccount next
  | adjusted id balance => exact order.setBalance id balance
  | entered e next => exact order.withEntry next
  | transferred t next => exact order.withTransfer next

theorem sameRecords_setBalance (l : Ledger) (id balance : Int) :
    l.SameRecords (l.setBalance id balance) :=
  ⟨identities_setBalance, rfl, rfl⟩

end Ledger

/-! ## The store in memory -/

namespace Memory

open Ledger

variable {l : Ledger}

/-- The ledger of a transaction is added to as the answer says. -/
theorem sameRecords_onLedger (now : Timestamp) (l : Ledger) (c : Call) :
    (l.record c (onLedger now l c).1).SameRecords (onLedger now l c).2 := by
  cases c with
  | createAccount owner currency balance =>
    simp only [onLedger]
    cases made : l.createAccount now owner currency balance with
    | error e => exact .refl l
    | ok changed =>
      obtain ⟨-, -, -, same⟩ := createAccount_eq_ok.1 made
      exact same ▸ .refl _
  | adjust id delta =>
    simp only [onLedger]
    cases made : l.adjust id delta with
    | error e => exact .refl l
    | ok changed =>
      obtain ⟨before, -, -, -, -, same⟩ := of_adjust_ok made
      exact same ▸ sameRecords_setBalance ..
  | createEntry account amount =>
    simp only [onLedger]
    cases made : l.createEntry now account amount with
    | error e => exact .refl l
    | ok changed =>
      obtain ⟨-, -, same⟩ := createEntry_eq_ok.1 made
      exact same ▸ .refl _
  | createTransfer source destination amount =>
    simp only [onLedger]
    cases made : l.createTransfer now source destination amount with
    | error e => exact .refl l
    | ok changed =>
      obtain ⟨-, -, -, -, -, same⟩ := createTransfer_eq_ok.1 made
      exact same ▸ .refl _
  | _ => exact .refl l

/-- The store in memory is read as it is. -/
def shelf : Shelf keeping keeping.Spares where
  reads _ x l := x = l
  stir _ same := same
  spares spared := spared
  begin same := same
  call := by
    rintro w₀ w c tx l - order rfl
    refine ⟨_, rfl, ?_⟩
    show (Memory.call c tx w).2.1.InOrder ∧
      (tx.record c (Memory.call c tx w).1).SameRecords (Memory.call c tx w).2.1
    unfold Memory.call
    dsimp only
    split
    · rename_i e due
      refine ⟨order, ?_⟩
      cases c <;> exact .refl tx
    · exact ⟨order.written (written_onLedger _ tx c), sameRecords_onLedger _ tx c⟩
  call_shared order same := ⟨_, same, order, .refl _⟩
  commit same := same
  rollback same := same
  release same := same
  lists := by
    rintro w tx l s page rfl
    cases s <;> rfl
  gets := by
    rintro w tx l a rfl order mem
    exact getAccount_of_found (account?_of_mem order.accounts.nodup mem)

end Memory

/-! ## The relational store -/

namespace Relational

open Ledger Refinement

variable {l : Ledger} {t : Tables} {q : Sequences}

/-- The rows are read as the records of a ledger. -/
structure Tables.Holds (t : Tables) (l : Ledger) : Prop where
  accounts : List.Forall₂ (fun a r => AccountRow.read r = .ok a) l.accounts t.accounts
  entries : List.Forall₂ (fun e r => EntryRow.read r = .ok e) l.entries t.entries
  transfers : List.Forall₂ (fun u r => TransferRow.read r = .ok u) l.transfers t.transfers

/-- The numbers drawn last are those that the ledger has given out last. -/
def Sequences.Counts (q : Sequences) (l : Ledger) : Prop :=
  q = ⟨l.lastAccount, l.lastEntry, l.lastTransfer⟩

/-! ### Reading rows -/

theorem AccountRow.read_eq_ok {r : AccountRow} {a : Account} :
    r.read = .ok a ↔ readCurrency r.currency = .ok a.currency ∧
      readTimestamp r.createdAt = .ok a.createdAt ∧ r.id = a.id ∧ r.owner = a.owner ∧
        r.balance = a.balance := by
  obtain ⟨id, owner, balance, currency, createdAt⟩ := a
  unfold AccountRow.read
  cases readCurrency r.currency with
  | error e => simp [bind, Except.bind]
  | ok c =>
    cases readTimestamp r.createdAt with
    | error e => simp [bind, Except.bind]
    | ok time =>
      simp only [bind, Except.bind, pure, Except.pure, Except.ok.injEq, Account.mk.injEq]
      tauto

theorem EntryRow.of_read {r : EntryRow} {e : Entry} (read : r.read = .ok e) :
    r.id = e.id ∧ r.account = e.account := by
  unfold EntryRow.read at read
  cases createdAt : readTimestamp r.createdAt <;> rw [createdAt] at read <;> cases read
  exact ⟨rfl, rfl⟩

theorem TransferRow.of_read {r : TransferRow} {u : Transfer} (read : r.read = .ok u) :
    r.id = u.id ∧ r.source = u.source ∧ r.destination = u.destination := by
  unfold TransferRow.read at read
  cases createdAt : readTimestamp r.createdAt <;> rw [createdAt] at read <;> cases read
  exact ⟨rfl, rfl, rfl⟩

/-- Rows that can all be read are read one after the other. -/
theorem mapM_read {ρ α : Type} {read : ρ → Except Error α} {records : List α} {rows : List ρ}
    (all : List.Forall₂ (fun a r => read r = .ok a) records rows) :
    rows.mapM read = .ok records := by
  induction all with
  | nil => rfl
  | cons first _ ih =>
    rw [List.mapM_cons, first, ih]
    rfl

/-- A page of rows is read as a window on the records. -/
theorem window_read {ρ α : Type} {read : ρ → Except Error α} {records : List α} {rows : List ρ}
    {f : α → Bool} {g : ρ → Bool} (all : List.Forall₂ (fun a r => read r = .ok a) records rows)
    (same : ∀ a r, read r = .ok a → f a = g r) (page : Page) :
    (page.window (rows.filter g)).mapM read = .ok (page.window (records.filter f)) :=
  mapM_read (window_of_forall₂ page (filter_of_forall₂ all same))

/-! ### Writing rows -/

theorem readTimestamp_numeric {m : Moment} (dated : m.Dated) :
    readTimestamp (Rfc3339.numeric (.ofNanos m.now)) = .ok (.ofNanos m.now) := by
  rw [readTimestamp, Rfc3339.parseStrict?_ofNanos dated]

theorem Tables.Holds.setBalance (holds : t.Holds l) (id balance : Int) :
    (t.setBalance id balance).Holds (l.setBalance id balance) := by
  refine ⟨?_, holds.entries, holds.transfers⟩
  refine List.forall₂_map_left_iff.2 (List.forall₂_map_right_iff.2 (holds.accounts.imp ?_))
  intro a r read
  obtain ⟨currency, createdAt, sameId, owner, -⟩ := AccountRow.read_eq_ok.1 read
  by_cases here : a.id = id
  · rw [if_pos here, if_pos (sameId.trans here)]
    exact AccountRow.read_eq_ok.2 ⟨currency, createdAt, sameId, owner, rfl⟩
  · rw [if_neg here, if_neg fun there => here (sameId.symm.trans there)]
    exact read

theorem adjust_cases (t : Tables) (id delta : Int) :
    (t.adjust id delta).2 = t ∨ ∃ balance, (t.adjust id delta).2 = t.setBalance id balance := by
  unfold Tables.adjust
  split
  · exact .inl rfl
  · split
    · exact .inl rfl
    · rename_i balance _
      dsimp only
      split
      · exact .inl rfl
      · exact .inr ⟨balance, rfl⟩

/-- The ledger after numbers have been drawn for nothing. -/
def counted (l : Ledger) (q : Sequences) : Ledger :=
  { l with lastAccount := q.account, lastEntry := q.entry, lastTransfer := q.transfer }

/-- After a call, the tables hold a ledger to which its answer was added. -/
def Adds (q : Sequences) (l : Ledger) (c : Call) (done : c.Outcome × Tables) : Prop :=
  ∃ l', done.2.Holds l' ∧ q.Counts l' ∧ l'.InOrder ∧ (l.record c done.1).SameRecords l'

section Calls

variable (order : l.InOrder) (holds : t.Holds l) (counts : q.Counts l)

include order holds counts

/-- A call for which numbers were drawn for nothing. -/
theorem counted_draw (c : Call) : t.Holds (counted l (q.draw c)) ∧
    (q.draw c).Counts (counted l (q.draw c)) ∧ (counted l (q.draw c)).InOrder ∧
      l.SameRecords (counted l (q.draw c)) := by
  obtain rfl := counts
  refine ⟨⟨holds.accounts, holds.entries, holds.transfers⟩, rfl, ?_, ⟨rfl, rfl, rfl⟩⟩
  cases c with
  | createAccount => exact ⟨order.accounts.mono (Nat.le_succ _), order.entries, order.transfers⟩
  | createEntry => exact ⟨order.accounts, order.entries.mono (Nat.le_succ _), order.transfers⟩
  | createTransfer => exact ⟨order.accounts, order.entries, order.transfers.mono (Nat.le_succ _)⟩
  | _ => exact order

variable {m : Moment} (dated : m.Dated)

include dated

theorem adds_createAccount (owner : String) (currency : Currency) (balance : Int) :
    let c : Call := .createAccount owner currency balance
    Adds (q.draw c) l c (onTables (.ofNanos m.now) (q.draw c) t c) := by
  intro c
  have idle := counted_draw order holds counts c
  simp only [c, onTables, Tables.insertAccount] at idle ⊢
  split
  · exact ⟨_, idle⟩
  · split
    · exact ⟨_, idle⟩
    · obtain rfl := counts
      refine ⟨l.withAccount ⟨(l.lastAccount + 1 : Nat), owner, balance, currency, .ofNanos m.now⟩,
        ⟨?_, holds.entries, holds.transfers⟩, rfl, order.withAccount rfl, .refl _⟩
      refine append_of_forall₂ holds.accounts ?_
      simp only [AccountRow.read, readCurrency_code, readTimestamp_numeric dated]
      rfl

theorem adds_createEntry (account amount : Int) :
    let c : Call := .createEntry account amount
    Adds (q.draw c) l c (onTables (.ofNanos m.now) (q.draw c) t c) := by
  intro c
  have idle := counted_draw order holds counts c
  simp only [c, onTables, Tables.insertEntry] at idle ⊢
  split
  · obtain rfl := counts
    refine ⟨l.withEntry ⟨(l.lastEntry + 1 : Nat), account, amount, .ofNanos m.now⟩,
      ⟨holds.accounts, ?_, holds.transfers⟩, rfl, order.withEntry rfl, .refl _⟩
    refine append_of_forall₂ holds.entries ?_
    simp only [EntryRow.read, readTimestamp_numeric dated]
    rfl
  · exact ⟨_, idle⟩

theorem adds_createTransfer (source destination amount : Int) :
    let c : Call := .createTransfer source destination amount
    Adds (q.draw c) l c (onTables (.ofNanos m.now) (q.draw c) t c) := by
  intro c
  have idle := counted_draw order holds counts c
  simp only [c, onTables, Tables.insertTransfer] at idle ⊢
  split
  · exact ⟨_, idle⟩
  · split
    · obtain rfl := counts
      refine ⟨l.withTransfer ⟨(l.lastTransfer + 1 : Nat), source, destination, amount,
        .ofNanos m.now⟩, ⟨holds.accounts, holds.entries, ?_⟩, rfl, order.withTransfer rfl, .refl _⟩
      refine append_of_forall₂ holds.transfers ?_
      simp only [TransferRow.read, readTimestamp_numeric dated]
      rfl
    · exact ⟨_, idle⟩

/-- A call writes to the tables what its answer says. -/
theorem adds_onTables (c : Call) :
    Adds (q.draw c) l c (onTables (.ofNanos m.now) (q.draw c) t c) := by
  cases c with
  | createAccount owner currency balance =>
    exact adds_createAccount order holds counts dated owner currency balance
  | createEntry account amount => exact adds_createEntry order holds counts dated account amount
  | createTransfer source destination amount =>
    exact adds_createTransfer order holds counts dated source destination amount
  | adjust id delta =>
    show ∃ l', (t.adjust id delta).2.Holds l' ∧ _
    rcases adjust_cases t id delta with same | ⟨balance, changed⟩
    · rw [same]
      exact ⟨l, holds, counts, order, .refl l⟩
    · rw [changed]
      exact ⟨l.setBalance id balance, holds.setBalance id balance, counts,
        order.setBalance id balance, sameRecords_setBalance ..⟩
  | _ => exact ⟨l, holds, counts, order, .refl l⟩

end Calls

/-! ### The shelf -/

theorem Tables.Holds.lists (holds : t.Holds l) (now : Timestamp) (q : Sequences) (s : Listing)
    (page : Page) :
    s.answer (onTables now q t (s.call page)).1 = .ok (page.window (s.of l)) := by
  cases s with
  | accounts owner =>
    cases owner with
    | none => exact mapM_read (window_of_forall₂ page holds.accounts)
    | some name =>
      refine window_read holds.accounts (fun a r read => ?_) page
      rw [(AccountRow.read_eq_ok.1 read).2.2.2.1]
  | entries account =>
    refine window_read holds.entries (fun e r read => ?_) page
    rw [(EntryRow.of_read read).2]
  | transfers account =>
    refine window_read holds.transfers (fun u r read => ?_) page
    rw [Transfer.touches, (TransferRow.of_read read).2.1, (TransferRow.of_read read).2.2]

theorem Tables.Holds.gets (holds : t.Holds l) (order : l.InOrder) {a : Account}
    (mem : a ∈ l.accounts) : t.getAccount a.id = .ok a := by
  have found : l.account? a.id = some a := account?_of_mem order.accounts.nodup mem
  obtain ⟨missing, -⟩ | ⟨b, r, here, there, read⟩ :=
    find?_of_forall₂ (f := (·.id == a.id)) (g := (·.id == a.id)) holds.accounts
      fun b r read => by rw [(AccountRow.read_eq_ok.1 read).2.2.1]
  · cases found.symm.trans missing
  · cases found.symm.trans here
    rw [Tables.getAccount, show t.account? a.id = some r from there]
    exact read

/-- The relational store is read row by row. -/
def shelf : Shelf keeping fun w w' => w'.data = w.data ∧ w'.moment.Dated where
  reads d t l := t.Holds l ∧ d.sequences.Counts l
  stir := by
    rintro w w' x l ⟨same, -⟩ reads
    rwa [same]
  spares := by
    rintro w w' ⟨same, -⟩
    exact congrArg (·.tables) same
  begin reads := reads
  call := by
    rintro w₀ w c tx l ⟨-, dated⟩ order ⟨holds, counts⟩
    obtain ⟨l', holds', counts', order', same⟩ := adds_onTables order holds counts dated c
    exact ⟨l', ⟨holds', counts'⟩, order', same⟩
  call_shared := by
    rintro w c tx x l order ⟨holds, counts⟩
    obtain ⟨holds', counts', order', same⟩ := counted_draw order holds counts c
    exact ⟨_, ⟨holds', counts'⟩, order', same⟩
  commit reads := reads
  rollback reads := reads
  release reads := reads
  lists s page reads := reads.1.lists _ _ s page
  gets reads order mem := reads.1.gets order mem

end Relational
end DoubleEntry
