import DoubleEntry.Proofs.Ledger.Books
import DoubleEntry.Proofs.Refinement.Pairing
import DoubleEntry.Store.Relational

/-!
# Tables that show a ledger

The tables of a database show a ledger if they have a row for each of its records, in the same
order, with the ids that a register pairs with those of the ledger (`Tables.Shows`).  Rows that show
a record read as a record that agrees with it, accounts are found under paired ids, and the same
additions on both sides keep the picture.
-/

namespace DoubleEntry

/-! ## Lists side by side -/

namespace Refinement

variable {α β γ : Type} {R : α → β → Prop} {xs : List α} {ys : List β}

theorem find?_of_forall₂ {f : α → Bool} {g : β → Bool} (all : List.Forall₂ R xs ys)
    (same : ∀ a b, R a b → f a = g b) :
    (xs.find? f = none ∧ ys.find? g = none) ∨
      ∃ a b, xs.find? f = some a ∧ ys.find? g = some b ∧ R a b := by
  induction all with
  | nil => exact .inl ⟨rfl, rfl⟩
  | @cons a b xs ys related rest ih =>
    rw [List.find?_cons, List.find?_cons, ← same a b related]
    cases f a with
    | true => exact .inr ⟨a, b, rfl, rfl, related⟩
    | false => exact ih

theorem filter_of_forall₂ {f : α → Bool} {g : β → Bool} (all : List.Forall₂ R xs ys)
    (same : ∀ a b, R a b → f a = g b) : List.Forall₂ R (xs.filter f) (ys.filter g) := by
  induction all with
  | nil => exact .nil
  | @cons a b xs ys related rest ih =>
    rw [List.filter_cons, List.filter_cons, ← same a b related]
    cases f a with
    | true => exact .cons related ih
    | false => exact ih

theorem filter_eq_nil_of_forall₂ {f : α → Bool} {g : β → Bool} (all : List.Forall₂ R xs ys)
    (same : ∀ a b, R a b → f a = g b) (none : xs.filter f = []) : ys.filter g = [] := by
  have both := filter_of_forall₂ all same
  rw [none] at both
  exact List.forall₂_nil_left_iff.1 both

theorem any_of_forall₂ {f : α → Bool} {g : β → Bool} (all : List.Forall₂ R xs ys)
    (same : ∀ a b, R a b → f a = g b) : ys.any g = xs.any f := by
  induction all with
  | nil => rfl
  | cons related rest ih => rw [List.any_cons, List.any_cons, ih, same _ _ related]

theorem map_of_forall₂ {f : α → γ} {g : β → γ} (all : List.Forall₂ R xs ys)
    (same : ∀ a b, R a b → f a = g b) : ys.map g = xs.map f := by
  induction all with
  | nil => rfl
  | cons related rest ih => rw [List.map_cons, List.map_cons, ih, same _ _ related]

theorem exists_zip_of_forall₂ {a : α} (all : List.Forall₂ R xs ys) (mem : a ∈ xs) :
    ∃ b, (a, b) ∈ xs.zip ys ∧ R a b := by
  induction all with
  | nil => cases mem
  | @cons a' b' xs ys related rest ih =>
    rcases List.mem_cons.1 mem with rfl | mem
    · exact ⟨b', List.mem_cons_self .., related⟩
    · obtain ⟨b, there, related⟩ := ih mem
      exact ⟨b, List.mem_cons_of_mem _ there, related⟩

theorem append_of_forall₂ {a : α} {b : β} (all : List.Forall₂ R xs ys) (last : R a b) :
    List.Forall₂ R (xs ++ [a]) (ys ++ [b]) :=
  List.rel_append all (.cons last .nil)

theorem window_of_forall₂ (page : Page) (all : List.Forall₂ R xs ys) :
    List.Forall₂ R (page.window xs) (page.window ys) :=
  List.forall₂_take _ (List.forall₂_drop _ all)

/-- Rows are read one after the other. -/
theorem mapM_of_forall₂ {read : β → Except Error γ} {S : α → γ → Prop}
    (all : List.Forall₂ R xs ys) (each : ∀ a b, R a b → ∃ c, read b = .ok c ∧ S a c) :
    ∃ zs, ys.mapM read = .ok zs ∧ List.Forall₂ S xs zs := by
  induction all with
  | nil => exact ⟨[], rfl, .nil⟩
  | @cons a b xs ys related rest ih =>
    obtain ⟨c, first, agree⟩ := each a b related
    obtain ⟨zs, later, agrees⟩ := ih
    refine ⟨c :: zs, ?_, .cons agree agrees⟩
    rw [List.mapM_cons, first, later]
    rfl

end Refinement

namespace Relational

open Refinement

variable {P Q : Pairing}

/-! ## Rows -/

/-- A row reads as a timestamp. -/
def Legible (text : String) : Prop := ∃ t, readTimestamp text = .ok t

theorem legible_numeric {now : Timestamp}
    (written : Rfc3339.parseStrict? (Rfc3339.numeric now) = some now) :
    Legible (Rfc3339.numeric now) :=
  ⟨now, by rw [readTimestamp, written]⟩

theorem readCurrency_code (c : Currency) : readCurrency c.code = .ok c := by
  cases c <;> rfl

/-- The row of an account. -/
structure AccountRow.Shows (P : Pairing) (a : Account) (r : AccountRow) : Prop where
  id : P.account a.id r.id
  owner : r.owner = a.owner
  balance : r.balance = a.balance
  currency : r.currency = a.currency.code
  createdAt : Legible r.createdAt

structure EntryRow.Shows (P : Pairing) (e : Entry) (r : EntryRow) : Prop where
  id : P.entry e.id r.id
  account : P.account e.account r.account
  amount : r.amount = e.amount
  createdAt : Legible r.createdAt

structure TransferRow.Shows (P : Pairing) (t : Transfer) (r : TransferRow) : Prop where
  id : P.transfer t.id r.id
  source : P.account t.source r.source
  destination : P.account t.destination r.destination
  amount : r.amount = t.amount
  createdAt : Legible r.createdAt

theorem AccountRow.Shows.mono (part : P ≤ Q) {a : Account} {r : AccountRow} (shows : r.Shows P a) :
    r.Shows Q a :=
  ⟨part.1 shows.id, shows.owner, shows.balance, shows.currency, shows.createdAt⟩

theorem EntryRow.Shows.mono (part : P ≤ Q) {e : Entry} {r : EntryRow} (shows : r.Shows P e) :
    r.Shows Q e :=
  ⟨part.2.1 shows.id, part.1 shows.account, shows.amount, shows.createdAt⟩

theorem TransferRow.Shows.mono (part : P ≤ Q) {t : Transfer} {r : TransferRow}
    (shows : r.Shows P t) : r.Shows Q t :=
  ⟨part.2.2 shows.id, part.1 shows.source, part.1 shows.destination, shows.amount, shows.createdAt⟩

theorem AccountRow.Shows.read {a : Account} {r : AccountRow} (shows : r.Shows P a) :
    ∃ b, r.read = .ok b ∧ a.Agrees P b ∧ b.id = r.id := by
  obtain ⟨t, legible⟩ := shows.createdAt
  refine ⟨⟨r.id, r.owner, r.balance, a.currency, t⟩, ?_, ?_, rfl⟩
  · rw [AccountRow.read, shows.currency, readCurrency_code, legible]
    rfl
  · exact ⟨shows.id, shows.owner, shows.balance, rfl⟩

theorem EntryRow.Shows.read {e : Entry} {r : EntryRow} (shows : r.Shows P e) :
    ∃ f, r.read = .ok f ∧ e.Agrees P f := by
  obtain ⟨t, legible⟩ := shows.createdAt
  refine ⟨⟨r.id, r.account, r.amount, t⟩, ?_, ⟨shows.id, shows.account, shows.amount⟩⟩
  rw [EntryRow.read, legible]
  rfl

theorem TransferRow.Shows.read {t : Transfer} {r : TransferRow} (shows : r.Shows P t) :
    ∃ u, r.read = .ok u ∧ t.Agrees P u := by
  obtain ⟨time, legible⟩ := shows.createdAt
  refine ⟨⟨r.id, r.source, r.destination, r.amount, time⟩, ?_,
    ⟨shows.id, shows.source, shows.destination, shows.amount⟩⟩
  rw [TransferRow.read, legible]
  rfl

/-! ## Tables -/

/-- The tables have a row for each record of the ledger, in the same order.  The register pairs the
ids, those of the rows being among the numbers drawn from the sequences; all accounts on it are
there. -/
structure Tables.Shows (p : Register) (l : Ledger) (q : Sequences) (t : Tables) : Prop where
  accounts : List.Forall₂ (fun a r => AccountRow.Shows p.pairing a r) l.accounts t.accounts
  entries : List.Forall₂ (fun e r => EntryRow.Shows p.pairing e r) l.entries t.entries
  transfers : List.Forall₂ (fun u r => TransferRow.Shows p.pairing u r) l.transfers t.transfers
  held : l.accounts.map (·.id) = p.accounts.map (·.1)
  accountIds : Paired l.lastAccount q.account p.accounts
  entryIds : Paired l.lastEntry q.entry p.entries
  transferIds : Paired l.lastTransfer q.transfer p.transfers

/-- Two ids name the accounts at the same place of the two stores, or no accounts at all. -/
def SamePlace (l : Ledger) (t : Tables) (id id' : Int) : Prop :=
  ∀ x ∈ l.accounts.zip t.accounts, x.1.id = id ↔ x.2.id = id'

instance {l : Ledger} {t : Tables} {id id' : Int} : Decidable (SamePlace l t id id') :=
  inferInstanceAs (Decidable (∀ x ∈ l.accounts.zip t.accounts, x.1.id = id ↔ x.2.id = id'))

/-- Two ids name accounts that belong to each other, or none at all. -/
def Meets (p : Register) (id id' : Int) : Prop :=
  ∀ ⦃x y⦄, (x, y) ∈ p.accounts → (x = id ↔ y = id')

namespace Tables.Shows

variable {p : Register} {l : Ledger} {q q' : Sequences} {t : Tables} {id id' : Int}

theorem empty : Tables.empty.Shows .empty .empty .fresh where
  accounts := .nil
  entries := .nil
  transfers := .nil
  held := rfl
  accountIds := .nil
  entryIds := .nil
  transferIds := .nil

/-- Numbers may be drawn for nothing. -/
theorem drawn (shows : t.Shows p l q) (accounts : q.account ≤ q'.account)
    (entries : q.entry ≤ q'.entry) (transfers : q.transfer ≤ q'.transfer) : t.Shows p l q' :=
  ⟨shows.accounts, shows.entries, shows.transfers, shows.held, shows.accountIds.mono accounts,
    shows.entryIds.mono entries, shows.transferIds.mono transfers⟩

/-- A call draws its numbers before it is carried out. -/
theorem draw (shows : t.Shows p l q) (c : Call) : t.Shows p l (q.draw c) := by
  cases c with
  | createAccount => exact shows.drawn (Nat.le_succ _) (Nat.le_refl _) (Nat.le_refl _)
  | createEntry => exact shows.drawn (Nat.le_refl _) (Nat.le_succ _) (Nat.le_refl _)
  | createTransfer => exact shows.drawn (Nat.le_refl _) (Nat.le_refl _) (Nat.le_succ _)
  | _ => exact shows

theorem meets (shows : t.Shows p l q) (paired : (id, id') ∈ p.accounts) : Meets p id id' :=
  fun _ _ mem => shows.accountIds.eq_iff mem paired

theorem meets_of_samePlace (shows : t.Shows p l q) (same : SamePlace l t id id') :
    Meets p id id' := by
  intro x y mem
  have numbered : x ∈ l.accounts.map (·.id) := by
    rw [shows.held]
    exact List.mem_map_of_mem mem
  obtain ⟨a, held, rfl⟩ := List.mem_map.1 numbered
  obtain ⟨r, beside, row⟩ := exists_zip_of_forall₂ shows.accounts held
  have this : y = r.id := (shows.meets row.id mem).1 rfl
  exact this ▸ same (a, r) beside

/-- Tests for an account come out alike if the ids belong to each other. -/
theorem beq_eq (shows : t.Shows p l q) (paired : (id, id') ∈ p.accounts) {x y : Int}
    (mem : (x, y) ∈ p.accounts) : (x == id) = (y == id') := by
  rw [Bool.eq_iff_iff, beq_iff_eq, beq_iff_eq]
  exact shows.meets paired mem

/-! ### Looking up accounts -/

/-- An account is found on both sides, or on none. -/
theorem account? (shows : t.Shows p l q) (meets : Meets p id id') :
    (l.account? id = none ∧ t.account? id' = none) ∨
      ∃ a r, l.account? id = some a ∧ t.account? id' = some r ∧ r.Shows p.pairing a := by
  refine find?_of_forall₂ shows.accounts fun a r row => ?_
  rw [Bool.eq_iff_iff, beq_iff_eq, beq_iff_eq]
  exact meets row.id

theorem row_id {r : AccountRow} (found : t.account? id = some r) : r.id = id := by
  simpa using List.find?_some found

/-- Reading an account gives accounts that agree, or fails on both sides. -/
theorem getAccount (shows : t.Shows p l q) (meets : Meets p id id') :
    (l.getAccount id = .error (.noAccount id) ∧ t.getAccount id' = .error (.noAccount id')) ∨
      ∃ a b, l.account? id = some a ∧ l.getAccount id = .ok a ∧ t.getAccount id' = .ok b ∧
        a.Agrees p.pairing b ∧ (id, id') ∈ p.accounts := by
  obtain ⟨missing, missing'⟩ | ⟨a, r, found, found', row⟩ := shows.account? meets
  · refine .inl ⟨Ledger.getAccount_of_missing missing, ?_⟩
    rw [Tables.getAccount, missing']
  · obtain ⟨b, read, agree, -⟩ := row.read
    have paired := row.id
    rw [(Ledger.mem_of_account? found).2, row_id found'] at paired
    refine .inr ⟨a, b, found, Ledger.getAccount_of_found found, ?_, agree, paired⟩
    rw [Tables.getAccount, found', ← read]

theorem hasAccount (shows : t.Shows p l q) (paired : (id, id') ∈ p.accounts) :
    t.hasAccount id' = l.hasAccount id := by
  obtain ⟨missing, missing'⟩ | ⟨a, r, found, found', -⟩ := shows.account? (shows.meets paired)
  · rw [Tables.hasAccount, Ledger.hasAccount, missing, missing']
    rfl
  · rw [Tables.hasAccount, Ledger.hasAccount, found, found']
    rfl

theorem holds (shows : t.Shows p l q) (owner : String) (currency : Currency) :
    (t.accounts.any fun r => r.owner == owner && r.currency == currency.code) =
      l.holds owner currency := by
  refine any_of_forall₂ shows.accounts fun a r row => ?_
  have same : (a.currency == currency) = (a.currency.code == currency.code) := by
    cases a.currency <;> cases currency <;> rfl
  rw [row.owner, row.currency, same]

/-! ### Changing balances and adding records -/

theorem setBalance (shows : t.Shows p l q) (paired : (id, id') ∈ p.accounts) (balance : Int) :
    (t.setBalance id' balance).Shows p (l.setBalance id balance) q := by
  refine ⟨?_, shows.entries, shows.transfers, Ledger.ids_setBalance.trans shows.held,
    shows.accountIds, shows.entryIds, shows.transferIds⟩
  refine List.forall₂_map_left_iff.2 (List.forall₂_map_right_iff.2 (shows.accounts.imp ?_))
  intro a r row
  have same : a.id = id ↔ r.id = id' := shows.meets paired row.id
  by_cases this : a.id = id
  · rw [if_pos this, if_pos (same.1 this)]
    exact ⟨row.id, row.owner, rfl, row.currency, row.createdAt⟩
  · rw [if_neg this, if_neg (mt same.2 this)]
    exact row

variable {now' : Timestamp}

/-- A new account on both sides. -/
theorem withAccount (shows : t.Shows p l q) {a : Account} {r : AccountRow}
    (id : a.id = (l.lastAccount + 1 : Nat)) (id' : r.id = (q.account + 1 : Nat))
    (owner : r.owner = a.owner) (balance : r.balance = a.balance)
    (currency : r.currency = a.currency.code) (createdAt : Legible r.createdAt) :
    let p' : Register := { p with accounts := p.accounts ++ [(a.id, r.id)] }
    p ≤ p' ∧ (a.id, r.id) ∈ p'.accounts ∧
      Tables.Shows p' (l.withAccount a) { q with account := q.account + 1 }
        { t with accounts := t.accounts ++ [r] } := by
  intro p'
  have part : p ≤ p' := ⟨fun mem => List.mem_append_left _ mem, fun mem => mem, fun mem => mem⟩
  have new : (a.id, r.id) ∈ p'.accounts := List.mem_append_right _ (List.mem_singleton.2 rfl)
  refine ⟨part, new, ?_, ?_, ?_, ?_, ?_, shows.entryIds, shows.transferIds⟩
  · exact append_of_forall₂ (shows.accounts.imp fun _ _ row => row.mono part)
      ⟨new, owner, balance, currency, createdAt⟩
  · exact shows.entries.imp fun _ _ row => row.mono part
  · exact shows.transfers.imp fun _ _ row => row.mono part
  · rw [Ledger.withAccount, List.map_append, List.map_append, shows.held]
    rfl
  · show Paired _ _ (p.accounts ++ [(a.id, r.id)])
    rw [id, id']
    exact shows.accountIds.append

/-- A new entry on both sides. -/
theorem withEntry (shows : t.Shows p l q) {e : Entry} {r : EntryRow}
    (id : e.id = (l.lastEntry + 1 : Nat)) (id' : r.id = (q.entry + 1 : Nat))
    (account : (e.account, r.account) ∈ p.accounts) (amount : r.amount = e.amount)
    (createdAt : Legible r.createdAt) :
    let p' : Register := { p with entries := p.entries ++ [(e.id, r.id)] }
    p ≤ p' ∧ (e.id, r.id) ∈ p'.entries ∧
      Tables.Shows p' (l.withEntry e) { q with entry := q.entry + 1 }
        { t with entries := t.entries ++ [r] } := by
  intro p'
  have part : p ≤ p' := ⟨fun mem => mem, fun mem => List.mem_append_left _ mem, fun mem => mem⟩
  have new : (e.id, r.id) ∈ p'.entries := List.mem_append_right _ (List.mem_singleton.2 rfl)
  refine ⟨part, new, ?_, ?_, ?_, shows.held, shows.accountIds, ?_, shows.transferIds⟩
  · exact shows.accounts.imp fun _ _ row => row.mono part
  · exact append_of_forall₂ (shows.entries.imp fun _ _ row => row.mono part)
      ⟨new, account, amount, createdAt⟩
  · exact shows.transfers.imp fun _ _ row => row.mono part
  · show Paired _ _ (p.entries ++ [(e.id, r.id)])
    rw [id, id']
    exact shows.entryIds.append

/-- A new transfer on both sides. -/
theorem withTransfer (shows : t.Shows p l q) {u : Transfer} {r : TransferRow}
    (id : u.id = (l.lastTransfer + 1 : Nat)) (id' : r.id = (q.transfer + 1 : Nat))
    (source : (u.source, r.source) ∈ p.accounts)
    (destination : (u.destination, r.destination) ∈ p.accounts) (amount : r.amount = u.amount)
    (createdAt : Legible r.createdAt) :
    let p' : Register := { p with transfers := p.transfers ++ [(u.id, r.id)] }
    p ≤ p' ∧ (u.id, r.id) ∈ p'.transfers ∧
      Tables.Shows p' (l.withTransfer u) { q with transfer := q.transfer + 1 }
        { t with transfers := t.transfers ++ [r] } := by
  intro p'
  have part : p ≤ p' := ⟨fun mem => mem, fun mem => mem, fun mem => List.mem_append_left _ mem⟩
  have new : (u.id, r.id) ∈ p'.transfers := List.mem_append_right _ (List.mem_singleton.2 rfl)
  refine ⟨part, new, ?_, ?_, ?_, shows.held, shows.accountIds, shows.entryIds, ?_⟩
  · exact shows.accounts.imp fun _ _ row => row.mono part
  · exact shows.entries.imp fun _ _ row => row.mono part
  · exact append_of_forall₂ (shows.transfers.imp fun _ _ row => row.mono part)
      ⟨new, source, destination, amount, createdAt⟩
  · show Paired _ _ (p.transfers ++ [(u.id, r.id)])
    rw [id, id']
    exact shows.transferIds.append

end Tables.Shows
end Relational
end DoubleEntry
