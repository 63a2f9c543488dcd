import DoubleEntry.Proofs.Ledger.Constraints
import DoubleEntry.Proofs.Store.Steps
import DoubleEntry.Proofs.Listing.Leafing

/-!
# What is listed, and when it was created

A `Listing` is one of the three kinds of listings of a ledger, with the records that it asks for.
A `Chronicle` goes through what has been done with a store and gathers the records that were
created, in this order, from nothing but the answers of the calls that created them: those that were
committed, and those that the open transaction may see.

Records are only added at the end (`Chronicle.continues_after`), so what is on a full page stays
there.
-/

namespace DoubleEntry

/-! ## Listings -/

/-- What can be listed: accounts, of all or of one owner, and the entries and transfers of an
account. -/
inductive Listing where
  | accounts (owner : Option String)
  | entries (account : Int)
  | transfers (account : Int)

namespace Listing

/-- What the listing consists of. -/
@[reducible] def Record : Listing → Type
  | .accounts _ => Account
  | .entries _ => Entry
  | .transfers _ => Transfer

/-- The call for a page. -/
def call (s : Listing) (page : Page) : Call :=
  match s with
  | .accounts owner => .listAccounts owner page
  | .entries account => .listEntries account page
  | .transfers account => .listTransfers account page

/-- The records that a ledger has. -/
def of (s : Listing) (l : Ledger) : List s.Record :=
  match s with
  | .accounts owner => l.accountsOf owner
  | .entries account => l.entriesOf account
  | .transfers account => l.transfersOf account

/-- The answer to a call for a page. -/
def answer {page : Page} : (s : Listing) → (s.call page).Outcome → Except Error (List s.Record)
  | .accounts _, outcome | .entries _, outcome | .transfers _, outcome => outcome

def id : (s : Listing) → s.Record → Int
  | .accounts _, a => a.id
  | .entries _, e => e.id
  | .transfers _, t => t.id

/-- What of a record stays for good: of an account the id, the owner and the currency, and all of
entries and transfers. -/
@[reducible] def Essence : Listing → Type
  | .accounts _ => Int × String × Currency
  | .entries _ => Entry
  | .transfers _ => Transfer

def essence : (s : Listing) → s.Record → s.Essence
  | .accounts _, a => a.identity
  | .entries _, e => e
  | .transfers _, t => t

/-- The id is among what stays. -/
def idOf : (s : Listing) → s.Essence → Int
  | .accounts _, x => x.1
  | .entries _, e => e.id
  | .transfers _, t => t.id

theorem idOf_essence (s : Listing) (r : s.Record) : s.idOf (s.essence r) = s.id r := by
  cases s <;> rfl

theorem map_id (s : Listing) (records : List s.Record) :
    records.map s.id = (records.map s.essence).map s.idOf := by
  rw [List.map_map]
  exact List.map_congr_left fun r _ => (s.idOf_essence r).symm

end Listing

/-! ## Ledgers with the same records -/

namespace Ledger

variable {l l' l'' : Ledger}

/-- Two ledgers have the same records, whatever the balances. -/
structure SameRecords (l l' : Ledger) : Prop where
  accounts : l'.accounts.map Account.identity = l.accounts.map Account.identity
  entries : l'.entries = l.entries
  transfers : l'.transfers = l.transfers

theorem SameRecords.refl (l : Ledger) : l.SameRecords l := ⟨rfl, rfl, rfl⟩

theorem SameRecords.trans (first : l.SameRecords l') (later : l'.SameRecords l'') :
    l.SameRecords l'' :=
  ⟨later.accounts.trans first.accounts, later.entries.trans first.entries,
    later.transfers.trans first.transfers⟩

/-- The ids of all records are given out in ascending order. -/
structure InOrder (l : Ledger) : Prop where
  accounts : Numbered l.lastAccount (l.accounts.map (·.id))
  entries : Numbered l.lastEntry (l.entries.map (·.id))
  transfers : Numbered l.lastTransfer (l.transfers.map (·.id))

/-- The ledger with what a call has created, by its answer. -/
def record (l : Ledger) : (c : Call) → c.Outcome → Ledger
  | .createAccount .., .ok a => l.withAccount a
  | .createEntry .., .ok e => l.withEntry e
  | .createTransfer .., .ok t => l.withTransfer t
  | _, _ => l

theorem record_error (l : Ledger) (c : Call) (e : Error) : l.record c (.error e) = l := by
  cases c <;> rfl

theorem SameRecords.record (same : l.SameRecords l') (c : Call) (outcome : c.Outcome) :
    (l.record c outcome).SameRecords (l'.record c outcome) := by
  obtain ⟨accounts, entries, transfers⟩ := same
  cases c with
  | createAccount owner currency balance =>
    cases outcome with
    | error e => exact ⟨accounts, entries, transfers⟩
    | ok a =>
      refine ⟨?_, entries, transfers⟩
      simp only [Ledger.record, withAccount, List.map_append, accounts]
  | createEntry account amount =>
    cases outcome with
    | error e => exact ⟨accounts, entries, transfers⟩
    | ok e => exact ⟨accounts, congrArg (· ++ [e]) entries, transfers⟩
  | createTransfer source destination amount =>
    cases outcome with
    | error e => exact ⟨accounts, entries, transfers⟩
    | ok t => exact ⟨accounts, entries, congrArg (· ++ [t]) transfers⟩
  | _ => exact ⟨accounts, entries, transfers⟩

theorem growsTo_record (l : Ledger) (c : Call) (outcome : c.Outcome) :
    l.GrowsTo (l.record c outcome) := by
  cases c with
  | createAccount owner currency balance =>
    cases outcome with
    | error e => exact .refl l
    | ok a =>
      refine ⟨?_, List.prefix_rfl, List.prefix_rfl⟩
      simp only [record, withAccount, List.map_append]
      exact List.prefix_append ..
  | createEntry account amount =>
    cases outcome with
    | error e => exact .refl l
    | ok e => exact ⟨List.prefix_rfl, List.prefix_append .., List.prefix_rfl⟩
  | createTransfer source destination amount =>
    cases outcome with
    | error e => exact .refl l
    | ok t => exact ⟨List.prefix_rfl, List.prefix_rfl, List.prefix_append ..⟩
  | _ => exact .refl l

end Ledger

namespace Listing

open Ledger

variable {l l' : Ledger}

/-- What an account is listed for stays for good. -/
theorem essences_accountsOf (l : Ledger) (owner : Option String) :
    (l.accountsOf owner).map Account.identity =
      (l.accounts.map Account.identity).filter fun x => owner.all (x.2.1 == ·) := by
  cases owner with
  | none => exact (List.filter_eq_self.2 fun _ _ => rfl).symm
  | some name =>
    rw [List.filter_map]
    rfl

/-- Ledgers with the same records have the same listings, up to the balances. -/
theorem essences_of_sameRecords (same : l.SameRecords l') (s : Listing) :
    (s.of l').map s.essence = (s.of l).map s.essence := by
  cases s with
  | accounts owner =>
    exact (essences_accountsOf l' owner).trans
      ((congrArg _ same.accounts).trans (essences_accountsOf l owner).symm)
  | entries account =>
    show (l'.entriesOf account).map _ = (l.entriesOf account).map _
    rw [entriesOf, entriesOf, same.entries]
  | transfers account =>
    show (l'.transfersOf account).map _ = (l.transfersOf account).map _
    rw [transfersOf, transfersOf, same.transfers]

/-- What is added to a ledger comes at the end of its listings. -/
theorem essences_of_growsTo (grows : l.GrowsTo l') (s : Listing) :
    (s.of l).map s.essence <+: (s.of l').map s.essence := by
  cases s with
  | accounts owner =>
    have prefixed := grows.accounts.filter fun x => owner.all (x.2.1 == ·)
    rwa [← essences_accountsOf, ← essences_accountsOf] at prefixed
  | entries account => exact (grows.entries.filter _).map _
  | transfers account => exact (grows.transfers.filter _).map _

/-- Listings are in the order of the ids. -/
theorem ascending_of_inOrder (order : l.InOrder) (s : Listing) :
    ((s.of l).map s.id).Pairwise (· < ·) := by
  cases s with
  | accounts owner =>
    have sublist : (l.accountsOf owner).Sublist l.accounts := by
      cases owner with
      | none => exact .refl _
      | some name => exact List.filter_sublist
    exact order.accounts.1.sublist (sublist.map _)
  | entries account => exact order.entries.1.sublist (List.filter_sublist.map _)
  | transfers account => exact order.transfers.1.sublist (List.filter_sublist.map _)

end Listing

/-! ## Chronicles -/

/-- What is done with a store: steps, and it is closed and opened again. -/
inductive Usage (ν : Type) where
  | step (q : Step ν)
  | reopen

@[reducible] def Usage.Answer {ν : Type} : Usage ν → Type
  | .step q => q.Answer
  | .reopen => Unit

/-- The records that have been created, with the balances that accounts were opened with. -/
structure Chronicle where
  /-- Those that were committed. -/
  lasting : Ledger
  /-- Those that the transaction may see that was opened last. -/
  pending : Ledger

namespace Chronicle

variable {ν : Type}

/-- Nothing has been created. -/
def start : Chronicle := ⟨.empty, .empty⟩

/-- What an answer adds to the story. -/
def next (h : Chronicle) : (u : Usage ν) → u.Answer → Chronicle
  | .step (.begin _), .ok () => { h with pending := h.lasting }
  | .step (.call _ c), outcome => { h with pending := h.pending.record c outcome }
  | .step .commit, .ok () => { h with lasting := h.pending }
  | _, _ => h

/-- The story of what has been done. -/
def after (h : Chronicle) (trace : List ((u : Usage ν) × u.Answer)) : Chronicle :=
  trace.foldl (fun h e => h.next e.1 e.2) h

/-- What holds of the state of a store and its story, after each thing that is done, holds in the
end. -/
theorem keeps_after {S : Type} {takes : S → (u : Usage ν) → u.Answer → S → Prop}
    {P : S → Chronicle → Prop}
    (kept : ∀ {s u answer s' h}, takes s u answer s' → P s h → P s' (h.next u answer))
    {s s' : S} {trace : List ((u : Usage ν) × u.Answer)} (way : Program.Along takes s trace s')
    {h : Chronicle} (start : P s h) : P s' (h.after trace) := by
  induction trace generalizing s h with
  | nil => exact way ▸ start
  | cons e rest ih =>
    obtain ⟨next, taken, way⟩ := way
    exact ih way (kept taken start)

/-- Whatever is done, it is added to what was created before. -/
structure Continues (l : Ledger) (h : Chronicle) : Prop where
  lasting : l.GrowsTo h.lasting
  pending : l.GrowsTo h.pending

theorem continues_next {l : Ledger} {h : Chronicle} (continues : Continues l h) (u : Usage ν)
    (answer : u.Answer) : Continues l (h.next u answer) := by
  obtain ⟨lasting, pending⟩ := continues
  cases u with
  | reopen => exact ⟨lasting, pending⟩
  | step q =>
    cases q with
    | begin ctx =>
      cases answer with
      | error e => exact ⟨lasting, pending⟩
      | ok u => exact ⟨lasting, lasting⟩
    | call ctx c => exact ⟨lasting, pending.trans (Ledger.growsTo_record _ c answer)⟩
    | commit =>
      cases answer with
      | error e => exact ⟨lasting, pending⟩
      | ok u => exact ⟨pending, pending⟩
    | _ => exact ⟨lasting, pending⟩

theorem continues_after {l : Ledger} {h : Chronicle} (continues : Continues l h)
    (trace : List ((u : Usage ν) × u.Answer)) : Continues l (h.after trace) := by
  induction trace generalizing h with
  | nil => exact continues
  | cons e rest ih => exact ih (continues_next continues e.1 e.2)

end Chronicle
end DoubleEntry
