import Mathlib.Data.Int.ConditionallyCompleteOrder
import Mathlib.Data.List.Forall2
import Mathlib.Data.List.Pairwise
import Mathlib.Order.Monotone.Basic
import Mathlib.Order.SuccPred.Basic
import DoubleEntry.Proofs.Ledger.Schema

/-!
# Records of two stores

Two stores that keep the same ledger may give different ids to the same record.  A `Pairing` says
which ids stand for the same account, entry or transfer, and records, answers and failures of the
two stores *agree* if they differ in nothing else but the ids and the time of their creation.

* `Renaming` — a pairing by functions that keep the order of the ids.
* `Register` — a pairing by lists, as it builds up while two stores are at work: the first store
  numbers its records from one on, the second leaves gaps (`Paired`).
* `Register.exists_renaming` — every register is part of a renaming.
-/

namespace DoubleEntry

/-- Which ids of two stores stand for the same record. -/
structure Pairing where
  account : Int → Int → Prop
  entry : Int → Int → Prop
  transfer : Int → Int → Prop

/-- One pairing is part of another. -/
instance : LE Pairing where
  le P Q := (∀ {x y}, P.account x y → Q.account x y) ∧ (∀ {x y}, P.entry x y → Q.entry x y) ∧
    ∀ {x y}, P.transfer x y → Q.transfer x y

/-! ## Agreement -/

section Agreement

variable (P : Pairing)

/-- Two accounts are the same up to their ids and the time of creation. -/
structure Account.Agrees (a b : Account) : Prop where
  id : P.account a.id b.id
  owner : b.owner = a.owner
  balance : b.balance = a.balance
  currency : b.currency = a.currency

structure Entry.Agrees (e f : Entry) : Prop where
  id : P.entry e.id f.id
  account : P.account e.account f.account
  amount : f.amount = e.amount

structure Transfer.Agrees (t u : Transfer) : Prop where
  id : P.transfer t.id u.id
  source : P.account t.source u.source
  destination : P.account t.destination u.destination
  amount : u.amount = t.amount

structure TransferResult.Agrees (r s : TransferResult) : Prop where
  transfer : r.transfer.Agrees P s.transfer
  sourceAccount : r.sourceAccount.Agrees P s.sourceAccount
  destinationAccount : r.destinationAccount.Agrees P s.destinationAccount
  debit : r.debit.Agrees P s.debit
  credit : r.credit.Agrees P s.credit

/-- Two failures are the same up to ids, and up to the text if the store itself failed. -/
inductive Error.Agrees : Error → Error → Prop where
  | same (e : Error) : Agrees e e
  | missing (x y : Int) : Agrees (.noAccount x) (.noAccount y)
  | short {x y : Int} (account : P.account x y) (balance requested : Int) :
      Agrees (.insufficientFunds x balance requested) (.insufficientFunds y balance requested)
  | database (reason reason' : String) : Agrees (.database reason) (.database reason')

/-- Two outcomes are both successes, with values that agree, or both failures that agree. -/
inductive Outcome.Agrees {α β : Type} (good : α → β → Prop) :
    Except Error α → Except Error β → Prop where
  | ok {a : α} {b : β} (values : good a b) : Agrees good (.ok a) (.ok b)
  | error {e f : Error} (failures : e.Agrees P f) : Agrees good (.error e) (.error f)

end Agreement

section Agreement

variable {P Q : Pairing}

/-- Failures that agree are of one kind. -/
theorem Error.Agrees.kind {e f : Error} (agree : e.Agrees P f) : f.kind = e.kind := by
  cases agree <;> rfl

theorem Error.Agrees.isTransient {e f : Error} (agree : e.Agrees P f) :
    f.isTransient = e.isTransient := by
  cases agree <;> rfl

theorem Account.Agrees.mono (part : P ≤ Q) {a b : Account} (agree : a.Agrees P b) :
    a.Agrees Q b :=
  ⟨part.1 agree.id, agree.owner, agree.balance, agree.currency⟩

theorem Entry.Agrees.mono (part : P ≤ Q) {e f : Entry} (agree : e.Agrees P f) : e.Agrees Q f :=
  ⟨part.2.1 agree.id, part.1 agree.account, agree.amount⟩

theorem Transfer.Agrees.mono (part : P ≤ Q) {t u : Transfer} (agree : t.Agrees P u) :
    t.Agrees Q u :=
  ⟨part.2.2 agree.id, part.1 agree.source, part.1 agree.destination, agree.amount⟩

theorem TransferResult.Agrees.mono (part : P ≤ Q) {r s : TransferResult} (agree : r.Agrees P s) :
    r.Agrees Q s :=
  ⟨agree.transfer.mono part, agree.sourceAccount.mono part, agree.destinationAccount.mono part,
    agree.debit.mono part, agree.credit.mono part⟩

theorem Error.Agrees.mono (part : P ≤ Q) {e f : Error} (agree : e.Agrees P f) : e.Agrees Q f := by
  cases agree with
  | same e => exact .same e
  | missing x y => exact .missing x y
  | short account balance requested => exact .short (part.1 account) balance requested
  | database reason reason' => exact .database reason reason'

theorem Outcome.Agrees.imp {α β : Type} {good good' : α → β → Prop} (part : P ≤ Q)
    (also : ∀ a b, good a b → good' a b) {r : Except Error α} {s : Except Error β}
    (agree : Outcome.Agrees P good r s) : Outcome.Agrees Q good' r s := by
  cases agree with
  | ok values => exact .ok (also _ _ values)
  | error failures => exact .error (failures.mono part)

end Agreement

/-! ## Renamings -/

/-- New ids for accounts, entries and transfers, in the same order as the old ones. -/
structure Renaming where
  account : Int → Int
  entry : Int → Int
  transfer : Int → Int
  account_strictMono : StrictMono account
  entry_strictMono : StrictMono entry
  transfer_strictMono : StrictMono transfer

/-- A renaming pairs each id with the new one. -/
def Renaming.pairing (ρ : Renaming) : Pairing :=
  ⟨fun x y => ρ.account x = y, fun x y => ρ.entry x = y, fun x y => ρ.transfer x = y⟩

/-! ## Numbering with gaps -/

/-- Pairs of ids in the order in which they were given out: the first ones count from one up to
`last`, the second ones ascend among the numbers drawn so far. -/
structure Paired (last drawn : Nat) (ids : List (Int × Int)) : Prop where
  first : ids.map (·.1) = (List.range last).map fun n => ((n + 1 : Nat) : Int)
  second : Ledger.Numbered drawn (ids.map (·.2))

namespace Paired

variable {last drawn drawn' : Nat} {ids : List (Int × Int)} {x y x' y' : Int}

theorem nil : Paired 0 0 [] := ⟨rfl, by simp [Ledger.Numbered]⟩

/-- Numbers may be drawn for nothing. -/
theorem mono (paired : Paired last drawn ids) (later : drawn ≤ drawn') :
    Paired last drawn' ids := by
  refine ⟨paired.first, paired.second.1, fun id mem => ?_⟩
  have := paired.second.2 id mem
  omega

/-- The next record gets the next number of the first store, and the number that was just drawn in
the second. -/
theorem append (paired : Paired last drawn ids) :
    Paired (last + 1) (drawn + 1)
      (ids ++ [(((last + 1 : Nat) : Int), ((drawn + 1 : Nat) : Int))]) := by
  constructor
  · rw [List.map_append, paired.first, List.range_succ, List.map_append]
    rfl
  · rw [List.map_append]
    exact paired.second.append

theorem first_getElem (paired : Paired last drawn ids) {n : Nat} (bound : n < ids.length) :
    ids[n].1 = n + 1 := by
  have same := List.getElem_of_eq paired.first (i := n) (by simpa using bound)
  simpa using same

theorem ascending (paired : Paired last drawn ids) :
    ids.Pairwise fun p q => p.1 < q.1 ∧ p.2 < q.2 := by
  have numbered : (ids.map (·.1)).Pairwise (· < ·) := by
    rw [paired.first, List.pairwise_map]
    refine List.pairwise_lt_range.imp fun below => ?_
    omega
  exact (List.pairwise_map.1 numbered).and (List.pairwise_map.1 paired.second.1)

/-- The pairs keep the order. -/
theorem lt_iff (paired : Paired last drawn ids) (mem : (x, y) ∈ ids) (mem' : (x', y') ∈ ids) :
    x < x' ↔ y < y' := by
  have forth : ids.Pairwise fun p q => p.1 < q.1 ↔ p.2 < q.2 :=
    paired.ascending.imp fun below => by omega
  have back : ids.Pairwise (flip fun p q => p.1 < q.1 ↔ p.2 < q.2) :=
    paired.ascending.imp fun below => by
      unfold flip
      omega
  exact forth.forall_of_forall_of_flip (by simp) back mem mem'

theorem eq_iff (paired : Paired last drawn ids) (mem : (x, y) ∈ ids) (mem' : (x', y') ∈ ids) :
    x = x' ↔ y = y' := by
  have := paired.lt_iff mem mem'
  have := paired.lt_iff mem' mem
  omega

/-- The pairs as a function, continued on both sides. -/
def extension (ids : List (Int × Int)) (drawn : Nat) (x : Int) : Int :=
  if x < 1 then x
  else if bound : x.toNat - 1 < ids.length then (ids[x.toNat - 1]).2
  else drawn + x

theorem extension_of_mem (paired : Paired last drawn ids) (mem : (x, y) ∈ ids) :
    extension ids drawn x = y := by
  obtain ⟨n, bound, at_n⟩ := List.getElem_of_mem mem
  have count : x = n + 1 := by
    have := paired.first_getElem bound
    rwa [at_n] at this
  have index : x.toNat - 1 = n := by omega
  have bound' : x.toNat - 1 < ids.length := index ▸ bound
  rw [extension, if_neg (by omega), dif_pos bound']
  simp only [index, at_n]

theorem extension_strictMono (paired : Paired last drawn ids) :
    StrictMono (extension ids drawn) := by
  have bounds (n : Nat) (inside : n < ids.length) : 0 < ids[n].2 ∧ ids[n].2 ≤ drawn :=
    paired.second.2 _ (List.mem_map_of_mem (List.getElem_mem inside))
  refine strictMono_int_of_lt_succ fun x => ?_
  unfold extension
  by_cases positive : x < 1
  · rw [if_pos positive]
    split
    · omega
    · split
      · have := bounds _ ‹_›
        omega
      · omega
  · have next : (x + 1).toNat - 1 = x.toNat - 1 + 1 := by omega
    rw [if_neg positive, if_neg (by omega)]
    simp only [next]
    by_cases more : x.toNat - 1 + 1 < ids.length
    · rw [dif_pos more, dif_pos (by omega)]
      exact (List.pairwise_iff_getElem.1 paired.ascending _ _ _ more (by omega)).2
    · rw [dif_neg more]
      split
      · have := bounds _ ‹_›
        omega
      · omega

end Paired

/-! ## Registers -/

/-- The pairs of ids that two stores have given out so far. -/
structure Register where
  accounts : List (Int × Int)
  entries : List (Int × Int)
  transfers : List (Int × Int)

namespace Register

/-- No ids were given out. -/
def empty : Register := ⟨[], [], []⟩

/-- The ids on the lists belong to each other. -/
def pairing (p : Register) : Pairing :=
  ⟨fun x y => (x, y) ∈ p.accounts, fun x y => (x, y) ∈ p.entries, fun x y => (x, y) ∈ p.transfers⟩

instance : LE Register := ⟨fun p q => p.pairing ≤ q.pairing⟩

theorem le_refl (p : Register) : p ≤ p := ⟨id, id, id⟩

theorem le_trans {p q r : Register} (first : p ≤ q) (later : q ≤ r) : p ≤ r :=
  ⟨fun mem => later.1 (first.1 mem), fun mem => later.2.1 (first.2.1 mem),
    fun mem => later.2.2 (first.2.2 mem)⟩

/-- **Every register is part of a renaming.** -/
theorem exists_renaming {p : Register} {lastAccount lastEntry lastTransfer : Nat}
    {drawnAccount drawnEntry drawnTransfer : Nat}
    (accounts : Paired lastAccount drawnAccount p.accounts)
    (entries : Paired lastEntry drawnEntry p.entries)
    (transfers : Paired lastTransfer drawnTransfer p.transfers) :
    ∃ ρ : Renaming, p.pairing ≤ ρ.pairing := by
  refine ⟨⟨Paired.extension p.accounts drawnAccount, Paired.extension p.entries drawnEntry,
    Paired.extension p.transfers drawnTransfer, accounts.extension_strictMono,
    entries.extension_strictMono, transfers.extension_strictMono⟩, ?_⟩
  exact ⟨accounts.extension_of_mem, entries.extension_of_mem, transfers.extension_of_mem⟩

end Register
end DoubleEntry
