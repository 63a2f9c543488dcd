import Mathlib.Data.List.Nodup
import DoubleEntry.Proofs.Ledger.Accounts

/-!
# The constraints of the schema

`Ledger.WellFormed` gathers what the schema promises about the records of a ledger: the ids are
unique and given out in order, owners have one account in each currency, balances are amounts and
not negative, entries and transfers name accounts that exist, and transfers move a positive amount
between two accounts.
-/

namespace DoubleEntry.Ledger

/-- Ids are given out in ascending order up to the last one. -/
def Numbered (last : Nat) (ids : List Int) : Prop :=
  ids.Pairwise (· < ·) ∧ ∀ id ∈ ids, 0 < id ∧ id ≤ last

theorem Numbered.append {last : Nat} {ids : List Int} (numbered : Numbered last ids) :
    Numbered (last + 1) (ids ++ [((last + 1 : Nat) : Int)]) := by
  obtain ⟨ascending, bounds⟩ := numbered
  constructor
  · rw [List.pairwise_append]
    refine ⟨ascending, List.pairwise_singleton .., fun id mem next eq => ?_⟩
    have := bounds id mem
    rw [List.mem_singleton.1 eq]
    omega
  · intro id mem
    rcases List.mem_append.1 mem with before | new
    · have := bounds id before
      omega
    · rw [List.mem_singleton.1 new]
      omega

/-- A ledger that keeps the constraints of the schema. -/
structure WellFormed (l : Ledger) : Prop where
  accounts_numbered : Numbered l.lastAccount (l.accounts.map (·.id))
  entries_numbered : Numbered l.lastEntry (l.entries.map (·.id))
  transfers_numbered : Numbered l.lastTransfer (l.transfers.map (·.id))
  owners_distinct : (l.accounts.map fun a => (a.owner, a.currency)).Nodup
  balances : ∀ a ∈ l.accounts, 0 ≤ a.balance ∧ a.balance ≤ Amount.greatest
  entries_on_accounts : ∀ e ∈ l.entries, l.hasAccount e.account
  transfers_between : ∀ t ∈ l.transfers, l.hasAccount t.source ∧ l.hasAccount t.destination ∧
    0 < t.amount ∧ t.source ≠ t.destination

variable {l l' : Ledger} {id : Int} {a : Account}

theorem wellFormed_empty : empty.WellFormed := by
  constructor <;> simp [empty, Numbered]

theorem Numbered.nodup {last : Nat} {ids : List Int} (numbered : Numbered last ids) : ids.Nodup :=
  numbered.1.imp fun below => Int.ne_of_lt below

/-- An account is found by its id. -/
theorem account?_of_mem (distinct : (l.accounts.map (·.id)).Nodup) (mem : a ∈ l.accounts) :
    l.account? a.id = some a := by
  cases found : l.account? a.id with
  | none => exact absurd rfl (account?_eq_none.1 found a mem)
  | some b =>
    obtain ⟨mem', same⟩ := mem_of_account? found
    exact congrArg some (List.inj_on_of_nodup_map distinct mem' mem same)

theorem hasAccount_iff : l.hasAccount id = true ↔ id ∈ l.accounts.map (·.id) := by
  simp only [hasAccount, account?, List.find?_isSome, List.mem_map, beq_iff_eq]

/-- The last id given out is not in use yet when it is given out. -/
theorem WellFormed.account?_next (wf : l.WellFormed) :
    l.account? ((l.lastAccount + 1 : Nat) : Int) = none := by
  rw [account?_eq_none]
  intro a mem same
  have := (wf.accounts_numbered.2 a.id (List.mem_map_of_mem mem)).2
  omega

end DoubleEntry.Ledger
