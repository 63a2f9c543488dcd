import DoubleEntry.Context
import DoubleEntry.Ledger

/-!
# What a user sees of a ledger

A user owns some of the accounts of a ledger, and sees these accounts, the entries on them and the
transfers that touch them.  Two ledgers look alike to a user (`Ledger.LooksAlike`) if they show the
user the same and have the same owners; anything else may differ.

* `LooksAlike.account?_cases` — looking up an account on two such ledgers gives the same account, or
  two accounts of the same other owner, or none on either side.
* `LooksAlike.entriesOf`, `LooksAlike.transfersOf` — the listings of an account that the user owns
  are the same.
-/

namespace DoubleEntry.Ledger

variable {l l' : Ledger} {p : Principal} {id : Int} {a : Account}

/-- Whether the account with an id belongs to a user. -/
def owns (l : Ledger) (p : Principal) (id : Int) : Bool :=
  (l.account? id).any (·.owner == p.username)

/-- The entries on the accounts of a user. -/
def entriesFor (l : Ledger) (p : Principal) : List Entry :=
  l.entries.filter fun e => l.owns p e.account

/-- The transfers with an account of a user on either side. -/
def transfersFor (l : Ledger) (p : Principal) : List Transfer :=
  l.transfers.filter fun t => l.owns p t.source || l.owns p t.destination

/-- Two ledgers look alike to a user: the same accounts have the same owners, and the user's own
accounts, entries and transfers are the same. -/
structure LooksAlike (p : Principal) (l l' : Ledger) : Prop where
  owners : ∀ id, (l'.account? id).map (·.owner) = (l.account? id).map (·.owner)
  accounts : l'.accountsOf (some p.username) = l.accountsOf (some p.username)
  entries : l'.entriesFor p = l.entriesFor p
  transfers : l'.transfersFor p = l.transfersFor p

/-! ## The listings of an account -/

theorem owns_eq_any (l : Ledger) (p : Principal) (id : Int) :
    l.owns p id = ((l.account? id).map (·.owner)).any (· == p.username) := by
  rw [owns, Option.any_map]

theorem owns_of_found (found : l.account? id = some a) (owner : p.username = a.owner) :
    l.owns p id = true := by
  simp [owns, found, owner]

/-- An account is found among those of its owner. -/
theorem find?_accountsOf (found : l.account? id = some a) :
    (l.accountsOf (some a.owner)).find? (·.id == id) = some a := by
  obtain ⟨same, before, after, accounts, others⟩ := List.find?_eq_some_iff_append.1 found
  rw [accountsOf, accounts, List.filter_append, List.filter_cons_of_pos (by simp),
    List.find?_append]
  have none : (before.filter (·.owner == a.owner)).find? (·.id == id) = none := by
    refine List.find?_eq_none.2 fun b mem => ?_
    simpa using others b (List.mem_filter.1 mem).1
  rw [none, Option.none_or]
  simp only [List.find?_cons, same]

theorem entriesOf_eq_filter (owned : l.owns p id = true) :
    l.entriesOf id = (l.entriesFor p).filter (·.account == id) := by
  rw [entriesOf, entriesFor, List.filter_filter]
  refine List.filter_congr fun e _ => ?_
  by_cases same : e.account = id <;> simp [same, owned]

theorem transfersOf_eq_filter (owned : l.owns p id = true) :
    l.transfersOf id = (l.transfersFor p).filter (·.touches id) := by
  rw [transfersOf, transfersFor, List.filter_filter]
  refine List.filter_congr fun t _ => ?_
  by_cases source : t.source = id
  · simp [Transfer.touches, source, owned]
  · by_cases destination : t.destination = id <;>
      simp [Transfer.touches, source, destination, owned]

/-! ## Ledgers that look alike -/

namespace LooksAlike

variable (alike : l.LooksAlike p l')

include alike

theorem owns (id : Int) : l'.owns p id = l.owns p id := by
  rw [owns_eq_any, owns_eq_any, alike.owners]

/-- An account is missing on both sides, or it is the user's own and the same, or it belongs to the
same other user. -/
theorem account?_cases (id : Int) :
    (l.account? id = none ∧ l'.account? id = none) ∨
      (∃ a, l.account? id = some a ∧ l'.account? id = some a ∧ p.username = a.owner) ∨
      ∃ a a', l.account? id = some a ∧ l'.account? id = some a' ∧ a'.owner = a.owner ∧
        p.username ≠ a.owner := by
  have owners := alike.owners id
  cases found : l.account? id with
  | none =>
    rw [found] at owners
    exact .inl ⟨rfl, Option.map_eq_none_iff.1 owners⟩
  | some a =>
    rw [found] at owners
    obtain ⟨a', found', same⟩ : ∃ a', l'.account? id = some a' ∧ a'.owner = a.owner :=
      Option.map_eq_some_iff.1 owners
    by_cases owner : p.username = a.owner
    · have here := find?_accountsOf found
      have there := find?_accountsOf found'
      rw [same, ← owner, alike.accounts, owner, here] at there
      cases there
      exact .inr (.inl ⟨a, rfl, found', owner⟩)
    · exact .inr (.inr ⟨a, a', rfl, found', same, owner⟩)

theorem entriesOf (owned : l.owns p id = true) : l'.entriesOf id = l.entriesOf id := by
  rw [entriesOf_eq_filter owned, entriesOf_eq_filter ((alike.owns id).trans owned), alike.entries]

theorem transfersOf (owned : l.owns p id = true) : l'.transfersOf id = l.transfersOf id := by
  rw [transfersOf_eq_filter owned, transfersOf_eq_filter ((alike.owns id).trans owned),
    alike.transfers]

end LooksAlike
end DoubleEntry.Ledger
