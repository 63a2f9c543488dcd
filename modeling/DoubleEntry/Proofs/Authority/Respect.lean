import DoubleEntry.Proofs.Ledger.Books

/-!
# What a user may do to a ledger

A change to a ledger respects everybody but its author (`Ledger.Respects`) if it takes nothing from
the accounts of others and opens none for them.  A transfer that a user asks for, and an account
that a user opens, are such changes.

A transfer is authorized on a ledger (`Ledger.Authorizes`) if its source belongs to the user and
both sides have the same currency.  Since accounts stay with their owners and currencies, what is
authorized stays authorized.
-/

namespace DoubleEntry.Ledger

variable {l l' l'' : Ledger} {p : Principal} {r : TransferRequest}

/-! ## Transfers that are authorized -/

/-- The source of a transfer belongs to the user, and the two sides have the same currency. -/
def Authorizes (l : Ledger) (p : Principal) (r : TransferRequest) : Prop :=
  ∃ source destination, l.account? r.source = some source ∧
    l.account? r.destination = some destination ∧ source.owner = p.username ∧
    source.currency = destination.currency

theorem Authorizes.persists (authorizes : l.Authorizes p r) (persists : l.PersistsIn l') :
    l'.Authorizes p r := by
  obtain ⟨source, destination, foundSource, foundDestination, owner, currency⟩ := authorizes
  obtain ⟨source', foundSource', owner', currency'⟩ := persists _ source foundSource
  obtain ⟨destination', foundDestination', -, same⟩ := persists _ destination foundDestination
  refine ⟨source', destination', foundSource', foundDestination', owner'.trans owner, ?_⟩
  rw [currency', same, currency]

/-! ## Changes that respect others -/

/-- From one ledger to the next, no account of others is lost or has less than before, and no
account is opened for anybody but the user. -/
structure Respects (p : Principal) (l l' : Ledger) : Prop where
  kept : ∀ id a, l.account? id = some a → ∃ a', l'.account? id = some a' ∧ a'.owner = a.owner ∧
    (a.owner ≠ p.username → a.balance ≤ a'.balance)
  opened : ∀ a' ∈ l'.accounts,
    (∃ a ∈ l.accounts, a.id = a'.id ∧ a.owner = a'.owner) ∨ a'.owner = p.username

theorem Respects.refl (p : Principal) (l : Ledger) : l.Respects p l :=
  ⟨fun _ a found => ⟨a, found, rfl, fun _ => Int.le_refl _⟩, fun a mem => .inl ⟨a, mem, rfl, rfl⟩⟩

theorem Respects.trans (first : l.Respects p l') (later : l'.Respects p l'') :
    l.Respects p l'' := by
  constructor
  · intro id a found
    obtain ⟨a', found', owner, more⟩ := first.kept id a found
    obtain ⟨a'', found'', owner', more'⟩ := later.kept id a' found'
    refine ⟨a'', found'', owner'.trans owner, fun other => ?_⟩
    exact Int.le_trans (more other) (more' (owner ▸ other))
  · intro a'' mem
    obtain ⟨a', mem', id, owner⟩ | own := later.opened a'' mem
    · obtain ⟨a, mem, id', owner'⟩ | own := first.opened a' mem'
      · exact .inl ⟨a, mem, id'.trans id, owner'.trans owner⟩
      · exact .inr (owner ▸ own)
    · exact .inr own

/-- A transfer that was carried out for a user was authorized, and takes from the user only. -/
theorem of_transfer_for {times : TransferTimes} {result : TransferResult}
    (done : l.transfer (some p) times r = .ok (result, l')) :
    l.Authorizes p r ∧ l.Respects p l' := by
  obtain ⟨positive, apart, source, destination, foundSource, foundDestination, currency, own, -, -,
    booked⟩ := transfer_eq_ok.1 done
  have owner : source.owner = p.username := Eq.symm (by simpa using own)
  obtain rfl : (l.booked times r source destination).2 = l' := congrArg (·.2) booked
  have found (id : Int) : (l.booked times r source destination).2.account? id =
      (l.account? id).map (r.settled source destination) := account?_moved id
  refine ⟨⟨source, destination, foundSource, foundDestination, owner, currency⟩, ?_, ?_⟩
  · intro id a here
    refine ⟨_, (found id).trans (congrArg _ here), TransferRequest.settled_owner, fun other => ?_⟩
    have same := (mem_of_account? here).2
    unfold TransferRequest.settled
    split
    · rename_i atSource
      -- The source belongs to the user.
      rw [← same, atSource, foundSource] at here
      cases here
      exact absurd owner other
    · split
      · rename_i atDestination
        rw [← same, atDestination, foundDestination] at here
        cases here
        dsimp only
        omega
      · exact Int.le_refl _
  · intro a' mem
    obtain ⟨a, before, rfl⟩ := List.mem_map.1 mem
    exact .inl ⟨a, before, TransferRequest.settled_id.symm, TransferRequest.settled_owner.symm⟩

/-- Opening an account for oneself takes nothing from others. -/
theorem respects_createAccount {now : Timestamp} {owner : String} {currency : Currency}
    {balance : Int} {a : Account} (own : p.username = owner)
    (done : l.createAccount now owner currency balance = .ok (a, l')) : l.Respects p l' := by
  obtain ⟨-, -, rfl, rfl⟩ := createAccount_eq_ok.1 done
  constructor
  · intro id b found
    exact ⟨b, account?_withAccount found _, rfl, fun _ => Int.le_refl _⟩
  · intro b mem
    rcases List.mem_append.1 mem with before | new
    · exact .inl ⟨b, before, rfl, rfl⟩
    · rw [List.mem_singleton.1 new]
      exact .inr own.symm

end DoubleEntry.Ledger
