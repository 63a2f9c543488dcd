import DoubleEntry.Proofs.Ledger.Schema

/-!
# What a transfer does to a ledger

`Ledger.transfer` is the whole outcome of a transfer as a function of the ledger: the first reason
against it that applies, or what was booked together with the new ledger.  It reads no store,
knows no transactions and cannot be interrupted; transfers on a store are measured against it.
-/

namespace DoubleEntry

/-- When the records of a transfer are made. -/
structure TransferTimes where
  debit : Timestamp
  credit : Timestamp
  transfer : Timestamp

namespace TransferRequest

/-- An account after a transfer between two accounts. -/
def settled (r : TransferRequest) (source destination a : Account) : Account :=
  if a.id = r.source then { a with balance := source.balance - r.amount }
  else if a.id = r.destination then { a with balance := destination.balance + r.amount }
  else a

variable {r : TransferRequest} {source destination a : Account}

@[simp] theorem settled_id : (r.settled source destination a).id = a.id := by
  unfold settled
  split
  · rfl
  · split <;> rfl

@[simp] theorem settled_owner : (r.settled source destination a).owner = a.owner := by
  unfold settled
  split
  · rfl
  · split <;> rfl

@[simp] theorem settled_currency : (r.settled source destination a).currency = a.currency := by
  unfold settled
  split
  · rfl
  · split <;> rfl

end TransferRequest

namespace Ledger

/-- A ledger with the two balances after a transfer. -/
def moved (l : Ledger) (r : TransferRequest) (source destination : Account) : Ledger :=
  { l with accounts := l.accounts.map (r.settled source destination) }

/-- What is booked for a transfer between two accounts: both balances, a debit, a credit and the
transfer itself, each with the next free id. -/
def booked (l : Ledger) (times : TransferTimes) (r : TransferRequest)
    (source destination : Account) : TransferResult × Ledger :=
  let sourceAccount := { source with balance := source.balance - r.amount }
  let destinationAccount := { destination with balance := destination.balance + r.amount }
  let debit : Entry := ⟨(l.lastEntry + 1 : Nat), r.source, -r.amount, times.debit⟩
  let credit : Entry := ⟨(l.lastEntry + 2 : Nat), r.destination, r.amount, times.credit⟩
  let transfer : Transfer :=
    ⟨(l.lastTransfer + 1 : Nat), r.source, r.destination, r.amount, times.transfer⟩
  ({ transfer, sourceAccount, destinationAccount, debit, credit },
    (((l.moved r source destination).withEntry debit).withEntry credit).withTransfer transfer)

/-- The two accounts of a transfer, or the first of them that is missing. -/
def parties (l : Ledger) (r : TransferRequest) : Except Error (Account × Account) :=
  match l.account? r.source, l.account? r.destination with
  | none, _ => .error (.noAccount r.source)
  | some _, none => .error (.noAccount r.destination)
  | some source, some destination => .ok (source, destination)

/-- The outcome of a transfer between two accounts, asked for by a principal or by a trusted
caller. -/
def transferBetween (l : Ledger) (principal : Option Principal) (times : TransferTimes)
    (r : TransferRequest) (source destination : Account) :
    Except Error (TransferResult × Ledger) :=
  if source.currency ≠ destination.currency then
    .error (.currencyMismatch source.currency destination.currency)
  else if principal.any fun p => p.username ≠ source.owner then
    .error (.unauthorized "account doesn't belong to the authenticated user")
  else if source.balance < r.amount then
    .error (.insufficientFunds r.source source.balance r.amount)
  else if Amount.greatest < destination.balance + r.amount then
    .error (.database "balance overflow")
  else .ok (l.booked times r source destination)

/-- The outcome of a transfer on a ledger. -/
def transfer (l : Ledger) (principal : Option Principal) (times : TransferTimes)
    (r : TransferRequest) : Except Error (TransferResult × Ledger) :=
  if r.amount ≤ 0 then .error (.validation "transfer amount must be positive")
  else if r.source = r.destination then
    .error (.validation "cannot transfer between the same account")
  else match l.parties r with
  | .error e => .error e
  | .ok (source, destination) => l.transferBetween principal times r source destination

variable {l l' : Ledger} {principal : Option Principal} {times : TransferTimes}
  {r : TransferRequest} {result : TransferResult} {source destination : Account}

theorem check_eq_ok : r.check = .ok () ↔ 0 < r.amount ∧ r.source ≠ r.destination := by
  unfold TransferRequest.check
  constructor
  · intro sound
    split at sound
    · cases sound
    · rename_i positive
      split at sound
      · cases sound
      · rename_i apart
        exact ⟨Int.not_le.1 positive, apart⟩
  · rintro ⟨positive, apart⟩
    rw [if_neg (Int.not_le.2 positive), if_neg apart]

theorem parties_eq_ok : l.parties r = .ok (source, destination) ↔
    l.account? r.source = some source ∧ l.account? r.destination = some destination := by
  unfold parties
  constructor
  · intro both
    split at both
    · cases both
    · cases both
    · rename_i foundSource foundDestination
      cases both
      exact ⟨foundSource, foundDestination⟩
  · rintro ⟨foundSource, foundDestination⟩
    rw [foundSource, foundDestination]

theorem transfer_of_unsound {e : Error} (unsound : r.check = .error e) :
    l.transfer principal times r = .error e := by
  unfold TransferRequest.check at unsound
  unfold transfer
  split at unsound
  · rename_i small
    cases unsound
    exact if_pos small
  · rename_i positive
    split at unsound
    · rename_i same
      cases unsound
      rw [if_neg positive, if_pos same]
    · cases unsound

theorem transfer_of_missing {e : Error} (sound : r.check = .ok ())
    (missing : l.parties r = .error e) :
    l.transfer principal times r = .error e := by
  obtain ⟨positive, apart⟩ := check_eq_ok.1 sound
  rw [transfer, if_neg (Int.not_le.2 positive), if_neg apart, missing]

/-- A sound request is decided by the two accounts. -/
theorem transfer_of_parties (sound : r.check = .ok ())
    (both : l.parties r = .ok (source, destination)) :
    l.transfer principal times r = l.transferBetween principal times r source destination := by
  obtain ⟨positive, apart⟩ := check_eq_ok.1 sound
  rw [transfer, if_neg (Int.not_le.2 positive), if_neg apart, both]

/-- Between accounts that may trade with each other, a sound request is decided by the balances. -/
theorem transfer_of_balances (times : TransferTimes) (sound : r.check = .ok ())
    (both : l.parties r = .ok (source, destination))
    (currency : source.currency = destination.currency)
    (owner : (principal.any fun p => p.username ≠ source.owner) = false) :
    l.transfer principal times r =
      if source.balance < r.amount then
        .error (.insufficientFunds r.source source.balance r.amount)
      else if Amount.greatest < destination.balance + r.amount then
        .error (.database "balance overflow")
      else .ok (l.booked times r source destination) := by
  rw [transfer_of_parties sound both, transferBetween, if_neg (not_not.2 currency), owner,
    if_neg Bool.false_ne_true]

theorem transferBetween_eq_ok :
    l.transferBetween principal times r source destination = .ok (result, l') ↔
      source.currency = destination.currency ∧
        (principal.any fun p => p.username ≠ source.owner) = false ∧ r.amount ≤ source.balance ∧
        destination.balance + r.amount ≤ Amount.greatest ∧
        l.booked times r source destination = (result, l') := by
  unfold transferBetween
  constructor
  · intro done
    split at done
    · cases done
    · rename_i currency
      split at done
      · cases done
      · rename_i owner
        split at done
        · cases done
        · rename_i funds
          split at done
          · cases done
          · rename_i room
            exact ⟨not_not.1 currency, Bool.eq_false_iff.2 owner, Int.not_lt.1 funds,
              Int.not_lt.1 room, Except.ok.inj done⟩
  · rintro ⟨currency, owner, funds, room, booked⟩
    rw [if_neg (not_not.2 currency), owner, if_neg Bool.false_ne_true, if_neg (Int.not_lt.2 funds),
      if_neg (Int.not_lt.2 room), booked]

/-- A transfer succeeds if and only if nothing speaks against it, and then it is booked. -/
theorem transfer_eq_ok :
    l.transfer principal times r = .ok (result, l') ↔
      0 < r.amount ∧ r.source ≠ r.destination ∧
        ∃ source destination, l.account? r.source = some source ∧
          l.account? r.destination = some destination ∧
          source.currency = destination.currency ∧
          (principal.any fun p => p.username ≠ source.owner) = false ∧
          r.amount ≤ source.balance ∧ destination.balance + r.amount ≤ Amount.greatest ∧
          l.booked times r source destination = (result, l') := by
  constructor
  · intro done
    cases sound : r.check with
    | error e => cases (transfer_of_unsound sound).symm.trans done
    | ok u =>
      cases both : l.parties r with
      | error e => cases (transfer_of_missing sound both).symm.trans done
      | ok accounts =>
        obtain ⟨source, destination⟩ := accounts
        rw [transfer_of_parties sound both] at done
        obtain ⟨positive, apart⟩ := check_eq_ok.1 sound
        obtain ⟨foundSource, foundDestination⟩ := parties_eq_ok.1 both
        exact ⟨positive, apart, source, destination, foundSource, foundDestination,
          transferBetween_eq_ok.1 done⟩
  · rintro ⟨positive, apart, source, destination, foundSource, foundDestination, done⟩
    rw [transfer_of_parties (check_eq_ok.2 ⟨positive, apart⟩)
      (parties_eq_ok.2 ⟨foundSource, foundDestination⟩)]
    exact transferBetween_eq_ok.2 done

/-! ## The balances after a transfer -/

/-- Setting the two balances one after the other gives the balances after the transfer. -/
theorem setBalance_setBalance (apart : r.source ≠ r.destination) :
    (l.setBalance r.source (source.balance - r.amount)).setBalance r.destination
      (destination.balance + r.amount) = l.moved r source destination := by
  simp only [setBalance, moved, List.map_map]
  congr 1
  refine List.map_congr_left fun a _ => ?_
  by_cases atSource : a.id = r.source
  · simp [TransferRequest.settled, atSource, apart]
  · simp [TransferRequest.settled, atSource]

theorem account?_moved (id : Int) :
    (l.moved r source destination).account? id =
      (l.account? id).map (r.settled source destination) := by
  have same : ((fun a : Account => a.id == id) ∘ r.settled source destination) =
      fun a => a.id == id := by
    funext a
    simp
  rw [moved, account?, List.find?_map, same]
  rfl

theorem account?_moved_source (destination : Account) (found : l.account? r.source = some source) :
    (l.moved r source destination).account? r.source =
      some { source with balance := source.balance - r.amount } := by
  rw [account?_moved, found, Option.map_some, TransferRequest.settled,
    if_pos (mem_of_account? found).2]

theorem account?_moved_destination (source : Account) (apart : r.source ≠ r.destination)
    (found : l.account? r.destination = some destination) :
    (l.moved r source destination).account? r.destination =
      some { destination with balance := destination.balance + r.amount } := by
  have same := (mem_of_account? found).2
  rw [account?_moved, found, Option.map_some, TransferRequest.settled,
    if_neg (same ▸ apart.symm), if_pos same]

/-! ## The constraints after a transfer -/

theorem ids_booked :
    (l.booked times r source destination).2.accounts.map (·.id) = l.accounts.map (·.id) := by
  simp [booked, moved, withEntry, withTransfer]

theorem hasAccount_booked {id : Int} :
    (l.booked times r source destination).2.hasAccount id = l.hasAccount id := by
  rw [Bool.eq_iff_iff, hasAccount_iff, hasAccount_iff, ids_booked]

/-- A transfer keeps the constraints of the schema. -/
theorem WellFormed.booked (wf : l.WellFormed) (positive : 0 < r.amount)
    (apart : r.source ≠ r.destination) (foundSource : l.account? r.source = some source)
    (foundDestination : l.account? r.destination = some destination)
    (funds : r.amount ≤ source.balance)
    (room : destination.balance + r.amount ≤ Amount.greatest) :
    (l.booked times r source destination).2.WellFormed where
  accounts_numbered := by
    rw [ids_booked]
    exact wf.accounts_numbered
  entries_numbered := by
    have two := wf.entries_numbered.append.append
    show Numbered (l.lastEntry + 1 + 1) ((l.entries ++ [_] ++ [_]).map Entry.id)
    rw [List.map_append, List.map_append]
    exact two
  transfers_numbered := by
    have one := wf.transfers_numbered.append
    show Numbered (l.lastTransfer + 1) ((l.transfers ++ [_]).map Transfer.id)
    rw [List.map_append]
    exact one
  owners_distinct := by
    have same : (l.booked times r source destination).2.accounts.map
        (fun a => (a.owner, a.currency)) = l.accounts.map fun a => (a.owner, a.currency) := by
      simp [Ledger.booked, moved, withEntry, withTransfer]
    rw [same]
    exact wf.owners_distinct
  balances := by
    intro a mem
    obtain ⟨before, held, rfl⟩ := List.mem_map.1 mem
    have atSource := wf.balances source (mem_of_account? foundSource).1
    have atDestination := wf.balances destination (mem_of_account? foundDestination).1
    unfold TransferRequest.settled
    split
    · dsimp only
      omega
    · split
      · dsimp only
        omega
      · exact wf.balances before held
  entries_on_accounts := by
    intro e mem
    rw [hasAccount_booked]
    rcases List.mem_append.1 mem with mem | credit
    · rcases List.mem_append.1 mem with before | debit
      · exact wf.entries_on_accounts e before
      · rw [List.mem_singleton.1 debit]
        exact hasAccount_of_found foundSource
    · rw [List.mem_singleton.1 credit]
      exact hasAccount_of_found foundDestination
  transfers_between := by
    intro t mem
    rw [hasAccount_booked, hasAccount_booked]
    rcases List.mem_append.1 mem with before | new
    · exact wf.transfers_between t before
    · rw [List.mem_singleton.1 new]
      exact ⟨hasAccount_of_found foundSource, hasAccount_of_found foundDestination, positive, apart⟩

theorem WellFormed.transfer (wf : l.WellFormed)
    (done : l.transfer principal times r = .ok (result, l')) : l'.WellFormed := by
  obtain ⟨positive, apart, source, destination, foundSource, foundDestination, -, -, funds, room,
    booked⟩ := transfer_eq_ok.1 done
  have kept : (l.booked times r source destination).2.WellFormed :=
    wf.booked positive apart foundSource foundDestination funds room
  rwa [booked] at kept

end Ledger
end DoubleEntry
