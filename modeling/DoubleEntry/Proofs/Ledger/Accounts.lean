import DoubleEntry.Store.Memory

/-!
# The accounts of a ledger

What the operations on a ledger do to its accounts.  An account that is there stays there, with its
owner and its currency: `Ledger.PersistsIn`, which every store call keeps.
-/

namespace DoubleEntry.Ledger

variable {l l' l'' : Ledger} {id other balance delta : Int} {a : Account}

/-! ## Looking up accounts -/

theorem mem_of_account? (found : l.account? id = some a) : a ∈ l.accounts ∧ a.id = id :=
  ⟨List.mem_of_find?_eq_some found, by simpa using List.find?_some found⟩

theorem account?_eq_none : l.account? id = none ↔ ∀ a ∈ l.accounts, a.id ≠ id := by
  simp [account?]

theorem getAccount_of_found (found : l.account? id = some a) : l.getAccount id = .ok a := by
  rw [getAccount, found]

theorem getAccount_of_missing (missing : l.account? id = none) :
    l.getAccount id = .error (.noAccount id) := by
  rw [getAccount, missing]

theorem hasAccount_of_found (found : l.account? id = some a) : l.hasAccount id = true := by
  rw [hasAccount, found]
  rfl

theorem requireAccount_of_found (found : l.account? id = some a) :
    l.requireAccount id = .ok () := by
  rw [requireAccount, hasAccount_of_found found, if_pos rfl]

/-! ## Changing a balance -/

theorem account?_setBalance (l : Ledger) (id balance other : Int) :
    (l.setBalance id balance).account? other =
      (l.account? other).map fun a => if a.id = id then { a with balance } else a := by
  have same : ((fun a : Account => a.id == other) ∘ fun a =>
      if a.id = id then { a with balance } else a) = fun a => a.id == other := by
    funext a
    by_cases this : a.id = id <;> simp [this]
  rw [setBalance, account?, List.find?_map, same]
  rfl

theorem account?_setBalance_self (found : l.account? id = some a) :
    (l.setBalance id balance).account? id = some { a with balance } := by
  rw [account?_setBalance, found, Option.map_some, if_pos (mem_of_account? found).2]

theorem account?_setBalance_of_ne (ne : other ≠ id) :
    (l.setBalance id balance).account? other = l.account? other := by
  rw [account?_setBalance]
  cases found : l.account? other with
  | none => rfl
  | some b => rw [Option.map_some, if_neg ((mem_of_account? found).2 ▸ ne)]

theorem adjust_of_found (found : l.account? id = some a) (low : 0 ≤ a.balance + delta)
    (high : a.balance + delta ≤ Amount.greatest) :
    l.adjust id delta =
      .ok ({ a with balance := a.balance + delta }, l.setBalance id (a.balance + delta)) := by
  have fits : Amount.InRange (a.balance + delta) := ⟨Int.le_trans (by decide) low, high⟩
  simp [adjust, getAccount_of_found found, bind, Except.bind, Amount.fit?, fits, Int.not_lt.2 low]

theorem adjust_of_overflow (found : l.account? id = some a)
    (high : Amount.greatest < a.balance + delta) :
    l.adjust id delta = .error (.database "balance overflow") := by
  have outside : ¬ Amount.InRange (a.balance + delta) := fun range => Int.not_le.2 high range.2
  simp [adjust, getAccount_of_found found, bind, Except.bind, Amount.fit?, outside]

/-- A balance that was adjusted is the sum, and lies in the range of balances. -/
theorem of_adjust_ok (adjusted : l.adjust id delta = .ok (a, l')) :
    ∃ before, l.account? id = some before ∧ 0 ≤ before.balance + delta ∧
      before.balance + delta ≤ Amount.greatest ∧
      a = { before with balance := before.balance + delta } ∧
      l' = l.setBalance id (before.balance + delta) := by
  cases found : l.account? id with
  | none => simp [adjust, getAccount_of_missing found, bind, Except.bind] at adjusted
  | some before =>
    by_cases fits : Amount.InRange (before.balance + delta)
    · simp only [adjust, getAccount_of_found found, bind, Except.bind, Amount.fit?, if_pos fits]
        at adjusted
      split at adjusted
      · cases adjusted
      · rename_i low
        cases adjusted
        exact ⟨before, rfl, Int.not_lt.1 low, fits.2, rfl, rfl⟩
    · simp [adjust, getAccount_of_found found, bind, Except.bind, Amount.fit?, fits] at adjusted

/-! ## Records -/

/-- A ledger with one more entry. -/
def withEntry (l : Ledger) (e : Entry) : Ledger :=
  { l with entries := l.entries ++ [e], lastEntry := l.lastEntry + 1 }

/-- A ledger with one more transfer. -/
def withTransfer (l : Ledger) (t : Transfer) : Ledger :=
  { l with transfers := l.transfers ++ [t], lastTransfer := l.lastTransfer + 1 }

theorem account?_withEntry (l : Ledger) (e : Entry) (id : Int) :
    (l.withEntry e).account? id = l.account? id := rfl

theorem createEntry_of_found (found : l.account? id = some a) (now : Timestamp) (amount : Int) :
    l.createEntry now id amount =
      .ok (⟨(l.lastEntry + 1 : Nat), id, amount, now⟩,
        l.withEntry ⟨(l.lastEntry + 1 : Nat), id, amount, now⟩) := by
  rw [createEntry, requireAccount_of_found found]
  rfl

theorem createTransfer_of_found {destination : Account} (found : l.account? id = some a)
    (foundOther : l.account? other = some destination) (now : Timestamp) {amount : Int}
    (positive : 0 < amount) (apart : id ≠ other) :
    l.createTransfer now id other amount =
      .ok (⟨(l.lastTransfer + 1 : Nat), id, other, amount, now⟩,
        l.withTransfer ⟨(l.lastTransfer + 1 : Nat), id, other, amount, now⟩) := by
  have sound : ¬ (amount ≤ 0 ∨ id = other) := fun wrong =>
    wrong.elim (Int.not_le.2 positive) apart
  rw [createTransfer, requireAccount_of_found found, requireAccount_of_found foundOther]
  exact if_neg sound

/-! ## Calls that change the ledger -/

section Calls

variable {now : Timestamp} {amount : Int}

theorem onLedger_adjust (adjusted : l.adjust id delta = .ok (a, l')) :
    Memory.onLedger now l (.adjust id delta) = (.ok a, l') := by
  rw [Memory.onLedger, adjusted]
  rfl

theorem onLedger_adjust_error {e : Error} (failed : l.adjust id delta = .error e) :
    Memory.onLedger now l (.adjust id delta) = (.error e, l) := by
  rw [Memory.onLedger, failed]
  rfl

theorem onLedger_createEntry {e : Entry} (booked : l.createEntry now id amount = .ok (e, l')) :
    Memory.onLedger now l (.createEntry id amount) = (.ok e, l') := by
  rw [Memory.onLedger, booked]
  rfl

theorem onLedger_createTransfer {t : Transfer}
    (recorded : l.createTransfer now id other amount = .ok (t, l')) :
    Memory.onLedger now l (.createTransfer id other amount) = (.ok t, l') := by
  rw [Memory.onLedger, recorded]
  rfl

end Calls

/-! ## Accounts that stay -/

/-- Every account of the ledger is still there, with its owner and its currency. -/
def PersistsIn (l l' : Ledger) : Prop :=
  ∀ id a, l.account? id = some a →
    ∃ a', l'.account? id = some a' ∧ a'.owner = a.owner ∧ a'.currency = a.currency

theorem PersistsIn.refl (l : Ledger) : l.PersistsIn l := fun _ a found => ⟨a, found, rfl, rfl⟩

theorem PersistsIn.trans (first : l.PersistsIn l') (later : l'.PersistsIn l'') :
    l.PersistsIn l'' := by
  intro id a found
  obtain ⟨a', found', owner, currency⟩ := first id a found
  obtain ⟨a'', found'', owner', currency'⟩ := later id a' found'
  exact ⟨a'', found'', owner'.trans owner, currency'.trans currency⟩

theorem persistsIn_of_accounts (same : l'.accounts = l.accounts) : l.PersistsIn l' := by
  intro id a found
  refine ⟨a, ?_, rfl, rfl⟩
  rw [account?, same]
  exact found

theorem persistsIn_append (opened : List Account) (same : l'.accounts = l.accounts ++ opened) :
    l.PersistsIn l' := by
  intro id a found
  refine ⟨a, ?_, rfl, rfl⟩
  rw [account?, same, List.find?_append]
  exact congrArg (fun found? => Option.or found? _) found

theorem persistsIn_setBalance : l.PersistsIn (l.setBalance id balance) := by
  intro other a found
  by_cases same : other = id
  · subst same
    exact ⟨_, account?_setBalance_self found, rfl, rfl⟩
  · exact ⟨a, (account?_setBalance_of_ne same).trans found, rfl, rfl⟩

/-- No call takes an account away, or gives it to another owner. -/
theorem persistsIn_onLedger (now : Timestamp) (l : Ledger) (c : Call) :
    l.PersistsIn (Memory.onLedger now l c).2 := by
  cases c with
  | createAccount owner currency balance =>
    simp only [Memory.onLedger, createAccount]
    split
    · exact .refl l
    · split
      · exact .refl l
      · exact persistsIn_append _ rfl
  | adjust id delta =>
    simp only [Memory.onLedger]
    cases adjusted : l.adjust id delta with
    | error e => exact .refl l
    | ok changed =>
      obtain ⟨a, l'⟩ := changed
      obtain ⟨before, -, -, -, -, rfl⟩ := of_adjust_ok adjusted
      exact persistsIn_setBalance
  | createEntry account amount =>
    simp only [Memory.onLedger, createEntry]
    cases l.requireAccount account with
    | error e => exact .refl l
    | ok u => exact persistsIn_of_accounts rfl
  | createTransfer source destination amount =>
    simp only [Memory.onLedger, createTransfer]
    cases l.requireAccount source with
    | error e => exact .refl l
    | ok u =>
      cases l.requireAccount destination with
      | error e => exact .refl l
      | ok u =>
        by_cases wrong : amount ≤ 0 ∨ source = destination
        · simp only [if_pos wrong]
          exact .refl l
        · simp only [if_neg wrong]
          exact persistsIn_of_accounts rfl
  | getAccount id | claim id | listAccounts owner page | listEntries account page
  | listTransfers account page | totals | audit => exact .refl l

end DoubleEntry.Ledger
