import DoubleEntry.Proofs.Ledger.Books

/-!
# What calls make of a ledger

Whoever holds a transaction may make any calls on it, in any order, and go on after failures.

* `Ledger.Written` — the five things that a call can do to a ledger; `written_onLedger` says that
  there is no sixth.
* `Ledger.Constrained` — the constraints of the tables: ids counted from one without gaps, one
  account for each owner and currency, balances that are not negative, and records on accounts that
  exist.  `Constrained.onLedger`: no call breaks them.
* `Ledger.GrowsTo` — nothing is taken back: accounts stay with their owners and currencies, entries
  and transfers stay as they are and where they are.  `growsTo_onLedger`: calls only add.
-/

namespace DoubleEntry.Ledger

variable {l l' l'' : Ledger} {now : Timestamp} {a : Account} {e : Entry} {t : Transfer}
  {id balance : Int}

/-! ## What a call can do -/

/-- A call leaves the ledger alone, opens an account, changes a balance, books an entry or records a
transfer. -/
inductive Written (l : Ledger) : Ledger → Prop
  | unchanged : Written l l
  | opened (a : Account) (next : a.id = (l.lastAccount + 1 : Nat)) (low : 0 ≤ a.balance)
      (new : l.holds a.owner a.currency = false) : Written l (l.withAccount a)
  | adjusted (id balance : Int) (low : 0 ≤ balance) : Written l (l.setBalance id balance)
  | entered (e : Entry) (next : e.id = (l.lastEntry + 1 : Nat))
      (known : l.hasAccount e.account = true) : Written l (l.withEntry e)
  | transferred (t : Transfer) (next : t.id = (l.lastTransfer + 1 : Nat))
      (source : l.hasAccount t.source = true) (destination : l.hasAccount t.destination = true)
      (positive : 0 < t.amount) (apart : t.source ≠ t.destination) : Written l (l.withTransfer t)

theorem requireAccount_eq_ok : l.requireAccount id = .ok () ↔ l.hasAccount id = true := by
  unfold requireAccount
  split <;> simp_all

theorem createEntry_eq_ok {account amount : Int} :
    l.createEntry now account amount = .ok (e, l') ↔
      l.hasAccount account = true ∧ e = ⟨(l.lastEntry + 1 : Nat), account, amount, now⟩ ∧
        l' = l.withEntry e := by
  unfold createEntry
  cases required : l.requireAccount account with
  | error failure =>
    have unknown : ¬ l.hasAccount account = true := fun known =>
      nomatch required.symm.trans (requireAccount_eq_ok.2 known)
    simp [bind, Except.bind, unknown]
  | ok u =>
    have known := requireAccount_eq_ok.1 required
    constructor
    · rintro ⟨⟩
      exact ⟨known, rfl, rfl⟩
    · rintro ⟨-, rfl, rfl⟩
      rfl

theorem createTransfer_eq_ok {source destination amount : Int} :
    l.createTransfer now source destination amount = .ok (t, l') ↔
      l.hasAccount source = true ∧ l.hasAccount destination = true ∧ 0 < amount ∧
        source ≠ destination ∧
        t = ⟨(l.lastTransfer + 1 : Nat), source, destination, amount, now⟩ ∧
        l' = l.withTransfer t := by
  unfold createTransfer
  cases requiredSource : l.requireAccount source with
  | error failure =>
    have unknown : ¬ l.hasAccount source = true := fun known =>
      nomatch requiredSource.symm.trans (requireAccount_eq_ok.2 known)
    simp [bind, Except.bind, unknown]
  | ok u =>
    cases requiredDestination : l.requireAccount destination with
    | error failure =>
      have unknown : ¬ l.hasAccount destination = true := fun known =>
        nomatch requiredDestination.symm.trans (requireAccount_eq_ok.2 known)
      simp [bind, Except.bind, unknown]
    | ok u =>
      have knownSource := requireAccount_eq_ok.1 requiredSource
      have knownDestination := requireAccount_eq_ok.1 requiredDestination
      by_cases wrong : amount ≤ 0 ∨ source = destination
      · constructor
        · intro recorded
          simp [bind, Except.bind, wrong] at recorded
        · rintro ⟨-, -, positive, apart, -⟩
          rcases wrong with small | same
          · omega
          · exact absurd same apart
      · have sound : 0 < amount ∧ source ≠ destination := by omega
        constructor
        · intro recorded
          simp only [bind, Except.bind, if_neg wrong] at recorded
          cases recorded
          exact ⟨knownSource, knownDestination, sound.1, sound.2, rfl, rfl⟩
        · rintro ⟨-, -, -, -, rfl, rfl⟩
          exact if_neg wrong

/-- What a call does to the ledger of its transaction. -/
theorem written_onLedger (now : Timestamp) (l : Ledger) (c : Call) :
    Written l (Memory.onLedger now l c).2 := by
  cases c with
  | createAccount owner currency balance =>
    simp only [Memory.onLedger]
    cases made : l.createAccount now owner currency balance with
    | error failure => exact .unchanged
    | ok changed =>
      obtain ⟨a, l'⟩ := changed
      obtain ⟨new, low, rfl, rfl⟩ := createAccount_eq_ok.1 made
      exact .opened _ rfl low new
  | adjust id delta =>
    simp only [Memory.onLedger]
    cases made : l.adjust id delta with
    | error failure => exact .unchanged
    | ok changed =>
      obtain ⟨a, l'⟩ := changed
      obtain ⟨before, -, low, -, -, rfl⟩ := of_adjust_ok made
      exact .adjusted _ _ low
  | createEntry account amount =>
    simp only [Memory.onLedger]
    cases made : l.createEntry now account amount with
    | error failure => exact .unchanged
    | ok changed =>
      obtain ⟨e, l'⟩ := changed
      obtain ⟨known, rfl, rfl⟩ := createEntry_eq_ok.1 made
      exact .entered _ rfl known
  | createTransfer source destination amount =>
    simp only [Memory.onLedger]
    cases made : l.createTransfer now source destination amount with
    | error failure => exact .unchanged
    | ok changed =>
      obtain ⟨t, l'⟩ := changed
      obtain ⟨knownSource, knownDestination, positive, apart, rfl, rfl⟩ :=
        createTransfer_eq_ok.1 made
      exact .transferred _ rfl knownSource knownDestination positive apart
  | getAccount id | claim id | listAccounts owner page | listEntries account page
  | listTransfers account page | totals | audit => exact .unchanged

/-! ## Constraints -/

/-- The first so many ids, in the order in which they are given out. -/
def idsUpTo (last : Nat) : List Int := (List.range last).map fun n => ((n + 1 : Nat) : Int)

theorem idsUpTo_succ (last : Nat) :
    idsUpTo (last + 1) = idsUpTo last ++ [((last + 1 : Nat) : Int)] := by
  simp [idsUpTo, List.range_succ]

theorem mem_idsUpTo {last : Nat} : id ∈ idsUpTo last ↔ 1 ≤ id ∧ id ≤ last := by
  simp only [idsUpTo, List.mem_map, List.mem_range]
  constructor
  · rintro ⟨n, below, rfl⟩
    omega
  · rintro ⟨low, high⟩
    exact ⟨id.toNat - 1, by omega, by omega⟩

theorem idsUpTo_ascending (last : Nat) : (idsUpTo last).Pairwise (· < ·) := by
  rw [idsUpTo, List.pairwise_map]
  exact List.pairwise_lt_range.imp fun below => by omega

/-- The constraints of the tables hold. -/
structure Constrained (l : Ledger) : Prop where
  /-- Accounts are kept under the ids they carry, and those are the first so many. -/
  keys : ∀ id, (l.account? id).map (·.id) = if 1 ≤ id ∧ id ≤ l.lastAccount then some id else none
  account_ids : l.accounts.map (·.id) = idsUpTo l.lastAccount
  entry_ids : l.entries.map (·.id) = idsUpTo l.lastEntry
  transfer_ids : l.transfers.map (·.id) = idsUpTo l.lastTransfer
  owners_distinct : (l.accounts.map fun a => (a.owner, a.currency)).Nodup
  balances : ∀ a ∈ l.accounts, 0 ≤ a.balance
  entries_on_accounts : ∀ e ∈ l.entries, l.hasAccount e.account
  transfers_between : ∀ t ∈ l.transfers, l.hasAccount t.source ∧ l.hasAccount t.destination ∧
    0 < t.amount ∧ t.source ≠ t.destination

/-- The keys follow from the ids. -/
theorem keys_of_account_ids (ids : l.accounts.map (·.id) = idsUpTo l.lastAccount) (id : Int) :
    (l.account? id).map (·.id) = if 1 ≤ id ∧ id ≤ l.lastAccount then some id else none := by
  have known : l.hasAccount id = true ↔ 1 ≤ id ∧ id ≤ l.lastAccount := by
    rw [hasAccount_iff, ids, mem_idsUpTo]
  cases found : l.account? id with
  | none =>
    have unknown : ¬ (1 ≤ id ∧ id ≤ l.lastAccount) := by
      rw [← known, hasAccount, found]
      simp
    rw [if_neg unknown, Option.map_none]
  | some a =>
    rw [if_pos (known.1 (hasAccount_of_found found)), Option.map_some, (mem_of_account? found).2]

theorem Constrained.ids_nodup (sound : l.Constrained) : (l.accounts.map (·.id)).Nodup := by
  rw [sound.account_ids]
  exact (idsUpTo_ascending _).imp Int.ne_of_lt

theorem constrained_empty : empty.Constrained where
  keys := keys_of_account_ids rfl
  account_ids := rfl
  entry_ids := rfl
  transfer_ids := rfl
  owners_distinct := List.nodup_nil
  balances := by simp [empty]
  entries_on_accounts := by simp [empty]
  transfers_between := by simp [empty]

theorem Constrained.withAccount (sound : l.Constrained)
    (next : a.id = (l.lastAccount + 1 : Nat)) (low : 0 ≤ a.balance)
    (new : l.holds a.owner a.currency = false) : (l.withAccount a).Constrained := by
  have ids : (l.withAccount a).accounts.map (·.id) = idsUpTo (l.withAccount a).lastAccount := by
    show (l.accounts ++ [a]).map (·.id) = idsUpTo (l.lastAccount + 1)
    rw [List.map_append, sound.account_ids, idsUpTo_succ, List.map_singleton, next]
  refine ⟨keys_of_account_ids ids, ids, sound.entry_ids, sound.transfer_ids, ?_, ?_, ?_, ?_⟩
  · show ((l.accounts ++ [a]).map fun a => (a.owner, a.currency)).Nodup
    rw [List.map_append, List.nodup_append']
    exact ⟨sound.owners_distinct, List.nodup_singleton _,
      List.disjoint_singleton.2 (not_mem_of_holds new)⟩
  · intro b mem
    rcases List.mem_append.1 mem with old | added
    · exact sound.balances b old
    · rw [List.mem_singleton.1 added]
      exact low
  · intro e mem
    exact hasAccount_withAccount (sound.entries_on_accounts e mem)
  · intro t mem
    obtain ⟨source, destination, rules⟩ := sound.transfers_between t mem
    exact ⟨hasAccount_withAccount source, hasAccount_withAccount destination, rules⟩

theorem hasAccount_setBalance (l : Ledger) (id balance other : Int) :
    (l.setBalance id balance).hasAccount other = l.hasAccount other := by
  rw [Bool.eq_iff_iff, hasAccount_iff, hasAccount_iff, ids_setBalance]

theorem Constrained.setBalance (sound : l.Constrained) (id : Int) (low : 0 ≤ balance) :
    (l.setBalance id balance).Constrained := by
  have ids : (l.setBalance id balance).accounts.map (·.id) = idsUpTo l.lastAccount := by
    rw [ids_setBalance, sound.account_ids]
  refine ⟨keys_of_account_ids ids, ids, sound.entry_ids, sound.transfer_ids, ?_, ?_, ?_, ?_⟩
  · have same : (l.setBalance id balance).accounts.map (fun a => (a.owner, a.currency)) =
        l.accounts.map fun a => (a.owner, a.currency) := by
      rw [Ledger.setBalance, List.map_map]
      refine List.map_congr_left fun a _ => ?_
      by_cases here : a.id = id <;> simp [here]
    rw [same]
    exact sound.owners_distinct
  · intro b mem
    obtain ⟨a, held, rfl⟩ := List.mem_map.1 mem
    split
    · exact low
    · exact sound.balances a held
  · intro e mem
    rw [hasAccount_setBalance]
    exact sound.entries_on_accounts e mem
  · intro t mem
    rw [hasAccount_setBalance, hasAccount_setBalance]
    exact sound.transfers_between t mem

theorem Constrained.withEntry (sound : l.Constrained) (next : e.id = (l.lastEntry + 1 : Nat))
    (known : l.hasAccount e.account = true) : (l.withEntry e).Constrained := by
  refine ⟨sound.keys, sound.account_ids, ?_, sound.transfer_ids, sound.owners_distinct,
    sound.balances, ?_, sound.transfers_between⟩
  · show (l.entries ++ [e]).map (·.id) = idsUpTo (l.lastEntry + 1)
    rw [List.map_append, sound.entry_ids, idsUpTo_succ, List.map_singleton, next]
  · intro e' mem
    rcases List.mem_append.1 mem with old | added
    · exact sound.entries_on_accounts e' old
    · rw [List.mem_singleton.1 added]
      exact known

theorem Constrained.withTransfer (sound : l.Constrained)
    (next : t.id = (l.lastTransfer + 1 : Nat)) (source : l.hasAccount t.source = true)
    (destination : l.hasAccount t.destination = true) (positive : 0 < t.amount)
    (apart : t.source ≠ t.destination) : (l.withTransfer t).Constrained := by
  refine ⟨sound.keys, sound.account_ids, sound.entry_ids, ?_, sound.owners_distinct,
    sound.balances, sound.entries_on_accounts, ?_⟩
  · show (l.transfers ++ [t]).map (·.id) = idsUpTo (l.lastTransfer + 1)
    rw [List.map_append, sound.transfer_ids, idsUpTo_succ, List.map_singleton, next]
  · intro t' mem
    rcases List.mem_append.1 mem with old | added
    · exact sound.transfers_between t' old
    · rw [List.mem_singleton.1 added]
      exact ⟨source, destination, positive, apart⟩

theorem Constrained.written (sound : l.Constrained) (written : Written l l') : l'.Constrained := by
  cases written with
  | unchanged => exact sound
  | opened a next low new => exact sound.withAccount next low new
  | adjusted id balance low => exact sound.setBalance id low
  | entered e next known => exact sound.withEntry next known
  | transferred t next source destination positive apart =>
    exact sound.withTransfer next source destination positive apart

/-- No call breaks the constraints, whatever its arguments and its outcome. -/
theorem Constrained.onLedger (sound : l.Constrained) (now : Timestamp) (c : Call) :
    (Memory.onLedger now l c).2.Constrained :=
  sound.written (written_onLedger now l c)

/-! ## Growth -/

/-- Nothing of a ledger is taken back in another one: its accounts are there with their ids, owners
and currencies, and its entries and transfers are the first ones, unchanged. -/
structure GrowsTo (l l' : Ledger) : Prop where
  accounts : l.accounts.map Account.identity <+: l'.accounts.map Account.identity
  entries : l.entries <+: l'.entries
  transfers : l.transfers <+: l'.transfers

theorem GrowsTo.refl (l : Ledger) : l.GrowsTo l :=
  ⟨List.prefix_rfl, List.prefix_rfl, List.prefix_rfl⟩

theorem GrowsTo.trans (first : l.GrowsTo l') (later : l'.GrowsTo l'') : l.GrowsTo l'' :=
  ⟨first.accounts.trans later.accounts, first.entries.trans later.entries,
    first.transfers.trans later.transfers⟩

theorem identities_setBalance :
    (l.setBalance id balance).accounts.map Account.identity = l.accounts.map Account.identity := by
  rw [setBalance, List.map_map]
  refine List.map_congr_left fun a _ => ?_
  by_cases here : a.id = id <;> simp [Account.identity, here]

theorem GrowsTo.of_written (written : Written l l') : l.GrowsTo l' := by
  cases written with
  | unchanged => exact .refl l
  | opened a =>
    refine ⟨?_, List.prefix_rfl, List.prefix_rfl⟩
    rw [withAccount, List.map_append]
    exact List.prefix_append _ _
  | adjusted id balance =>
    have same : l.accounts.map Account.identity =
        (l.setBalance id balance).accounts.map Account.identity := identities_setBalance.symm
    exact ⟨same ▸ List.prefix_rfl, List.prefix_rfl, List.prefix_rfl⟩
  | entered e => exact ⟨List.prefix_rfl, List.prefix_append _ _, List.prefix_rfl⟩
  | transferred t => exact ⟨List.prefix_rfl, List.prefix_rfl, List.prefix_append _ _⟩

theorem growsTo_onLedger (now : Timestamp) (l : Ledger) (c : Call) :
    l.GrowsTo (Memory.onLedger now l c).2 :=
  .of_written (written_onLedger now l c)

end DoubleEntry.Ledger
