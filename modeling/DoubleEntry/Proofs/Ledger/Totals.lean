import DoubleEntry.Proofs.Ledger.Constraints
import DoubleEntry.Proofs.Refinement.Reports

/-!
# Exact totals

The totals of a ledger are formed in bounded arithmetic: the balances are added up one after another
in a table of sums, which are numbers of 128 bits, and the records are counted in 64 bits.

* `Totals.Exact` — what totals say about a ledger if they are exact; there are no two such totals
  (`Totals.Exact.unique`).
* `Sums` — the table, by the codes of the currencies.  `Sums.Shows` says what is in it after some
  accounts; `Sums.Shows.addAll` that no sum on the way is too wide for it.
* `Ledger.boundedTotals?_eq` — **bounded arithmetic gives the exact totals**, for as many accounts
  as can be counted in 64 bits, with any amounts on them.
* `Ledger.balanceIn_createAccount`, `Ledger.balanceIn_transfer` — what becomes of the sums.
-/

namespace DoubleEntry

/-! ## Numbers of a bounded width -/

/-- An integer as a number of 64 bits with sign, which wraps around. -/
def wrapped (n : Int) : Int := n.bmod 0x10000000000000000

/-- The integer itself if it is a number of 128 bits with sign. -/
def wide? (n : Int) : Option Int :=
  if -0x80000000000000000000000000000000 ≤ n ∧ n < 0x80000000000000000000000000000000 then some n
  else none

theorem wrapped_of_few {n : Nat} (few : n ≤ Amount.greatest) : wrapped n = n := by
  unfold wrapped
  rw [Int.bmod_def]
  unfold Amount.greatest at few
  omega

namespace Amount

/-- So many amounts add up to no more than so many times the greatest one. -/
theorem total_bounds {ns : List Int} (amounts : ∀ n ∈ ns, InRange n) :
    ns.length * least ≤ total ns ∧ total ns ≤ ns.length * greatest := by
  induction ns with
  | nil => simp
  | cons n rest ih =>
    obtain ⟨here, later⟩ := List.forall_mem_cons.1 amounts
    have bounds := ih later
    simp only [InRange, least, greatest, total_cons, List.length_cons] at *
    omega

/-- So many amounts that the number is one, and another amount, add up to a number of 128 bits. -/
theorem wide?_total {ns : List Int} {n : Int} (amounts : ∀ m ∈ ns, InRange m) (last : InRange n)
    (few : ns.length ≤ greatest) : wide? (total ns + n) = some (total ns + n) := by
  have bounds := total_bounds amounts
  simp only [InRange, least, greatest] at *
  exact if_pos (by omega)

end Amount

/-! ## What totals say -/

/-- The totals of a ledger: they count its records, and list the currencies with at least one
account in the order of their codes, each with the sum of its balances. -/
structure Totals.Exact (t : Totals) (l : Ledger) : Prop where
  accounts : t.accounts = l.accounts.length
  entries : t.entries = l.entries.length
  transfers : t.transfers = l.transfers.length
  ascending : t.balances.Pairwise fun x y => x.1.code < y.1.code
  mem_balances : ∀ c n, (c, n) ∈ t.balances ↔
    (∃ a ∈ l.accounts, a.currency = c) ∧ n = l.balanceIn c

/-- Totals that are exact are the only ones. -/
theorem Totals.Exact.unique {t t' : Totals} {l : Ledger} (exact : t.Exact l) (exact' : t'.Exact l) :
    t' = t := by
  have distinct {t : Totals} (exact : t.Exact l) : t.balances.Nodup :=
    exact.ascending.imp fun below => by
      rintro rfl
      exact String.lt_irrefl _ below
  have same : t'.balances.Perm t.balances := by
    refine (List.perm_ext_iff_of_nodup (distinct exact') (distinct exact)).2 fun ⟨c, n⟩ => ?_
    rw [exact'.mem_balances, exact.mem_balances]
  have balances : t'.balances = t.balances := by
    refine same.eq_of_pairwise (fun x y _ _ below above => ?_) exact'.ascending exact.ascending
    exact absurd (String.lt_trans below above) (String.lt_irrefl _)
  obtain ⟨accounts, entries, transfers, balances'⟩ := t'
  rw [Totals.mk.injEq]
  exact ⟨exact'.accounts.trans exact.accounts.symm, exact'.entries.trans exact.entries.symm,
    exact'.transfers.trans exact.transfers.symm, balances⟩

/-! ## The table of sums -/

/-- The accounts in a currency have such balances. -/
def balancesIn (accounts : List Account) (c : Currency) : List Int :=
  (accounts.filter (·.currency == c)).map (·.balance)

/-- A sum for each currency that was seen, by its code. -/
abbrev Sums : Type := Std.TreeMap String (Currency × Int)

namespace Sums

/-- Add the balance of an account to the sum of its currency, which is zero if the currency was not
seen before, unless the new sum is too wide. -/
def add? (sums : Sums) (a : Account) : Option Sums :=
  let (currency, sum) := sums.getD a.currency.code (a.currency, 0)
  (wide? (sum + a.balance)).map fun sum => sums.insert a.currency.code (currency, sum)

/-- Add the balances of some accounts one after the other, unless a sum on the way is too wide. -/
def addAll? (sums : Sums) (accounts : List Account) : Option Sums :=
  accounts.foldlM add? sums

/-- The table has the sums of the balances of some accounts. -/
def Shows (sums : Sums) (accounts : List Account) : Prop :=
  ∀ code c n, sums[code]? = some (c, n) ↔
    code = c.code ∧ (∃ a ∈ accounts, a.currency = c) ∧ n = Amount.total (balancesIn accounts c)

variable {sums sums' : Sums} {accounts more : List Account} {a : Account}

theorem shows_empty : Shows ∅ [] := by
  intro code c n
  simp

/-- The sum of a currency is zero as long as it was not seen. -/
theorem Shows.getD (shows : sums.Shows accounts) (c : Currency) :
    sums.getD c.code (c, 0) = (c, Amount.total (balancesIn accounts c)) := by
  rw [Std.TreeMap.getD_eq_getD_getElem?]
  cases seen : sums[c.code]? with
  | none =>
    have unseen : ¬ ∃ a ∈ accounts, a.currency = c := fun held =>
      nomatch seen.symm.trans ((shows c.code c _).2 ⟨rfl, held, rfl⟩)
    have none : balancesIn accounts c = [] := by
      simpa [balancesIn] using unseen
    rw [none]
    rfl
  | some entry =>
    obtain ⟨d, n⟩ := entry
    obtain ⟨same, -, rfl⟩ := (shows _ _ _).1 seen
    rw [Currency.code_injective c d same]
    rfl

/-- One more account adds its balance to the sum of its own currency. -/
theorem total_balancesIn_concat (accounts : List Account) (a : Account) (c : Currency) :
    Amount.total (balancesIn (accounts ++ [a]) c) =
      Amount.total (balancesIn accounts c) + if a.currency = c then a.balance else 0 := by
  by_cases own : a.currency = c <;> simp [balancesIn, own]

theorem Shows.insert (shows : sums.Shows accounts) (a : Account) :
    Shows (sums.insert a.currency.code
      (a.currency, Amount.total (balancesIn accounts a.currency) + a.balance))
      (accounts ++ [a]) := by
  intro code c n
  simp only [Std.TreeMap.getElem?_insert, Std.LawfulEqOrd.compare_eq_iff_eq,
    total_balancesIn_concat]
  by_cases here : a.currency.code = code
  · subst here
    rw [if_pos rfl, Option.some.injEq, Prod.mk.injEq]
    constructor
    · rintro ⟨rfl, rfl⟩
      exact ⟨rfl, ⟨a, by simp, rfl⟩, by rw [if_pos rfl]⟩
    · rintro ⟨same, -, rfl⟩
      obtain rfl := Currency.code_injective _ _ same
      exact ⟨rfl, by rw [if_pos rfl]⟩
  · rw [if_neg here, shows]
    refine and_congr_right fun same => ?_
    have other : a.currency ≠ c := fun own => here (own ▸ same.symm)
    simp [other]

/-- The next sum is not too wide. -/
theorem Shows.add (shows : sums.Shows accounts)
    (amounts : ∀ b ∈ accounts ++ [a], Amount.InRange b.balance)
    (few : accounts.length ≤ Amount.greatest) :
    ∃ sums', sums.add? a = some sums' ∧ sums'.Shows (accounts ++ [a]) := by
  have old : ∀ n ∈ balancesIn accounts a.currency, Amount.InRange n := by
    refine List.forall_mem_map.2 fun b held => ?_
    exact amounts b (List.mem_append_left _ (List.mem_of_mem_filter held))
  have length : (balancesIn accounts a.currency).length ≤ Amount.greatest := by
    have fewer := List.length_filter_le (·.currency == a.currency) accounts
    rw [balancesIn, List.length_map]
    omega
  have narrow := Amount.wide?_total old (amounts a (by simp)) length
  refine ⟨_, ?_, shows.insert a⟩
  simp only [add?, shows.getD, narrow, Option.map_some]

/-- No sum on the way is too wide, and in the end the balances of all accounts are in the table. -/
theorem Shows.addAll (shows : sums.Shows accounts)
    (amounts : ∀ b ∈ accounts ++ more, Amount.InRange b.balance)
    (few : (accounts ++ more).length ≤ Amount.greatest) :
    ∃ sums', sums.addAll? more = some sums' ∧ sums'.Shows (accounts ++ more) := by
  induction more generalizing sums accounts with
  | nil => exact ⟨sums, rfl, by rwa [List.append_nil]⟩
  | cons a rest ih =>
    rw [← List.singleton_append, ← List.append_assoc] at amounts few ⊢
    obtain ⟨next, added, shown⟩ := shows.add (a := a)
      (fun b mem => amounts b (List.mem_append_left _ mem)) (by
        simp only [List.length_append] at few
        omega)
    obtain ⟨last, later, shown⟩ := ih shown amounts few
    refine ⟨last, ?_, shown⟩
    rw [addAll?, List.singleton_append, List.foldlM_cons, added]
    exact later

theorem exists_addAll? (amounts : ∀ a ∈ accounts, Amount.InRange a.balance)
    (few : accounts.length ≤ Amount.greatest) :
    ∃ sums : Sums, addAll? ∅ accounts = some sums ∧ sums.Shows accounts := by
  refine shows_empty.addAll ?_ ?_
  · rwa [List.nil_append]
  · rwa [List.nil_append]

/-- What is in the table, in the order of the codes. -/
def listed (sums : Sums) : List (Currency × Int) := sums.toList.map (·.2)

theorem Shows.mem_listed (shows : sums.Shows accounts) (c : Currency) (n : Int) :
    (c, n) ∈ sums.listed ↔
      (∃ a ∈ accounts, a.currency = c) ∧ n = Amount.total (balancesIn accounts c) := by
  constructor
  · intro mem
    obtain ⟨⟨code, entry⟩, held, rfl⟩ := List.mem_map.1 mem
    exact ((shows _ _ _).1 (Std.TreeMap.mem_toList_iff_getElem?_eq_some.1 held)).2
  · intro seen
    have held := Std.TreeMap.mem_toList_iff_getElem?_eq_some.2 ((shows c.code c n).2 ⟨rfl, seen⟩)
    exact List.mem_map_of_mem held

theorem Shows.ascending (shows : sums.Shows accounts) :
    sums.listed.Pairwise fun x y => x.1.code < y.1.code := by
  refine List.pairwise_map.2 (Std.TreeMap.ordered_keys_toList.imp_of_mem ?_)
  intro x y first second below
  have code {x : String × Currency × Int} (held : x ∈ sums.toList) : x.1 = x.2.1.code :=
    ((shows _ _ _).1 (Std.TreeMap.mem_toList_iff_getElem?_eq_some.1 held)).1
  rw [code first, code second] at below
  exact compareOfLessAndEq_eq_lt.1 below

end Sums

/-! ## Whole ledgers -/

namespace Ledger

variable {l l' : Ledger}

/-- The records of each kind are so few that they can be counted in 64 bits with sign. -/
structure Countable (l : Ledger) : Prop where
  accounts : l.accounts.length ≤ Amount.greatest
  entries : l.entries.length ≤ Amount.greatest
  transfers : l.transfers.length ≤ Amount.greatest

/-- All balances are amounts. -/
def InAmounts (l : Ledger) : Prop := ∀ a ∈ l.accounts, Amount.InRange a.balance

/-- The totals in bounded arithmetic, unless a sum on the way is too wide. -/
def boundedTotals? (l : Ledger) : Option Totals := do
  let sums ← (∅ : Sums).addAll? l.accounts
  some ⟨wrapped l.accounts.length, wrapped l.entries.length, wrapped l.transfers.length,
    sums.listed⟩

theorem exact_totals (l : Ledger) : l.totals.Exact l where
  accounts := rfl
  entries := rfl
  transfers := rfl
  ascending := by
    refine List.pairwise_map.2 (List.Pairwise.filter _ ?_)
    show Currency.byCode.Pairwise fun c d => c.code < d.code
    decide
  mem_balances c n := by
    have seen : c ∈ l.currencies ↔ ∃ a ∈ l.accounts, a.currency = c := by
      simp [currencies, Currency.mem_byCode]
    rw [← seen]
    constructor
    · intro mem
      obtain ⟨d, among, same⟩ := List.mem_map.1 mem
      cases same
      exact ⟨among, rfl⟩
    · rintro ⟨among, rfl⟩
      exact List.mem_map_of_mem among

/-- **Bounded arithmetic gives the exact totals.** -/
theorem boundedTotals?_eq (countable : l.Countable) (amounts : l.InAmounts) :
    l.boundedTotals? = some l.totals := by
  obtain ⟨sums, added, shows⟩ := Sums.exists_addAll? amounts countable.accounts
  have exact : Totals.Exact ⟨l.accounts.length, l.entries.length, l.transfers.length,
      sums.listed⟩ l := ⟨rfl, rfl, rfl, shows.ascending, shows.mem_listed⟩
  rw [boundedTotals?, added, Option.bind_eq_bind, Option.bind_some,
    wrapped_of_few countable.accounts, wrapped_of_few countable.entries,
    wrapped_of_few countable.transfers, (exact_totals l).unique exact]

/-! ### What becomes of the sums -/

/-- Opening an account adds its opening balance to the sum of its own currency. -/
theorem balanceIn_createAccount {now : Timestamp} {owner : String} {currency : Currency}
    {balance : Int} {a : Account}
    (created : l.createAccount now owner currency balance = .ok (a, l')) (c : Currency) :
    l'.balanceIn c = l.balanceIn c + if currency = c then balance else 0 := by
  obtain ⟨-, -, rfl, rfl⟩ := createAccount_eq_ok.1 created
  exact Sums.total_balancesIn_concat l.accounts _ c

/-- A transfer leaves all sums as they are. -/
theorem balanceIn_transfer {principal : Option Principal} {times : TransferTimes}
    {r : TransferRequest} {result : TransferResult} (distinct : (l.accounts.map (·.id)).Nodup)
    (done : l.transfer principal times r = .ok (result, l')) (c : Currency) :
    l'.balanceIn c = l.balanceIn c := by
  obtain ⟨-, apart, source, destination, foundSource, foundDestination, currency, -, -, -,
    booked⟩ := transfer_eq_ok.1 done
  obtain rfl : (l.booked times r source destination).2 = l' := congrArg (·.2) booked
  exact balanceIn_booked distinct apart foundSource foundDestination currency c

end Ledger

/-! ## Balances that are amounts -/

/-- An account is opened with an amount. -/
def Call.Fits : Call → Prop
  | .createAccount _ _ balance => Amount.InRange balance
  | _ => True

theorem Ledger.InAmounts.onLedger {l : Ledger} (amounts : l.InAmounts) (now : Timestamp) {c : Call}
    (fits : c.Fits) : (Memory.onLedger now l c).2.InAmounts := by
  cases c with
  | createAccount owner currency balance =>
    simp only [Memory.onLedger]
    cases made : l.createAccount now owner currency balance with
    | error failure => exact amounts
    | ok changed =>
      obtain ⟨a, l'⟩ := changed
      obtain ⟨-, -, rfl, rfl⟩ := createAccount_eq_ok.1 made
      exact List.forall_mem_append.2 ⟨amounts, List.forall_mem_singleton.2 fits⟩
  | adjust id delta =>
    simp only [Memory.onLedger]
    cases made : l.adjust id delta with
    | error failure => exact amounts
    | ok changed =>
      obtain ⟨a, l'⟩ := changed
      obtain ⟨before, -, low, high, -, rfl⟩ := of_adjust_ok made
      refine List.forall_mem_map.2 fun b held => ?_
      split
      · exact ⟨Int.le_trans (by decide) low, high⟩
      · exact amounts b held
  | createEntry account amount =>
    simp only [Memory.onLedger]
    cases made : l.createEntry now account amount with
    | error failure => exact amounts
    | ok changed =>
      obtain ⟨e, l'⟩ := changed
      obtain ⟨-, -, rfl⟩ := createEntry_eq_ok.1 made
      exact amounts
  | createTransfer source destination amount =>
    simp only [Memory.onLedger]
    cases made : l.createTransfer now source destination amount with
    | error failure => exact amounts
    | ok changed =>
      obtain ⟨t, l'⟩ := changed
      obtain ⟨-, -, -, -, -, rfl⟩ := createTransfer_eq_ok.1 made
      exact amounts
  | getAccount id | claim id | listAccounts owner page | listEntries account page
  | listTransfers account page | totals | audit => exact amounts

end DoubleEntry
