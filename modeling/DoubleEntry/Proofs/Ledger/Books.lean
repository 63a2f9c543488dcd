import DoubleEntry.Ledger.Report
import DoubleEntry.Proofs.Ledger.Booking
import DoubleEntry.Proofs.Ledger.Opening

/-!
# Double entry

`Ledger.Books` is what double entry promises about a ledger on which accounts were opened and
transfers booked: every transfer has its two entries, every balance is the opening balance and what
the entries add to it, and the money in a currency is what the accounts in it were opened with.
Opening an account and booking a transfer keep it.
-/

namespace DoubleEntry

/-- What of an account stays for good. -/
def Account.identity (a : Account) : Int × String × Currency := (a.id, a.owner, a.currency)

/-- The account with so much more on it. -/
def Account.plus (a : Account) (n : Int) : Account := { a with balance := a.balance + n }

theorem Account.plus_zero (a : Account) : a.plus 0 = a :=
  congrArg (fun balance => { a with balance }) (Int.add_zero _)

theorem Account.plus_plus (a : Account) (m n : Int) : (a.plus m).plus n = a.plus (m + n) :=
  congrArg (fun balance => { a with balance }) (Int.add_assoc ..)

/-- The changes of balances that a transfer consists of: the accounts, and the amounts. -/
def TransferRequest.shifts (r : TransferRequest) : List (Int × Int) :=
  [(r.source, -r.amount), (r.destination, r.amount)]

namespace Ledger

/-- The two entries of a transfer: the accounts, and the amounts that they are changed by. -/
def sides (t : Transfer) : List (Int × Int) := [(t.source, -t.amount), (t.destination, t.amount)]

/-- A ledger whose accounts were opened as these, and whose balances the records explain. -/
structure Books (opened : List Account) (l : Ledger) : Prop where
  schema : l.WellFormed
  identities : l.accounts.map Account.identity = opened.map Account.identity
  entries : l.entries.map (fun e => (e.account, e.amount)) = l.transfers.flatMap sides
  balances : ∀ a ∈ l.accounts, ∃ o ∈ opened, o.identity = a.identity ∧
    a.balance = o.balance + l.entryTotal a.id ∧ a.balance = o.balance + l.transferTotal a.id
  totals : ∀ c, l.balanceIn c = Amount.total ((opened.filter (·.currency == c)).map (·.balance))
  currencies : ∀ t ∈ l.transfers, ∀ a b, l.account? t.source = some a →
    l.account? t.destination = some b → a.currency = b.currency

variable {l l' : Ledger} {opened : List Account} {a : Account} {id balance : Int} {c : Currency}

theorem books_empty : Books [] empty where
  schema := wellFormed_empty
  identities := rfl
  entries := rfl
  balances := by simp [empty]
  totals _ := rfl
  currencies := by simp [empty]

/-! ## Totals of entries -/

/-- What some records add to an account. -/
def addedTo (id : Int) (records : List (Int × Int)) : Int :=
  Amount.total ((records.filter (·.1 == id)).map (·.2))

theorem addedTo_append (id : Int) (records more : List (Int × Int)) :
    addedTo id (records ++ more) = addedTo id records + addedTo id more := by
  simp [addedTo]

theorem addedTo_single (id : Int) (record : Int × Int) :
    addedTo id [record] = if record.1 = id then record.2 else 0 := by
  by_cases same : record.1 = id <;> simp [addedTo, same]

theorem addedTo_cons (id : Int) (record : Int × Int) (records : List (Int × Int)) :
    addedTo id (record :: records) = addedTo id [record] + addedTo id records :=
  addedTo_append id [record] records

theorem entryTotal_eq (l : Ledger) (id : Int) :
    l.entryTotal id = addedTo id (l.entries.map fun e => (e.account, e.amount)) := by
  simp [entryTotal, entriesOf, addedTo, List.filter_map, Function.comp_def]

theorem addedTo_sides (id : Int) (t : Transfer) : addedTo id (sides t) = netAmount t id := by
  rw [sides, addedTo_cons, addedTo_single, addedTo_single, netAmount]
  split <;> split <;> omega

/-- The sides of some transfers add to an account what the transfers bring to it. -/
theorem addedTo_flatMap_sides (id : Int) (transfers : List Transfer) :
    addedTo id (transfers.flatMap sides) =
      Amount.total (transfers.map fun t => netAmount t id) := by
  induction transfers with
  | nil => rfl
  | cons t rest ih =>
    rw [List.flatMap_cons, addedTo_append, addedTo_sides, ih, List.map_cons, Amount.total_cons]

/-- Where every transfer has its two entries, entries and transfers say the same of an account. -/
theorem entryTotal_eq_transferTotal
    (entries : l.entries.map (fun e => (e.account, e.amount)) = l.transfers.flatMap sides)
    (id : Int) :
    l.entryTotal id = l.transferTotal id := by
  rw [entryTotal_eq, entries, addedTo_flatMap_sides, transferTotal]

/-- No entry is on an account that does not exist. -/
theorem WellFormed.entryTotal_of_missing (wf : l.WellFormed) (missing : l.account? id = none) :
    l.entryTotal id = 0 := by
  have none : l.entriesOf id = [] := by
    refine List.filter_eq_nil_iff.2 fun e mem on => ?_
    have known := wf.entries_on_accounts e mem
    rw [hasAccount, beq_iff_eq.1 on, missing] at known
    cases known
  rw [entryTotal, none]
  rfl

/-! ## Totals of balances -/

/-- Another balance of one of some accounts counts for the total of its currency. -/
theorem total_replaced {accounts : List Account} (distinct : (accounts.map (·.id)).Nodup)
    (mem : a ∈ accounts) (balance : Int) (c : Currency) :
    Amount.total (((accounts.map fun b => if b.id = a.id then { b with balance } else b).filter
        (·.currency == c)).map (·.balance)) =
      Amount.total ((accounts.filter (·.currency == c)).map (·.balance)) +
        if a.currency = c then balance - a.balance else 0 := by
  induction accounts with
  | nil => cases mem
  | cons b rest ih =>
    rw [List.map_cons, List.nodup_cons] at distinct
    obtain ⟨new, distinct⟩ := distinct
    rcases List.mem_cons.1 mem with rfl | mem
    · have others : (rest.map fun b => if b.id = a.id then { b with balance } else b) = rest := by
        refine (List.map_congr_left fun d held => ?_).trans (List.map_id _)
        refine if_neg ?_
        intro same
        exact new (same ▸ List.mem_map_of_mem held)
      rw [List.map_cons, others, if_pos rfl]
      by_cases currency : a.currency = c
      · simp only [List.filter_cons, currency, beq_self_eq_true, if_true, List.map_cons,
          Amount.total_cons]
        omega
      · simp [currency]
    · have other : b.id ≠ a.id := fun same => new (same ▸ List.mem_map_of_mem mem)
      rw [List.map_cons, if_neg other]
      have later := ih distinct mem
      by_cases currency : b.currency = c
      · simp only [List.filter_cons, currency, beq_self_eq_true, if_true, List.map_cons,
          Amount.total_cons, later]
        omega
      · simpa [currency] using later

theorem balanceIn_setBalance (distinct : (l.accounts.map (·.id)).Nodup)
    (found : l.account? id = some a) (balance : Int) (c : Currency) :
    (l.setBalance id balance).balanceIn c =
      l.balanceIn c + if a.currency = c then balance - a.balance else 0 := by
  obtain ⟨mem, rfl⟩ := mem_of_account? found
  exact total_replaced distinct mem balance c

theorem ids_setBalance : (l.setBalance id balance).accounts.map (·.id) = l.accounts.map (·.id) := by
  rw [setBalance, List.map_map]
  refine List.map_congr_left fun a _ => ?_
  by_cases same : a.id = id <;> simp [same]

section Transfers

variable {r : TransferRequest} {source destination : Account} {times : TransferTimes}

/-- A transfer between accounts in one currency moves money, and neither makes nor loses any. -/
theorem balanceIn_booked (distinct : (l.accounts.map (·.id)).Nodup)
    (apart : r.source ≠ r.destination) (foundSource : l.account? r.source = some source)
    (foundDestination : l.account? r.destination = some destination)
    (currency : source.currency = destination.currency) (c : Currency) :
    (l.booked times r source destination).2.balanceIn c = l.balanceIn c := by
  have debited := balanceIn_setBalance distinct foundSource (source.balance - r.amount) c
  have found : (l.setBalance r.source (source.balance - r.amount)).account? r.destination =
      some destination := by
    rw [account?_setBalance_of_ne apart.symm, foundDestination]
  have distinct' : ((l.setBalance r.source (source.balance - r.amount)).accounts.map
      (·.id)).Nodup := by
    rw [ids_setBalance]
    exact distinct
  have credited := balanceIn_setBalance distinct' found (destination.balance + r.amount) c
  rw [setBalance_setBalance apart, debited, currency] at credited
  refine Eq.trans (b := (l.moved r source destination).balanceIn c) rfl (credited.trans ?_)
  by_cases same : destination.currency = c
  · rw [if_pos same, if_pos same]
    omega
  · rw [if_neg same, if_neg same]
    omega

/-- A transfer adds to the balance of an account what its entries say. -/
theorem settled_eq_plus (apart : r.source ≠ r.destination)
    (foundSource : l.account? r.source = some source)
    (foundDestination : l.account? r.destination = some destination)
    (found : l.account? id = some a) :
    r.settled source destination a = a.plus (addedTo id r.shifts) := by
  obtain ⟨-, rfl⟩ := mem_of_account? found
  unfold TransferRequest.settled
  split
  · rename_i atSource
    rw [atSource, foundSource] at found
    cases found
    simp [Account.plus, TransferRequest.shifts, addedTo, atSource, apart.symm, Int.sub_eq_add_neg]
  · rename_i elsewhere
    split
    · rename_i atDestination
      rw [atDestination, foundDestination] at found
      cases found
      simp [Account.plus, TransferRequest.shifts, addedTo, atDestination, apart]
    · rename_i untouched
      simp [Account.plus, TransferRequest.shifts, addedTo, Ne.symm elsewhere, Ne.symm untouched]

end Transfers

/-! ## What keeps the books -/

/-- Balances that the entries explain are explained by the transfers as well. -/
theorem explained {a o : Account}
    (entries : l.entries.map (fun e => (e.account, e.amount)) = l.transfers.flatMap sides)
    (balance : a.balance = o.balance + l.entryTotal a.id) :
    a.balance = o.balance + l.entryTotal a.id ∧ a.balance = o.balance + l.transferTotal a.id := by
  rw [← entryTotal_eq_transferTotal entries]
  exact ⟨balance, balance⟩

theorem account?_withAccount {b : Account} (found : l.account? id = some b) (a : Account) :
    (l.withAccount a).account? id = some b := by
  rw [account?] at found ⊢
  rw [withAccount, List.find?_append, found]
  rfl

/-- Opening an account keeps the books, with its opening balance added to them. -/
theorem Books.createAccount {now : Timestamp} {owner : String} {currency : Currency}
    (books : Books opened l) (high : balance ≤ Amount.greatest)
    (created : l.createAccount now owner currency balance = .ok (a, l')) :
    Books (opened ++ [a]) l' := by
  have schema := books.schema.createAccount high created
  obtain ⟨-, -, new, rfl⟩ := createAccount_eq_ok.1 created
  have fresh : l.account? a.id = none := new ▸ books.schema.account?_next
  refine ⟨schema, ?_, books.entries, ?_, fun c => ?_, ?_⟩
  · rw [withAccount, List.map_append, List.map_append, books.identities]
  · intro b mem
    rcases List.mem_append.1 mem with old | added
    · obtain ⟨o, opening, same, explained⟩ := books.balances b old
      exact ⟨o, List.mem_append_left _ opening, same, explained⟩
    · obtain rfl := List.mem_singleton.1 added
      refine ⟨b, List.mem_append_right _ (List.mem_singleton.2 rfl), rfl,
        explained books.entries ?_⟩
      show b.balance = b.balance + l.entryTotal b.id
      rw [books.schema.entryTotal_of_missing fresh, Int.add_zero]
  · have before := books.totals c
    unfold balanceIn at before ⊢
    rw [withAccount, List.filter_append, List.filter_append, List.map_append, List.map_append,
      Amount.total_append, Amount.total_append, before]
  · intro t mem b d foundSource foundDestination
    obtain ⟨source, destination, -, -⟩ := books.schema.transfers_between t mem
    obtain ⟨b', found⟩ := Option.isSome_iff_exists.1 source
    obtain ⟨d', found'⟩ := Option.isSome_iff_exists.1 destination
    cases (account?_withAccount found a).symm.trans foundSource
    cases (account?_withAccount found' a).symm.trans foundDestination
    exact books.currencies t mem _ _ found found'

/-- A transfer keeps the books. -/
theorem Books.transfer {principal : Option Principal} {times : TransferTimes} {r : TransferRequest}
    {result : TransferResult} (books : Books opened l)
    (done : l.transfer principal times r = .ok (result, l')) : Books opened l' := by
  have schema := books.schema.transfer done
  obtain ⟨-, apart, source, destination, foundSource, foundDestination, currency, -, -, -,
    booked⟩ := transfer_eq_ok.1 done
  obtain rfl : (l.booked times r source destination).2 = l' := congrArg (·.2) booked
  have distinct := books.schema.accounts_numbered.nodup
  have entries : (l.booked times r source destination).2.entries.map
      (fun e => (e.account, e.amount)) =
      (l.booked times r source destination).2.transfers.flatMap sides := by
    show (l.entries ++ [_] ++ [_]).map _ = (l.transfers ++ [_]).flatMap sides
    rw [List.map_append, List.map_append, List.flatMap_append, books.entries, List.append_assoc]
    rfl
  have found (id : Int) : (l.booked times r source destination).2.account? id =
      (l.account? id).map (r.settled source destination) := account?_moved id
  refine ⟨schema, ?_, entries, ?_, fun c => ?_, ?_⟩
  · rw [← books.identities]
    show (l.accounts.map (r.settled source destination)).map Account.identity = _
    rw [List.map_map]
    refine List.map_congr_left fun a _ => ?_
    simp [Account.identity]
  · intro a' mem
    obtain ⟨a, held, rfl⟩ := List.mem_map.1 mem
    obtain ⟨o, opening, same, before, -⟩ := books.balances a held
    have stays : (r.settled source destination a).identity = a.identity := by
      simp [Account.identity]
    refine ⟨o, opening, same.trans stays.symm, explained entries ?_⟩
    rw [TransferRequest.settled_id]
    have total : (l.booked times r source destination).2.entryTotal a.id =
        l.entryTotal a.id + addedTo a.id r.shifts := by
      rw [entryTotal_eq, entryTotal_eq, ← addedTo_append]
      show addedTo a.id ((l.entries ++ [_] ++ [_]).map _) = _
      rw [List.map_append, List.map_append, List.append_assoc]
      rfl
    rw [settled_eq_plus apart foundSource foundDestination (account?_of_mem distinct held), total,
      Account.plus, before, Int.add_assoc]
  · rw [balanceIn_booked distinct apart foundSource foundDestination currency, books.totals]
  · intro t mem b d foundB foundD
    rw [found] at foundB foundD
    obtain ⟨b', foundB', rfl⟩ := Option.map_eq_some_iff.1 foundB
    obtain ⟨d', foundD', rfl⟩ := Option.map_eq_some_iff.1 foundD
    rw [TransferRequest.settled_currency, TransferRequest.settled_currency]
    rcases List.mem_append.1 mem with before | new
    · exact books.currencies t before b' d' foundB' foundD'
    · obtain rfl := List.mem_singleton.1 new
      cases foundB'.symm.trans foundSource
      cases foundD'.symm.trans foundDestination
      exact currency

end Ledger
end DoubleEntry
