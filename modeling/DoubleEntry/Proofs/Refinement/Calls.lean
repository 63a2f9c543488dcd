import DoubleEntry.Proofs.Refinement.Reports

/-!
# Calls on both stores

`Call.Corresponds` lists the calls by which two stores are asked for the same, each with what is to
be said of two answers that agree.  `follows_of_corresponds` says that such calls, made on a ledger
and on tables that show it, have outcomes that agree and leave tables that show the ledger: the
store in memory checks beforehand what the database enforces by its constraints.

Failures are compared by the ids that were paired when the transaction began, since those given out
later are lost with it.
-/

namespace DoubleEntry

/-- The answers agree, and neither the register nor the ledger has changed. -/
def Unmoved {α β : Type} (p : Register) (l : Ledger) (agree : α → β → Prop) (p' : Register)
    (l' : Ledger) (a : α) (b : β) : Prop :=
  p' = p ∧ l' = l ∧ agree a b

open Relational

/-- Two calls ask for the same, on a ledger and on tables that show it.  The last argument relates
the answers that agree; it depends on the register and the ledger after the call. -/
inductive Call.Corresponds (p₀ p : Register) (l : Ledger) :
    (c c' : Call) → (Register → Ledger → c.Answer → c'.Answer → Prop) → Prop where
  | createAccount (owner : String) (currency : Currency) (balance : Int) :
      Corresponds p₀ p l (.createAccount owner currency balance)
        (.createAccount owner currency balance) fun p' _ a b => a.Agrees p'.pairing b
  | getAccount {id id' : Int} (meets : Meets p id id') :
      Corresponds p₀ p l (.getAccount id) (.getAccount id') (Unmoved p l fun a b =>
        a.Agrees p.pairing b ∧ l.account? id = some a ∧ (id, id') ∈ p.accounts)
  | claim {id id' : Int} (paired : (id, id') ∈ p.accounts) :
      Corresponds p₀ p l (.claim id) (.claim id') (Unmoved p l fun a b =>
        a.Agrees p.pairing b ∧ l.account? id = some a ∧ (id, id') ∈ p.accounts)
  | adjust {id id' : Int} (paired : (id, id') ∈ p₀.accounts) (delta : Int) :
      Corresponds p₀ p l (.adjust id delta) (.adjust id' delta) fun p' _ a b =>
        a.Agrees p'.pairing b
  | listAccounts (owner : Option String) (page : Page) :
      Corresponds p₀ p l (.listAccounts owner page) (.listAccounts owner page)
        (Unmoved p l (List.Forall₂ (Account.Agrees p.pairing)))
  | createEntry {id id' : Int} (paired : (id, id') ∈ p.accounts) (amount : Int) :
      Corresponds p₀ p l (.createEntry id amount) (.createEntry id' amount) fun p' _ e f =>
        e.Agrees p'.pairing f
  | createTransfer {source source' destination destination' : Int}
      (pairedSource : (source, source') ∈ p.accounts)
      (pairedDestination : (destination, destination') ∈ p.accounts) (amount : Int) :
      Corresponds p₀ p l (.createTransfer source destination amount)
        (.createTransfer source' destination' amount) fun p' _ u v => u.Agrees p'.pairing v
  | listEntries {id id' : Int} (paired : (id, id') ∈ p.accounts) (page : Page) :
      Corresponds p₀ p l (.listEntries id page) (.listEntries id' page)
        (Unmoved p l (List.Forall₂ (Entry.Agrees p.pairing)))
  | listTransfers {id id' : Int} (paired : (id, id') ∈ p.accounts) (page : Page) :
      Corresponds p₀ p l (.listTransfers id page) (.listTransfers id' page)
        (Unmoved p l (List.Forall₂ (Transfer.Agrees p.pairing)))
  | totals : Corresponds p₀ p l .totals .totals (Unmoved p l fun a b => b = a)
  | audit {opened : List Account} (books : Ledger.Books opened l) :
      Corresponds p₀ p l .audit .audit (Unmoved p l fun a b => b = a)

namespace Relational

open Refinement

section Follows

variable {α β : Type}

/-- What a call does to a ledger and to tables: the tables show the ledger under a register that
contains the one before, and the outcomes agree. -/
def Follows (p₀ p : Register) (q : Sequences) (R : Register → Ledger → α → β → Prop)
    (done : Except Error α × Ledger) (done' : Except Error β × Tables) : Prop :=
  ∃ p', p ≤ p' ∧ done'.2.Shows p' done.2 q ∧ Outcome.Agrees p₀.pairing (R p' done.2) done.1 done'.1

variable {p₀ p : Register} {l : Ledger} {q : Sequences} {t : Tables}
  {R : Register → Ledger → α → β → Prop}

theorem Follows.error {e f : Error} (shows : t.Shows p l q) (failures : e.Agrees p₀.pairing f) :
    Follows p₀ p q R (.error e, l) (.error f, t) :=
  ⟨p, p.le_refl, shows, .error failures⟩

/-- A call that only reads. -/
theorem Follows.read {a : α} {b : β} {agree : α → β → Prop} (shows : t.Shows p l q)
    (values : agree a b) : Follows p₀ p q (Unmoved p l agree) (.ok a, l) (.ok b, t) :=
  ⟨p, p.le_refl, shows, .ok ⟨rfl, rfl, values⟩⟩

end Follows

variable {p₀ p : Register} {l : Ledger} {q : Sequences} {t : Tables} {now now' : Timestamp}
  {id id' : Int}

/-! ## Accounts -/

theorem follows_createAccount (shows : t.Shows p l q)
    (written : Rfc3339.parseStrict? (Rfc3339.numeric now') = some now') (owner : String)
    (currency : Currency) (balance : Int) :
    Follows p₀ p { q with account := q.account + 1 }
      (fun p' _ (a b : Account) => a.Agrees p'.pairing b)
      (Memory.changed l (l.createAccount now owner currency balance))
      (inserted t (t.insertAccount (q.account + 1 : Nat) now' owner currency balance)) := by
  have unused : t.Shows p l { q with account := q.account + 1 } :=
    shows.drawn (Nat.le_succ _) (Nat.le_refl _) (Nat.le_refl _)
  unfold Ledger.createAccount Tables.insertAccount
  rw [shows.holds]
  by_cases held : l.holds owner currency = true
  · rw [if_pos held, if_pos held]
    exact .error unused (.same _)
  · rw [if_neg held, if_neg held]
    by_cases low : balance < 0
    · rw [if_pos low, if_pos low]
      exact .error unused (.database _ _)
    · rw [if_neg low, if_neg low]
      obtain ⟨part, new, shows'⟩ := shows.withAccount
        (a := ⟨(l.lastAccount + 1 : Nat), owner, balance, currency, now⟩)
        (r := ⟨(q.account + 1 : Nat), owner, balance, currency.code, Rfc3339.numeric now'⟩)
        rfl rfl rfl rfl rfl (legible_numeric written)
      exact ⟨_, part, shows', .ok ⟨new, rfl, rfl, rfl⟩⟩

/-- Reading an account, whether or not it is claimed. -/
theorem follows_getAccount (shows : t.Shows p l q) (meets : Meets p id id') :
    Follows p₀ p q
      (Unmoved p l fun (a b : Account) =>
        a.Agrees p.pairing b ∧ l.account? id = some a ∧ (id, id') ∈ p.accounts)
      (l.getAccount id, l) (t.getAccount id', t) := by
  obtain ⟨missing, missing'⟩ | ⟨a, b, found, got, got', agree, paired⟩ := shows.getAccount meets
  · rw [missing, missing']
    exact .error shows (.missing _ _)
  · rw [got, got']
    exact .read shows ⟨agree, found, paired⟩

theorem follows_adjust (part : p₀ ≤ p) (shows : t.Shows p l q)
    (paired : (id, id') ∈ p₀.accounts) (delta : Int) :
    Follows p₀ p q (fun p' _ (a b : Account) => a.Agrees p'.pairing b)
      (Memory.changed l (l.adjust id delta)) (t.adjust id' delta) := by
  have known : (id, id') ∈ p.accounts := part.1 paired
  unfold Ledger.adjust Tables.adjust
  obtain ⟨missing, missing'⟩ | ⟨a, r, found, found', row⟩ := shows.account? (shows.meets known)
  · rw [Ledger.getAccount_of_missing missing, missing']
    exact .error shows (.missing _ _)
  · rw [Ledger.getAccount_of_found found, found']
    simp only [bind, Except.bind, row.balance]
    cases fits : Amount.fit? (a.balance + delta) with
    | none => exact .error shows (.database _ _)
    | some balance =>
      by_cases low : balance < 0
      · obtain ⟨b, read, agree, -⟩ := row.read
        simp only [if_pos low, read, agree.balance]
        exact .error shows (.short paired _ _)
      · -- The row is written first; what is read back is the account with its new balance.
        have shows' := shows.setBalance known balance
        have after : (l.setBalance id balance).account? id = some { a with balance } :=
          Ledger.account?_setBalance_self found
        obtain ⟨missing, -⟩ | ⟨b, b', after', -, got', agree, -⟩ :=
          shows'.getAccount (shows'.meets known)
        · rw [Ledger.getAccount_of_found after] at missing
          cases missing
        · cases after.symm.trans after'
          simp only [if_neg low, got']
          exact ⟨p, p.le_refl, shows', .ok agree⟩

/-! ## Entries and transfers -/

theorem follows_createEntry (shows : t.Shows p l q)
    (written : Rfc3339.parseStrict? (Rfc3339.numeric now') = some now')
    (paired : (id, id') ∈ p.accounts) (amount : Int) :
    Follows p₀ p { q with entry := q.entry + 1 }
      (fun p' _ (e f : Entry) => e.Agrees p'.pairing f)
      (Memory.changed l (l.createEntry now id amount))
      (inserted t (t.insertEntry (q.entry + 1 : Nat) now' id' amount)) := by
  have unused : t.Shows p l { q with entry := q.entry + 1 } :=
    shows.drawn (Nat.le_refl _) (Nat.le_succ _) (Nat.le_refl _)
  unfold Ledger.createEntry Ledger.requireAccount Tables.insertEntry
  rw [shows.hasAccount paired]
  by_cases known : l.hasAccount id = true
  · rw [if_pos known, if_pos known]
    obtain ⟨part, new, shows'⟩ := shows.withEntry
      (e := ⟨(l.lastEntry + 1 : Nat), id, amount, now⟩)
      (r := ⟨(q.entry + 1 : Nat), id', amount, Rfc3339.numeric now'⟩)
      rfl rfl paired rfl (legible_numeric written)
    exact ⟨_, part, shows', .ok ⟨new, part.1 paired, rfl⟩⟩
  · rw [if_neg known, if_neg known]
    exact .error unused (.database _ _)

/-- The stores check a transfer in another order, but refuse the same ones. -/
theorem follows_createTransfer (shows : t.Shows p l q)
    (written : Rfc3339.parseStrict? (Rfc3339.numeric now') = some now')
    {source source' destination destination' : Int} (pairedSource : (source, source') ∈ p.accounts)
    (pairedDestination : (destination, destination') ∈ p.accounts) (amount : Int) :
    Follows p₀ p { q with transfer := q.transfer + 1 }
      (fun p' _ (u v : Transfer) => u.Agrees p'.pairing v)
      (Memory.changed l (l.createTransfer now source destination amount))
      (inserted t (t.insertTransfer (q.transfer + 1 : Nat) now' source' destination' amount)) := by
  have unused : t.Shows p l { q with transfer := q.transfer + 1 } :=
    shows.drawn (Nat.le_refl _) (Nat.le_refl _) (Nat.le_succ _)
  have same : source = destination ↔ source' = destination' :=
    shows.accountIds.eq_iff pairedSource pairedDestination
  unfold Ledger.createTransfer Ledger.requireAccount Tables.insertTransfer
  rw [shows.hasAccount pairedSource, shows.hasAccount pairedDestination]
  by_cases wrong : amount ≤ 0 ∨ source = destination
  · have wrong' : amount ≤ 0 ∨ source' = destination' := wrong.imp_right same.1
    rw [if_pos wrong, if_pos wrong']
    cases l.hasAccount source with
    | false => exact .error unused (.database _ _)
    | true =>
      cases l.hasAccount destination with
      | false => exact .error unused (.database _ _)
      | true => exact .error unused (.database _ _)
  · have sound' : ¬ (amount ≤ 0 ∨ source' = destination') := mt (Or.imp_right same.2) wrong
    rw [if_neg wrong, if_neg sound']
    cases l.hasAccount source with
    | false => exact .error unused (.database _ _)
    | true =>
      cases l.hasAccount destination with
      | false => exact .error unused (.database _ _)
      | true =>
        obtain ⟨part, new, shows'⟩ := shows.withTransfer
          (u := ⟨(l.lastTransfer + 1 : Nat), source, destination, amount, now⟩)
          (r := ⟨(q.transfer + 1 : Nat), source', destination', amount, Rfc3339.numeric now'⟩)
          rfl rfl pairedSource pairedDestination rfl (legible_numeric written)
        exact ⟨_, part, shows', .ok ⟨new, part.1 pairedSource, part.1 pairedDestination, rfl⟩⟩

/-! ## Listings -/

theorem follows_listing {α β γ : Type} {S : α → β → Prop} {A : α → γ → Prop}
    {read : β → Except Error γ} {xs : List α} {ys : List β} (shows : t.Shows p l q)
    (page : Page) (all : List.Forall₂ S xs ys)
    (each : ∀ a b, S a b → ∃ c, read b = .ok c ∧ A a c) :
    Follows p₀ p q (Unmoved p l (List.Forall₂ A)) (.ok (page.window xs), l)
      ((page.window ys).mapM read, t) := by
  obtain ⟨zs, done, agree⟩ := mapM_of_forall₂ (window_of_forall₂ page all) each
  rw [done]
  exact .read shows agree

theorem follows_listAccounts (shows : t.Shows p l q) (owner : Option String) (page : Page) :
    Follows p₀ p q (Unmoved p l (List.Forall₂ (Account.Agrees p.pairing)))
      (Memory.onLedger now l (.listAccounts owner page))
      (onTables now' q t (.listAccounts owner page)) := by
  have each (a : Account) (r : AccountRow) (row : r.Shows p.pairing a) :
      ∃ b, r.read = .ok b ∧ a.Agrees p.pairing b := by
    obtain ⟨b, read, agree, -⟩ := row.read
    exact ⟨b, read, agree⟩
  cases owner with
  | none => exact follows_listing shows page shows.accounts each
  | some name =>
    refine follows_listing shows page (filter_of_forall₂ shows.accounts fun a r row => ?_) each
    rw [row.owner]

theorem follows_listEntries (shows : t.Shows p l q) (paired : (id, id') ∈ p.accounts)
    (page : Page) :
    Follows p₀ p q (Unmoved p l (List.Forall₂ (Entry.Agrees p.pairing)))
      (Memory.onLedger now l (.listEntries id page))
      (onTables now' q t (.listEntries id' page)) :=
  follows_listing shows page
    (filter_of_forall₂ shows.entries fun _ _ row => shows.beq_eq paired row.account)
    fun _ _ row => row.read

theorem follows_listTransfers (shows : t.Shows p l q) (paired : (id, id') ∈ p.accounts)
    (page : Page) :
    Follows p₀ p q (Unmoved p l (List.Forall₂ (Transfer.Agrees p.pairing)))
      (Memory.onLedger now l (.listTransfers id page))
      (onTables now' q t (.listTransfers id' page)) := by
  refine follows_listing shows page (filter_of_forall₂ shows.transfers fun u r row => ?_)
    fun _ _ row => row.read
  rw [Transfer.touches, shows.beq_eq paired row.source, shows.beq_eq paired row.destination]

/-! ## All calls -/

/-- **Calls that correspond have outcomes that agree**, and the tables go on showing the ledger. -/
theorem follows_of_corresponds {c c' : Call} {R : Register → Ledger → c.Answer → c'.Answer → Prop}
    (corresponds : c.Corresponds p₀ p l c' R) (part : p₀ ≤ p) (shows : t.Shows p l q)
    (written : Rfc3339.parseStrict? (Rfc3339.numeric now') = some now') :
    Follows p₀ p (q.draw c') R (Memory.onLedger now l c) (onTables now' (q.draw c') t c') := by
  cases corresponds with
  | createAccount owner currency balance =>
    exact follows_createAccount shows written owner currency balance
  | getAccount meets => exact follows_getAccount shows meets
  | claim paired => exact follows_getAccount shows (shows.meets paired)
  | adjust paired delta => exact follows_adjust part shows paired delta
  | listAccounts owner page => exact follows_listAccounts shows owner page
  | createEntry paired amount => exact follows_createEntry shows written paired amount
  | createTransfer source destination amount =>
    exact follows_createTransfer shows written source destination amount
  | listEntries paired page => exact follows_listEntries shows paired page
  | listTransfers paired page => exact follows_listTransfers shows paired page
  | totals =>
    have same : onTables now' (q.draw .totals) t .totals = (.ok l.totals, t) :=
      congrArg (·, t) shows.totals
    rw [same]
    exact .read shows rfl
  | audit books =>
    have clean : Memory.onLedger now l .audit = (.ok .clean, l) :=
      congrArg (fun a => (Except.ok a, l)) books.audit
    have clean' : onTables now' (q.draw .audit) t .audit = (.ok .clean, t) :=
      congrArg (·, t) (shows.audit books)
    rw [clean, clean']
    exact .read shows rfl

end Relational
end DoubleEntry
