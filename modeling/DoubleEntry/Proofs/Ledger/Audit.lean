import DoubleEntry.Proofs.Ledger.Books

/-!
# The audit of books

Books in order pass the audit with nothing to be found: `Ledger.Books.audit`.  The constraints of
the tables alone leave two things to be found (`Ledger.audit_of_constraints`).
-/

namespace DoubleEntry.Ledger

variable {l : Ledger} {opened : List Account}

/-- The two sides of each transfer cancel out. -/
theorem total_sides (transfers : List Transfer) :
    Amount.total ((transfers.flatMap sides).map (·.2)) = 0 := by
  induction transfers with
  | nil => rfl
  | cons t rest ih =>
    rw [List.flatMap_cons, List.map_append, Amount.total_append, ih]
    show -t.amount + (t.amount + 0) + 0 = 0
    omega

theorem Books.entrySum (books : Books opened l) : Amount.total (l.entries.map (·.amount)) = 0 := by
  have amounts : l.entries.map (·.amount) =
      (l.entries.map fun e => (e.account, e.amount)).map (·.2) := by simp
  rw [amounts, books.entries]
  exact total_sides l.transfers

/-- Where the constraints of the tables hold, an audit can find nothing but a sum of all entries,
and accounts whose entries and transfers disagree. -/
theorem audit_of_constraints (balances : ∀ a ∈ l.accounts, 0 ≤ a.balance)
    (entries : ∀ e ∈ l.entries, l.hasAccount e.account)
    (transfers : ∀ t ∈ l.transfers, l.hasAccount t.source ∧ l.hasAccount t.destination ∧
      0 < t.amount ∧ t.source ≠ t.destination) :
    l.audit = { Audit.clean with
      entrySum := Amount.total (l.entries.map (·.amount))
      drifted := l.accounts.filterMap fun a => l.drift? a.id } := by
  have negative : l.accounts.filter (·.balance < 0) = [] := by
    refine List.filter_eq_nil_iff.2 fun a mem below => ?_
    have := balances a mem
    simp only [decide_eq_true_eq] at below
    omega
  have invalid : l.transfers.filter isInvalid = [] := by
    refine List.filter_eq_nil_iff.2 fun t mem bad => ?_
    obtain ⟨-, -, positive, apart⟩ := transfers t mem
    simp only [isInvalid, Bool.or_eq_true, decide_eq_true_eq, beq_iff_eq] at bad
    rcases bad with small | same
    · omega
    · exact apart same
  have orphanedEntries : (l.entries.filter fun e => !l.hasAccount e.account) = [] := by
    refine List.filter_eq_nil_iff.2 fun e mem orphaned => ?_
    simp [entries e mem] at orphaned
  have orphanedTransfers : (l.transfers.filter fun t =>
      !l.hasAccount t.source || !l.hasAccount t.destination) = [] := by
    refine List.filter_eq_nil_iff.2 fun t mem orphaned => ?_
    obtain ⟨source, destination, -⟩ := transfers t mem
    simp [source, destination] at orphaned
  rw [Ledger.audit, negative, invalid, orphanedEntries, orphanedTransfers]
  rfl

/-- **Books in order pass the audit.** -/
theorem Books.audit (books : Books opened l) : l.audit = .clean := by
  have drifted : (l.accounts.filterMap fun a => l.drift? a.id) = [] := by
    refine List.filterMap_eq_nil_iff.2 fun a _ => ?_
    exact if_pos (entryTotal_eq_transferTotal books.entries a.id)
  rw [audit_of_constraints (fun a mem => (books.schema.balances a mem).1)
    books.schema.entries_on_accounts books.schema.transfers_between, books.entrySum, drifted]
  rfl

end DoubleEntry.Ledger
