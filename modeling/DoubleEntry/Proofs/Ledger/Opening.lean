import DoubleEntry.Proofs.Ledger.Schema

/-!
# What opening an account does to a ledger

An account is opened if its owner has none in the currency yet, with the next free id;
`Ledger.createAccount_eq_ok` says so, and `Ledger.WellFormed.createAccount` that the constraints of
the schema are kept.
-/

namespace DoubleEntry.Ledger

variable {l l' : Ledger} {now : Timestamp} {owner : String} {currency : Currency} {balance id : Int}
  {a : Account}

/-- A ledger with one more account. -/
def withAccount (l : Ledger) (a : Account) : Ledger :=
  { l with accounts := l.accounts ++ [a], lastAccount := l.lastAccount + 1 }

theorem createAccount_eq_ok :
    l.createAccount now owner currency balance = .ok (a, l') ↔
      l.holds owner currency = false ∧ 0 ≤ balance ∧
        a = ⟨(l.lastAccount + 1 : Nat), owner, balance, currency, now⟩ ∧ l' = l.withAccount a := by
  unfold createAccount
  constructor
  · intro opened
    split at opened
    · cases opened
    · rename_i new
      split at opened
      · cases opened
      · rename_i low
        cases opened
        exact ⟨Bool.eq_false_iff.2 new, Int.not_lt.1 low, rfl, rfl⟩
  · rintro ⟨new, low, rfl, rfl⟩
    rw [if_neg (Bool.eq_false_iff.1 new), if_neg (Int.not_lt.2 low)]
    rfl

theorem hasAccount_withAccount (known : l.hasAccount id = true) :
    (l.withAccount a).hasAccount id = true := by
  rw [hasAccount_iff] at known ⊢
  rw [withAccount, List.map_append]
  exact List.mem_append_left _ known

/-- Nobody has an account in a currency twice. -/
theorem not_mem_of_holds (new : l.holds owner currency = false) :
    (owner, currency) ∉ l.accounts.map fun a => (a.owner, a.currency) := by
  intro mem
  obtain ⟨a, held, same⟩ := List.mem_map.1 mem
  obtain ⟨sameOwner, sameCurrency⟩ := Prod.mk.inj same
  have held' := List.any_eq_false.1 new a held
  simp [sameOwner, sameCurrency] at held'

/-- Opening an account keeps the constraints of the schema. -/
theorem WellFormed.createAccount (wf : l.WellFormed) (high : balance ≤ Amount.greatest)
    (opened : l.createAccount now owner currency balance = .ok (a, l')) : l'.WellFormed := by
  obtain ⟨new, low, rfl, rfl⟩ := createAccount_eq_ok.1 opened
  constructor
  · rw [withAccount, List.map_append]
    exact wf.accounts_numbered.append
  · exact wf.entries_numbered
  · exact wf.transfers_numbered
  · rw [withAccount, List.map_append, List.nodup_append']
    refine ⟨wf.owners_distinct, List.nodup_singleton _, ?_⟩
    exact List.disjoint_singleton.2 (not_mem_of_holds new)
  · intro b mem
    rcases List.mem_append.1 mem with old | added
    · exact wf.balances b old
    · rw [List.mem_singleton.1 added]
      exact ⟨low, high⟩
  · intro e mem
    exact hasAccount_withAccount (wf.entries_on_accounts e mem)
  · intro t mem
    obtain ⟨source, destination, positive, apart⟩ := wf.transfers_between t mem
    exact ⟨hasAccount_withAccount source, hasAccount_withAccount destination, positive, apart⟩

end DoubleEntry.Ledger
