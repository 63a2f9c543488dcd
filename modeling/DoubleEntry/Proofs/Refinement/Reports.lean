import Mathlib.Data.List.Nodup
import DoubleEntry.Proofs.Ledger.Audit
import DoubleEntry.Proofs.Refinement.Tables

/-!
# Reports on tables

The totals of tables are those of the ledger that they show: the database groups the balances by the
text of their currency and sorts the groups afterwards, and comes out with the same list
(`Tables.Shows.totals`).  The audit forms sums that could leave the range of a column; on tables
that show books in order it finds nothing, like the audit of the ledger (`Tables.Shows.audit`).
-/

namespace DoubleEntry

/-! ## Duplicates -/

namespace Refinement

variable {α β : Type} [DecidableEq α] [DecidableEq β]

theorem nodup_eraseDups (xs : List α) : xs.eraseDups.Nodup := by
  induction count : xs.length using Nat.strongRecOn generalizing xs with
  | ind n ih =>
    cases xs with
    | nil => simp
    | cons a rest =>
      have shorter : (rest.filter fun b => !b == a).length < n := by
        have := List.length_filter_le (fun b => !b == a) rest
        rw [List.length_cons] at count
        omega
      rw [List.eraseDups_cons, List.nodup_cons]
      refine ⟨?_, ih _ shorter _ rfl⟩
      rw [List.mem_eraseDups, List.mem_filter]
      simp

/-- Under an injective function the same elements are duplicates. -/
theorem eraseDups_map {f : α → β} (injective : ∀ a b, f a = f b → a = b) (xs : List α) :
    (xs.map f).eraseDups = xs.eraseDups.map f := by
  induction count : xs.length using Nat.strongRecOn generalizing xs with
  | ind n ih =>
    cases xs with
    | nil => simp
    | cons a rest =>
      have shorter : (rest.filter fun b => !b == a).length < n := by
        have := List.length_filter_le (fun b => !b == a) rest
        rw [List.length_cons] at count
        omega
      have same : ((fun b => !b == f a) ∘ f) = fun b => !b == a := by
        funext b
        have same : f b = f a ↔ b = a := ⟨injective b a, congrArg f⟩
        simp [same]
      rw [List.map_cons, List.eraseDups_cons, List.eraseDups_cons, List.map_cons, List.filter_map,
        same, ih _ shorter _ rfl]

end Refinement

namespace Currency

theorem mem_byCode (c : Currency) : c ∈ byCode := by
  cases c <;> decide

theorem byCode_sorted : byCode.Pairwise fun c d => c.code ≤ d.code := by
  decide

end Currency

/-! ## Totals -/

namespace Ledger

/-- The currencies of a ledger, however its accounts are ordered. -/
theorem perm_currencies (l : Ledger) :
    (l.accounts.map (·.currency)).eraseDups.Perm l.currencies := by
  have distinct : l.currencies.Nodup := List.Nodup.filter _ (by decide)
  refine (List.perm_ext_iff_of_nodup (Refinement.nodup_eraseDups _) distinct).2 fun c => ?_
  rw [List.mem_eraseDups, currencies, List.mem_filter, List.any_eq_true, List.mem_map]
  simp [Currency.mem_byCode]

/-- Sorting the balances of the currencies by code gives the order in which totals are listed. -/
theorem mergeSort_balances (l : Ledger) :
    ((l.accounts.map (·.currency)).eraseDups.map fun c => (c, l.balanceIn c)).mergeSort
      (fun a b => decide (a.1.code ≤ b.1.code)) = l.currencies.map fun c => (c, l.balanceIn c) := by
  refine List.Perm.eq_of_pairwise (fun a b mem mem' le ge => ?_)
    (List.pairwise_mergeSort ?_ ?_ _) ?_ ?_
  · -- Two balances of one currency are the same balance.
    rw [List.mem_mergeSort] at mem
    obtain ⟨c, -, rfl⟩ := List.mem_map.1 mem
    obtain ⟨d, -, rfl⟩ := List.mem_map.1 mem'
    rw [Currency.code_injective c d (String.le_antisymm (of_decide_eq_true le)
      (of_decide_eq_true ge))]
  · intro a b c first second
    exact decide_eq_true (String.le_trans (of_decide_eq_true first) (of_decide_eq_true second))
  · intro a b
    rcases String.le_total a.1.code b.1.code with le | ge
    · simp [le]
    · simp [ge]
  · refine List.pairwise_map.2 ((Currency.byCode_sorted.filter _).imp fun le => ?_)
    exact decide_eq_true le
  · exact (List.mergeSort_perm _ _).trans (l.perm_currencies.map _)

end Ledger

namespace Relational.Tables.Shows

open Refinement

variable {p : Register} {l : Ledger} {q : Sequences} {t : Tables}

theorem balancesByText (shows : t.Shows p l q) :
    t.balancesByText =
      (l.accounts.map (·.currency)).eraseDups.map fun c => (c.code, l.balanceIn c) := by
  have texts : t.accounts.map (·.currency) = (l.accounts.map (·.currency)).map Currency.code := by
    rw [List.map_map]
    exact map_of_forall₂ shows.accounts fun a r row => row.currency.symm
  rw [Tables.balancesByText, texts, eraseDups_map Currency.code_injective, List.map_map]
  refine List.map_congr_left fun c _ => ?_
  have group : List.Forall₂ (fun a r => AccountRow.Shows p.pairing a r)
      (l.accounts.filter (·.currency == c)) (t.accounts.filter (·.currency == c.code)) := by
    refine filter_of_forall₂ shows.accounts fun a r row => ?_
    have same : a.currency = c ↔ a.currency.code = c.code :=
      ⟨congrArg _, Currency.code_injective _ _⟩
    rw [row.currency, Bool.eq_iff_iff, beq_iff_eq, beq_iff_eq, same]
  have balances := map_of_forall₂ (g := (·.balance)) group fun a r row => row.balance.symm
  rw [Function.comp_apply, balances, Ledger.balanceIn]

/-- **The totals are those of the ledger.** -/
theorem totals (shows : t.Shows p l q) : t.totals = .ok l.totals := by
  have read (c : Currency) : (do pure (← readCurrency c.code, l.balanceIn c) :
      Except Error (Currency × Int)) = pure (c, l.balanceIn c) := by
    rw [readCurrency_code]
    rfl
  simp only [Tables.totals, shows.balancesByText, List.mapM_map, Function.comp_def, read,
    List.mapM_pure]
  show Except.ok (⟨_, _, _, _⟩ : Totals) = _
  rw [l.mergeSort_balances, ← shows.accounts.length_eq, ← shows.entries.length_eq,
    ← shows.transfers.length_eq]
  rfl

/-! ## Audit -/

variable {id id' : Int}

theorem entryTotal (shows : t.Shows p l q) (paired : (id, id') ∈ p.accounts) :
    t.entryTotal id' = l.entryTotal id := by
  have own : List.Forall₂ (fun e r => EntryRow.Shows p.pairing e r)
      (l.entries.filter (·.account == id)) (t.entries.filter (·.account == id')) :=
    filter_of_forall₂ shows.entries fun e r row => shows.beq_eq paired row.account
  have amounts := map_of_forall₂ (g := (·.amount)) own fun e r row => row.amount.symm
  rw [Tables.entryTotal, amounts]
  rfl

theorem transferTotal (shows : t.Shows p l q) (paired : (id, id') ∈ p.accounts) :
    t.transferTotal id' = l.transferTotal id := by
  rw [Tables.transferTotal, Ledger.transferTotal]
  refine congrArg Amount.total (map_of_forall₂ shows.transfers fun u r row => ?_)
  have source : u.source = id ↔ r.source = id' := shows.meets paired row.source
  have destination : u.destination = id ↔ r.destination = id' :=
    shows.meets paired row.destination
  simp only [Ledger.netAmount, source, destination, row.amount]

/-- **Tables that show books in order pass the audit.** -/
theorem audit (shows : t.Shows p l q) {opened : List Account} (books : Ledger.Books opened l) :
    t.audit = .ok .clean := by
  have clean := books.audit
  simp only [Ledger.audit, Audit.clean, Audit.mk.injEq, List.map_eq_nil_iff] at clean
  obtain ⟨negative, sum, -, invalid, entries, transfers⟩ := clean
  have sum' : Amount.total (t.entries.map (·.amount)) = 0 := by
    rw [map_of_forall₂ shows.entries fun e r row => row.amount.symm, sum]
  have drifted' : t.drifts = .ok [] := by
    have agree : t.accounts.filter (fun r => t.entryTotal r.id ≠ t.transferTotal r.id) = [] := by
      have none : l.accounts.filter (fun a => l.entryTotal a.id ≠ l.transferTotal a.id) = [] := by
        simp [Ledger.entryTotal_eq_transferTotal books.entries]
      refine filter_eq_nil_of_forall₂ shows.accounts (fun a r row => ?_) none
      rw [shows.entryTotal row.id, shows.transferTotal row.id]
    rw [Tables.drifts, agree]
    rfl
  have negative' : t.accounts.filter (·.balance < 0) = [] :=
    filter_eq_nil_of_forall₂ shows.accounts (fun a r row => by rw [row.balance]) negative
  have invalid' : (t.transfers.filter fun r => r.amount ≤ 0 || r.source == r.destination) = [] := by
    refine filter_eq_nil_of_forall₂ shows.transfers (fun u r row => ?_) invalid
    have same : (u.source == u.destination) = (r.source == r.destination) :=
      shows.beq_eq row.destination row.source
    rw [Ledger.isInvalid, row.amount, same]
  have entries' : (t.entries.filter fun r => !t.hasAccount r.account) = [] := by
    refine filter_eq_nil_of_forall₂ shows.entries (fun e r row => ?_) entries
    rw [shows.hasAccount row.account]
  have transfers' : (t.transfers.filter fun r =>
      !t.hasAccount r.source || !t.hasAccount r.destination) = [] := by
    refine filter_eq_nil_of_forall₂ shows.transfers (fun u r row => ?_) transfers
    rw [shows.hasAccount row.source, shows.hasAccount row.destination]
  rw [Tables.audit, sum', drifted', negative', invalid', entries', transfers']
  rfl

end Relational.Tables.Shows
end DoubleEntry
