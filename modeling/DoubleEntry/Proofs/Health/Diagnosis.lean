import DoubleEntry.Health
import DoubleEntry.Proofs.Ledger.RunningTotals
import DoubleEntry.Proofs.Store.Asking
import DoubleEntry.Proofs.Store.BareTransactions

/-!
# What a health check tells

A health check looks at an audit of the committed ledger.  Whoever works on the store without the
rules of a transfer may leave entries behind that no transfer explains; everything else that the
checks look for is ruled out by the constraints of the tables.

* `Coordinator.checkHealth_alone` — the report that a client gets who is alone with the store.
* `Ledger.Diagnosed` — what such a report says about a ledger.
* `Memory.Bare.checkHealth_diagnoses` — **a report is healthy exactly if the entries of every
  account make what its transfers make**, for every ledger that bare transactions can leave behind.
-/

namespace DoubleEntry

/-! ## Getting a report -/

namespace Coordinator

open Memory

/-- A client that is alone with the store and is not interrupted gets a report on the committed
ledger. -/
theorem checkHealth_alone {ν : Type} (c : Coordinator) (ctx : Context) (moments : Nat → Moment)
    (world : World Memory.State) (faultless : world.data.Faultless)
    (allowed : ∀ n, ctx.check (moments n) = .ok ())
    (early : ∀ d, c.timeout = some d → ∀ n m, (moments n).now < (moments m).now + d.nanos) :
    (store.runAmid (fun n w => { w with moment := moments n })
      (c.checkHealth ctx : Operation ν Health).run world).value =
        .ok (.ofAudit world.data.committed.audit) :=
  answer_alone c ctx moments world faultless allowed early fun _ => rfl

end Coordinator

/-! ## Checks -/

namespace Health

/-- The outcome of the check with a name. -/
def check? (h : Health) (name : String) : Option HealthCheck :=
  h.checks.find? (·.name == name)

/-- Every check ends in one of the three statuses. -/
theorem count_total (h : Health) :
    h.count .pass + h.count .warning + h.count .error = h.checks.length := by
  obtain ⟨checks⟩ := h
  simp only [count]
  induction checks with
  | nil => rfl
  | cons check rest ih =>
    cases status : check.status <;> simp [status] <;> omega

end Health

namespace HealthCheck

variable {name good bad : String} {ifFound : CheckStatus} {findings : List Finding}

theorem status_of :
    (of name ifFound findings good bad).status = if findings.isEmpty then .pass else ifFound := by
  unfold of
  split <;> rfl

theorem status_ne_error :
    (of name ifFound findings good bad).status ≠ .error ↔ findings = [] ∨ ifFound ≠ .error := by
  rw [status_of]
  cases findings <;> simp

theorem findings_of : (of name ifFound findings good bad).findings = findings := by
  unfold of
  split
  · rename_i none
    exact (List.isEmpty_iff.1 none).symm
  · rfl

theorem name_of : (of name ifFound findings good bad).name = name := by
  unfold of
  split <;> rfl

end HealthCheck

namespace Health

open HealthCheck

variable {a : Audit}

/-- A ledger is healthy if an audit found nothing but malformed transfers. -/
theorem isHealthy_ofAudit :
    (ofAudit a).isHealthy = true ↔ a.entrySum = 0 ∧ a.drifted = [] ∧ a.negativeBalances = [] ∧
      a.orphanedEntries = [] ∧ a.orphanedTransfers = [] := by
  have free : (ofAudit a).isHealthy = true ↔
      ∀ check ∈ (ofAudit a).checks, check.status ≠ .error := by
    simp [isHealthy, count, List.countP_eq_zero]
  rw [free]
  simp [ofAudit, entriesNetZero, entryTransferAgreement, invalidTransfers, negativeBalances,
    orphanedRecords, status_ne_error]

theorem check?_ofAudit :
    (ofAudit a).check? "entries_net_zero" = some (entriesNetZero a) ∧
      (ofAudit a).check? "entry_transfer_agreement" = some (entryTransferAgreement a) ∧
      (ofAudit a).check? "invalid_transfers" = some (invalidTransfers a) ∧
      (ofAudit a).check? "negative_balances" = some (negativeBalances a) ∧
      (ofAudit a).check? "orphaned_records" = some (orphanedRecords a) := by
  simp [check?, ofAudit, entriesNetZero, entryTransferAgreement, invalidTransfers,
    negativeBalances, orphanedRecords, name_of]

end Health

/-! ## Sums -/

namespace Ledger

variable {l : Ledger}

/-- What comes in to an account by transfers. -/
def incoming (l : Ledger) (id : Int) : Int :=
  Amount.total ((l.transfers.filter (·.destination == id)).map (·.amount))

/-- What goes out of an account by transfers. -/
def outgoing (l : Ledger) (id : Int) : Int :=
  Amount.total ((l.transfers.filter (·.source == id)).map (·.amount))

theorem transferTotal_eq (l : Ledger) (id : Int) :
    l.transferTotal id = l.incoming id - l.outgoing id := by
  unfold transferTotal incoming outgoing
  induction l.transfers with
  | nil => rfl
  | cons t rest ih =>
    rw [List.map_cons, Amount.total_cons, ih]
    by_cases source : t.source = id <;> by_cases destination : t.destination = id <;>
      simp [netAmount, source, destination] <;> omega

theorem total_eq_zero {ns : List Int} (zero : ∀ n ∈ ns, n = 0) : Amount.total ns = 0 := by
  induction ns with
  | nil => rfl
  | cons n rest ih =>
    obtain ⟨here, later⟩ := List.forall_mem_cons.1 zero
    rw [Amount.total_cons, here, ih later, Int.add_zero]

theorem total_map_add (f g : Int → Int) (ids : List Int) :
    Amount.total (ids.map fun id => f id + g id) =
      Amount.total (ids.map f) + Amount.total (ids.map g) := by
  induction ids with
  | nil => rfl
  | cons id rest ih =>
    simp only [List.map_cons, Amount.total_cons, ih]
    omega

/-- A record counts for one of some accounts. -/
theorem total_addedTo_single {ids : List Int} (distinct : ids.Nodup) {record : Int × Int}
    (known : record.1 ∈ ids) :
    Amount.total (ids.map fun id => addedTo id [record]) = record.2 := by
  obtain ⟨before, after, rfl⟩ := List.append_of_mem known
  have elsewhere (others : List Int) (absent : record.1 ∉ others) :
      Amount.total (others.map fun id => addedTo id [record]) = 0 := by
    refine total_eq_zero (List.forall_mem_map.2 fun id mem => ?_)
    exact addedTo_eq_zero (List.forall_mem_singleton.2 fun same => absent (same ▸ mem))
  obtain ⟨-, right, left⟩ := List.nodup_append.1 distinct
  rw [List.map_append, Amount.total_append, List.map_cons, Amount.total_cons,
    elsewhere before fun mem => left _ mem _ List.mem_cons_self rfl,
    elsewhere after (List.nodup_cons.1 right).1, addedTo_single, if_pos rfl]
  omega

/-- The totals of all accounts make the total of all records. -/
theorem total_addedTo {ids : List Int} (distinct : ids.Nodup) {records : List (Int × Int)}
    (known : ∀ record ∈ records, record.1 ∈ ids) :
    Amount.total (ids.map fun id => addedTo id records) = Amount.total (records.map (·.2)) := by
  induction records with
  | nil => exact total_eq_zero (List.forall_mem_map.2 fun id _ => rfl)
  | cons record rest ih =>
    obtain ⟨here, later⟩ := List.forall_mem_cons.1 known
    have split : (fun id => addedTo id (record :: rest)) =
        fun id => addedTo id [record] + addedTo id rest :=
      funext fun id => addedTo_cons id record rest
    rw [split, total_map_add, total_addedTo_single distinct here, ih later]
    rfl

/-! ## What the constraints leave to be found -/

theorem drift?_eq_some_iff {id : Int} {d : Drift} :
    l.drift? id = some d ↔ l.entryTotal id ≠ l.transferTotal id ∧
      ⟨id, l.entryTotal id, l.transferTotal id⟩ = d := by
  by_cases agree : l.entryTotal id = l.transferTotal id <;> simp [drift?, agree]

/-- The drifted accounts are those whose entries and transfers disagree, with their two sums. -/
theorem mem_drifted {d : Drift} :
    d ∈ l.audit.drifted ↔ l.hasAccount d.account = true ∧ d.entryTotal = l.entryTotal d.account ∧
      d.transferTotal = l.incoming d.account - l.outgoing d.account ∧
      d.entryTotal ≠ d.transferTotal := by
  simp only [hasAccount_iff, ← transferTotal_eq]
  constructor
  · intro mem
    obtain ⟨a, held, found⟩ := List.mem_filterMap.1 mem
    obtain ⟨disagree, rfl⟩ := drift?_eq_some_iff.1 found
    exact ⟨List.mem_map_of_mem held, rfl, rfl, disagree⟩
  · rintro ⟨known, entries, transfers, disagree⟩
    obtain ⟨a, held, same⟩ := List.mem_map.1 known
    obtain ⟨account, entryTotal, transferTotal⟩ := d
    obtain rfl : a.id = account := same
    obtain rfl : entryTotal = l.entryTotal a.id := entries
    obtain rfl : transferTotal = l.transferTotal a.id := transfers
    exact List.mem_filterMap.2 ⟨a, held, drift?_eq_some_iff.2 ⟨disagree, rfl⟩⟩

/-- No account is drifted if the entries of every account make what its transfers bring to it. -/
theorem drifted_eq_nil_iff :
    l.audit.drifted = [] ↔
      ∀ a ∈ l.accounts, l.entryTotal a.id = l.incoming a.id - l.outgoing a.id := by
  simp only [← transferTotal_eq]
  refine List.filterMap_eq_nil_iff.trans (forall₂_congr fun a _ => ?_)
  simp [drift?]

section Constrained

variable (sound : l.Constrained)

include sound

theorem ids_ascending : l.accounts.Pairwise fun a b => a.id < b.id := by
  have ids : (l.accounts.map (·.id)).Pairwise (· < ·) := by
    rw [sound.account_ids]
    exact idsUpTo_ascending _
  exact List.pairwise_map.1 ids

/-- Entries that make what the transfers make on every account make zero together: each of the sums
over all accounts is the sum over all records, and the two sides of a transfer cancel out. -/
theorem entrySum_of_agreement
    (agree : ∀ a ∈ l.accounts, l.entryTotal a.id = l.transferTotal a.id) :
    Amount.total (l.entries.map (·.amount)) = 0 := by
  have distinct := sound.ids_nodup
  have entries : ∀ record ∈ l.entryRecords, record.1 ∈ l.accounts.map (·.id) := by
    intro record mem
    obtain ⟨e, held, rfl⟩ := List.mem_map.1 mem
    exact hasAccount_iff.1 (sound.entries_on_accounts e held)
  have transfers : ∀ record ∈ l.transfers.flatMap sides, record.1 ∈ l.accounts.map (·.id) := by
    intro record mem
    obtain ⟨t, held, side⟩ := List.mem_flatMap.1 mem
    obtain ⟨source, destination, -⟩ := sound.transfers_between t held
    rcases List.mem_cons.1 side with rfl | side
    · exact hasAccount_iff.1 source
    · rw [List.mem_singleton.1 side]
      exact hasAccount_iff.1 destination
  have same : (l.accounts.map (·.id)).map (fun id => addedTo id l.entryRecords) =
      (l.accounts.map (·.id)).map fun id => addedTo id (l.transfers.flatMap sides) := by
    rw [List.map_map, List.map_map]
    refine List.map_congr_left fun a mem => ?_
    show addedTo a.id l.entryRecords = addedTo a.id (l.transfers.flatMap sides)
    rw [addedTo_entryRecords, agree a mem, addedTo_flatMap_sides, transferTotal]
  calc Amount.total (l.entries.map (·.amount))
      = Amount.total (l.entryRecords.map (·.2)) := by simp [entryRecords, Function.comp_def]
    _ = Amount.total ((l.accounts.map (·.id)).map fun id => addedTo id l.entryRecords) :=
        (total_addedTo distinct entries).symm
    _ = Amount.total ((l.accounts.map (·.id)).map fun id =>
          addedTo id (l.transfers.flatMap sides)) := congrArg Amount.total same
    _ = Amount.total ((l.transfers.flatMap sides).map (·.2)) := total_addedTo distinct transfers
    _ = 0 := total_sides l.transfers

theorem drifted_ascending : l.audit.drifted.Pairwise fun d d' => d.account < d'.account := by
  refine List.pairwise_filterMap.2 ((ids_ascending sound).imp ?_)
  intro a a' below d found d' found'
  obtain ⟨-, rfl⟩ := drift?_eq_some_iff.1 found
  obtain ⟨-, rfl⟩ := drift?_eq_some_iff.1 found'
  exact below

end Constrained

/-- What a report says about a ledger. -/
structure Diagnosed (l : Ledger) (h : Health) : Prop where
  /-- The ledger is healthy if the entries of every account make what its transfers bring to it. -/
  healthy_iff : h.isHealthy = true ↔
    ∀ a ∈ l.accounts, l.entryTotal a.id = l.incoming a.id - l.outgoing a.id
  /-- The drifted accounts are reported with their two sums. -/
  reported : (h.check? "entry_transfer_agreement").map (·.findings) =
    some (l.audit.drifted.map fun d => [("account_id", d.account), ("entry_total", d.entryTotal),
      ("transfer_total", d.transferTotal)])
  /-- Each of them is listed once, in the order of their ids. -/
  ascending : l.audit.drifted.Pairwise fun d d' => d.account < d'.account
  mem_drifted : ∀ d, d ∈ l.audit.drifted ↔ l.hasAccount d.account = true ∧
    d.entryTotal = l.entryTotal d.account ∧
    d.transferTotal = l.incoming d.account - l.outgoing d.account ∧ d.entryTotal ≠ d.transferTotal
  /-- The sum of all entries tells nothing that the accounts do not. -/
  net_zero : (h.check? "entries_net_zero").map (·.status) = some .error →
    (h.check? "entry_transfer_agreement").map (·.status) = some .error
  passed : ∀ name ∈ ["negative_balances", "invalid_transfers", "orphaned_records"],
    (h.check? name).map (·.status) = some .pass
  counted : h.count .pass + h.count .warning + h.count .error = h.checks.length

/-- A report on a ledger for which the constraints of the tables hold. -/
theorem Constrained.diagnosed (sound : l.Constrained) : l.Diagnosed (.ofAudit l.audit) := by
  have unfound : l.audit.negativeBalances = [] ∧ l.audit.invalidTransfers = [] ∧
      l.audit.orphanedEntries = [] ∧ l.audit.orphanedTransfers = [] := by
    rw [audit_of_constraints sound.balances sound.entries_on_accounts sound.transfers_between]
    exact ⟨rfl, rfl, rfl, rfl⟩
  have agree (none : l.audit.drifted = []) : l.audit.entrySum = 0 := by
    refine entrySum_of_agreement sound fun a mem => ?_
    rw [transferTotal_eq]
    exact drifted_eq_nil_iff.1 none a mem
  obtain ⟨netZero, agreement, invalid, negative, orphaned⟩ := Health.check?_ofAudit (a := l.audit)
  refine ⟨?_, ?_, drifted_ascending sound, fun d => mem_drifted, ?_, ?_, Health.count_total _⟩
  · rw [Health.isHealthy_ofAudit, ← drifted_eq_nil_iff]
    constructor
    · exact fun healthy => healthy.2.1
    · exact fun none => ⟨agree none, none, unfound.1, unfound.2.2⟩
  · rw [agreement, Option.map_some, HealthCheck.entryTransferAgreement, HealthCheck.findings_of]
  · rw [netZero, agreement, Option.map_some, Option.map_some]
    intro failed
    have drifted : l.audit.drifted ≠ [] := by
      intro none
      simp [HealthCheck.entriesNetZero, HealthCheck.status_of, agree none] at failed
    simp [HealthCheck.entryTransferAgreement, HealthCheck.status_of, drifted]
  · simp [negative, invalid, orphaned, HealthCheck.negativeBalances, HealthCheck.invalidTransfers,
      HealthCheck.orphanedRecords, HealthCheck.status_of, unfound]

end Ledger

/-! ## Reports on what bare transactions leave behind -/

namespace Memory.Bare

/-- For every ledger that bare transactions leave behind, as long as the running totals of the audit
are amounts: the audit in bounded arithmetic is the audit, and a client who is alone with the store
gets a report that diagnoses the ledger. -/
theorem checkHealth_diagnoses {ν : Type} (moment : Moment) (deeds : List Deed) :
    let l := ((fresh moment).doAll deeds).committed
    (∀ n ∈ l.formedTotals, Amount.InRange n) →
    l.boundedAudit? = some l.audit ∧
      ∀ (c : Coordinator) (ctx : Context) (moments : Nat → Moment) (world : World State),
        world.data.Faultless → world.data.committed = l →
        (∀ n, ctx.check (moments n) = .ok ()) →
        (∀ d, c.timeout = some d → ∀ n m, (moments n).now < (moments m).now + d.nanos) →
        ∃ h, (store.runAmid (fun n w => { w with moment := moments n })
            (c.checkHealth ctx : Operation ν Health).run world).value = .ok h ∧ l.Diagnosed h := by
  intro l bounded
  refine ⟨Ledger.boundedAudit?_eq_some_iff.2 ⟨bounded, rfl⟩, ?_⟩
  intro c ctx moments world faultless committed allowed early
  refine ⟨_, Coordinator.checkHealth_alone c ctx moments world faultless allowed early, ?_⟩
  rw [committed]
  exact (sound_of_fresh moment deeds).1.shared.diagnosed

/-- Alice opens an account, and an entry is booked on it that no transfer explains. -/
def unpaired : List Deed :=
  [.begin, .call (.createAccount "alice" .usd 100), .call (.createEntry 1 100), .commit]

/-- Two of the five checks fail. -/
theorem checkHealth_diagnoses_unpaired :
    let left := (fresh ⟨0, []⟩).doAll unpaired
    let run := store.runAmid (fun n w => { w with moment := ⟨min n 40, []⟩ })
      ((⟨.standard, some (.ofMillis 1000), fun _ => 7⟩ : Coordinator).checkHealth
        (.background ⟨0⟩) : Operation Unit Health).run left.world
    (∀ n ∈ left.committed.formedTotals, Amount.InRange n) ∧ left.world.data.Faultless ∧
      left.committed.boundedAudit? = some left.committed.audit ∧
      (∃ h, run.value = .ok h ∧ left.committed.Diagnosed h) ∧
      (run.value.map fun h => (h.isHealthy, h.count .pass, h.count .error)) =
        .ok (false, 3, 2) := by
  intro left run
  have bounded : ∀ n ∈ left.committed.formedTotals, Amount.InRange n := by decide +kernel
  obtain ⟨same, diagnoses⟩ := checkHealth_diagnoses (ν := Unit) ⟨0, []⟩ unpaired bounded
  exact ⟨bounded, ⟨rfl, rfl, rfl⟩, same,
    diagnoses ⟨.standard, some (.ofMillis 1000), fun _ => 7⟩ (.background ⟨0⟩)
      (fun n => ⟨min n 40, []⟩) left.world ⟨rfl, rfl, rfl⟩ rfl (fun _ => rfl) early_of_stopped,
    by decide +kernel⟩

end Memory.Bare
end DoubleEntry
