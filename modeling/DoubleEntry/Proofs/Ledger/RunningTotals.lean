import DoubleEntry.Proofs.Ledger.Audit

/-!
# Running totals

An audit goes through the records of a ledger one after another and keeps a total for each account.
Each total that it forms on the way has to be an amount.

* `Tally` — a table of totals.  `Tally.addAll?` adds records to it and stops when a total is no
  amount, and `Tally.formed` lists the totals that are formed on the way.
* `boundedAudit?` — the audit in bounded arithmetic.  `boundedAudit?_eq_some_iff` is the main
  result: **it succeeds exactly if every total on the way is an amount, and then it says the same as
  the audit in whole numbers**.
* `exists_split_of_mem_formed` — a total on the way is what the records up to some point have added
  to one account.
-/

namespace DoubleEntry.Ledger

theorem addedTo_eq_zero {id : Int} {records : List (Int × Int)}
    (none : ∀ record ∈ records, record.1 ≠ id) : addedTo id records = 0 := by
  have unrelated : records.filter (·.1 == id) = [] := by
    refine List.filter_eq_nil_iff.2 fun record mem same => ?_
    exact none record mem (beq_iff_eq.1 same)
  rw [addedTo, unrelated]
  rfl

/-- A total for each account, zero for those without records. -/
abbrev Tally : Type := Int → Int

namespace Tally

/-- No records. -/
def empty : Tally := fun _ => 0

/-- Add a record to the total of its account. -/
def add (t : Tally) (record : Int × Int) : Tally :=
  Function.update t record.1 (t record.1 + record.2)

/-- Add a record, unless the new total is no amount. -/
def add? (t : Tally) (record : Int × Int) : Option Tally :=
  (Amount.fit? (t record.1 + record.2)).map (Function.update t record.1)

/-- Add some records one after the other, unless a total on the way is no amount. -/
def addAll? (t : Tally) (records : List (Int × Int)) : Option Tally :=
  records.foldlM add? t

/-- The totals that are formed on the way. -/
def formed (t : Tally) : List (Int × Int) → List Int
  | [] => []
  | record :: rest => (t record.1 + record.2) :: (t.add record).formed rest

variable {t t' : Tally} {record : Int × Int} {records : List (Int × Int)} {n : Int}

theorem add?_eq_some_iff :
    t.add? record = some t' ↔ Amount.InRange (t record.1 + record.2) ∧ t.add record = t' := by
  unfold add? Amount.fit?
  split
  · rename_i fits
    simp [fits, add]
  · rename_i outside
    simp [outside]

theorem add_apply (t : Tally) (record : Int × Int) (id : Int) :
    t.add record id = t id + addedTo id [record] := by
  rw [addedTo_single]
  by_cases same : record.1 = id
  · subst same
    simp [add]
  · have other : id ≠ record.1 := Ne.symm same
    simp [add, same, other]

/-- Bounded arithmetic gives the exact totals, as long as every total on the way is an amount. -/
theorem addAll?_eq_some_iff :
    t.addAll? records = some t' ↔
      (∀ n ∈ t.formed records, Amount.InRange n) ∧ t' = fun id => t id + addedTo id records := by
  induction records generalizing t with
  | nil =>
    have unchanged : (fun id => t id + addedTo id []) = t := funext fun id => Int.add_zero (t id)
    rw [unchanged]
    simp [addAll?, formed, eq_comm]
  | cons record rest ih =>
    have exact : (fun id => t id + addedTo id (record :: rest)) =
        fun id => t.add record id + addedTo id rest := by
      funext id
      rw [addedTo_cons, add_apply, Int.add_assoc]
    have first : t.addAll? (record :: rest) = (t.add? record).bind (·.addAll? rest) := rfl
    rw [exact, first, formed, List.forall_mem_cons, and_assoc, ← ih, Option.bind_eq_some_iff]
    constructor
    · rintro ⟨between, added, later⟩
      obtain ⟨fits, rfl⟩ := add?_eq_some_iff.1 added
      exact ⟨fits, later⟩
    · rintro ⟨fits, later⟩
      exact ⟨t.add record, add?_eq_some_iff.2 ⟨fits, rfl⟩, later⟩

/-- A total on the way is that of an account after one of its records. -/
theorem exists_split_of_mem_formed (mem : n ∈ t.formed records) :
    ∃ before record after, records = before ++ record :: after ∧
      n = t record.1 + addedTo record.1 (before ++ [record]) := by
  induction records generalizing t with
  | nil => cases mem
  | cons record rest ih =>
    rcases List.mem_cons.1 mem with rfl | later
    · exact ⟨[], record, rest, rfl, by simp [addedTo]⟩
    · obtain ⟨before, last, after, rfl, rfl⟩ := ih later
      refine ⟨record :: before, last, after, rfl, ?_⟩
      rw [add_apply, List.cons_append, addedTo_cons _ record (before ++ [last]), Int.add_assoc]

end Tally

/-! ## The audit in bounded arithmetic -/

/-- What the entries add to which account, in their order. -/
def entryRecords (l : Ledger) : List (Int × Int) :=
  l.entries.map fun e => (e.account, e.amount)

/-- What the transfers add to which account, in their order; each is credited before it is
debited. -/
def transferRecords (l : Ledger) : List (Int × Int) :=
  l.transfers.flatMap fun t => [(t.destination, t.amount), (t.source, -t.amount)]

/-- The entries as if they were all on one account, number zero. -/
def pooledRecords (l : Ledger) : List (Int × Int) :=
  l.entries.map fun e => (0, e.amount)

/-- All totals that an audit forms on the way: those of the entries of each account, those of the
transfers of each account, and that of all entries. -/
def formedTotals (l : Ledger) : List Int :=
  Tally.empty.formed l.entryRecords ++ Tally.empty.formed l.transferRecords ++
    Tally.empty.formed l.pooledRecords

/-- What is wrong with the records, found with totals that have to be amounts. -/
def boundedAudit? (l : Ledger) : Option Audit := do
  let entryTotals ← Tally.empty.addAll? l.entryRecords
  let transferTotals ← Tally.empty.addAll? l.transferRecords
  let pooled ← Tally.empty.addAll? l.pooledRecords
  some { l.audit with
    entrySum := pooled 0
    drifted := l.accounts.filterMap fun a =>
      if entryTotals a.id = transferTotals a.id then none
      else some ⟨a.id, entryTotals a.id, transferTotals a.id⟩ }

variable {l : Ledger}

theorem addedTo_entryRecords (l : Ledger) (id : Int) :
    addedTo id l.entryRecords = l.entryTotal id :=
  (l.entryTotal_eq id).symm

theorem addedTo_transferRecords (l : Ledger) (id : Int) :
    addedTo id l.transferRecords = l.transferTotal id := by
  unfold transferRecords transferTotal
  induction l.transfers with
  | nil => rfl
  | cons t rest ih =>
    have one : addedTo id [(t.destination, t.amount), (t.source, -t.amount)] = netAmount t id := by
      rw [← addedTo_sides, sides, addedTo_cons _ _ [_], Int.add_comm, ← addedTo_append]
      rfl
    rw [List.flatMap_cons, addedTo_append, ih, one, List.map_cons, Amount.total_cons]

theorem addedTo_pooled (entries : List Entry) :
    addedTo 0 (entries.map fun e => (0, e.amount)) = Amount.total (entries.map (·.amount)) := by
  simp [addedTo, List.filter_map, Function.comp_def]

/-- **The bounded audit succeeds exactly if every total on the way is an amount**, and then it says
the same as the audit in whole numbers. -/
theorem boundedAudit?_eq_some_iff {found : Audit} :
    l.boundedAudit? = some found ↔
      (∀ n ∈ l.formedTotals, Amount.InRange n) ∧ found = l.audit := by
  have same : { l.audit with
      entrySum := Tally.empty 0 + addedTo 0 l.pooledRecords
      drifted := l.accounts.filterMap fun a =>
        if Tally.empty a.id + addedTo a.id l.entryRecords =
            Tally.empty a.id + addedTo a.id l.transferRecords then none
        else some ⟨a.id, Tally.empty a.id + addedTo a.id l.entryRecords,
          Tally.empty a.id + addedTo a.id l.transferRecords⟩ } = l.audit := by
    simp only [Tally.empty, Int.zero_add, addedTo_entryRecords, addedTo_transferRecords,
      pooledRecords, addedTo_pooled]
    rfl
  unfold formedTotals
  simp only [List.forall_mem_append, boundedAudit?, Option.bind_eq_bind, Option.bind_eq_some_iff,
    Tally.addAll?_eq_some_iff, Option.some.injEq]
  constructor
  · rintro ⟨_, ⟨entries, rfl⟩, _, ⟨transfers, rfl⟩, _, ⟨pooled, rfl⟩, rfl⟩
    exact ⟨⟨⟨entries, transfers⟩, pooled⟩, same⟩
  · rintro ⟨⟨⟨entries, transfers⟩, pooled⟩, rfl⟩
    exact ⟨_, ⟨entries, rfl⟩, _, ⟨transfers, rfl⟩, _, ⟨pooled, rfl⟩, same⟩

end DoubleEntry.Ledger
