import DoubleEntry.Proofs.Health.Diagnosis
import DoubleEntry.Proofs.Traffic.Books

/-!
# Turnover

What goes through an account may add up to far more than an amount can be.  The totals that an audit
forms on the way are amounts all the same: each of them is the balance that the account had at some
moment, less what it was opened with.

* `Ledger.Steady` — some records lead up to a balance, and no balance on the way was below zero or
  too great.
* `Ledger.Turnover` — this holds for every account, with the entries and with the transfers, and for
  the pool of all entries, which is as good as full between two transfers and lacks the amount of
  one in the middle of it.
* `Traffic.play_turnover` — **no total of an audit ever leaves the range of amounts**, and nothing
  is found, whatever the clients of a store have asked for.
-/

namespace DoubleEntry

open Program

namespace Ledger

variable {l l' : Ledger} {id balance : Int} {records : List (Int × Int)} {record : Int × Int}

/-! ## Balances on the way -/

/-- The records lead up to the balance of an account.  What it was at some moment is the balance
less what the later records have added, and it was never below zero or too great. -/
def Steady (id balance : Int) (records : List (Int × Int)) : Prop :=
  ∀ earlier later, records = earlier ++ later →
    0 ≤ balance - addedTo id later ∧ balance - addedTo id later ≤ Amount.greatest

/-- An account without records has had its balance from the beginning. -/
theorem steady_of_untouched (low : 0 ≤ balance) (high : balance ≤ Amount.greatest)
    (none : ∀ record ∈ records, record.1 ≠ id) : Steady id balance records := by
  rintro earlier later rfl
  rw [addedTo_eq_zero fun record mem => none record (List.mem_append_right _ mem)]
  omega

/-- One more record leads up to the next balance. -/
theorem Steady.concat (steady : Steady id balance records)
    (low : 0 ≤ balance + addedTo id [record])
    (high : balance + addedTo id [record] ≤ Amount.greatest) :
    Steady id (balance + addedTo id [record]) (records ++ [record]) := by
  intro earlier later split
  obtain rfl | ⟨later, last, rfl⟩ := List.eq_nil_or_concat' later
  · have nothing : addedTo id [] = 0 := rfl
    omega
  · rw [← List.append_assoc] at split
    obtain ⟨before, same⟩ := List.append_inj' split rfl
    cases same
    have past := steady earlier later before
    rw [addedTo_append]
    omega

/-- So do two more records, if the balance between them is in order as well. -/
theorem Steady.concat_concat {first second : Int × Int} {last : Int}
    (steady : Steady id balance records)
    (between : 0 ≤ balance + addedTo id [first] ∧
      balance + addedTo id [first] ≤ Amount.greatest)
    (sum : last = balance + addedTo id [first] + addedTo id [second])
    (after : 0 ≤ last ∧ last ≤ Amount.greatest) :
    Steady id last (records ++ [first] ++ [second]) := by
  subst sum
  exact (steady.concat between.1 between.2).concat after.1 after.2

/-- A total on the way is a balance of the past less the opening balance. -/
theorem Steady.inRange {before after : List (Int × Int)}
    (steady : Steady id balance (before ++ record :: after)) :
    Amount.InRange (addedTo id (before ++ [record])) := by
  have opening := steady [] (before ++ record :: after) rfl
  have past := steady (before ++ [record]) after (by simp)
  have whole : addedTo id (before ++ record :: after) =
      addedTo id (before ++ [record]) + addedTo id after := by
    rw [← addedTo_append, List.append_assoc, List.singleton_append]
  simp only [Amount.InRange, Amount.least, Amount.greatest] at *
  omega

/-! ## The accounts of a ledger -/

/-- The records are on accounts of the ledger, and lead up to their balances. -/
structure Traces (l : Ledger) (records : List (Int × Int)) : Prop where
  known : ∀ record ∈ records, l.hasAccount record.1
  steady : ∀ a ∈ l.accounts, Steady a.id a.balance records

theorem Traces.inRange (traces : l.Traces records) :
    ∀ n ∈ Tally.empty.formed records, Amount.InRange n := by
  intro n mem
  obtain ⟨before, record, after, rfl, rfl⟩ := Tally.exists_split_of_mem_formed mem
  obtain ⟨a, held, same⟩ := List.mem_map.1 (hasAccount_iff.1 (traces.known record (by simp)))
  rw [Tally.empty, Int.zero_add, ← same]
  exact (traces.steady a held).inRange

theorem Traces.withAccount {a : Account} (traces : l.Traces records)
    (new : l.account? a.id = none) (low : 0 ≤ a.balance) (high : a.balance ≤ Amount.greatest) :
    (l.withAccount a).Traces records where
  known record mem := hasAccount_withAccount (traces.known record mem)
  steady := by
    intro b mem
    rcases List.mem_append.1 mem with old | added
    · exact traces.steady b old
    · obtain rfl := List.mem_singleton.1 added
      refine steady_of_untouched low high ?_
      intro record mem same
      have known := traces.known record mem
      rw [hasAccount, same, new] at known
      cases known

section Transfers

variable {times : TransferTimes} {r : TransferRequest} {source destination : Account}
  {first second : Int × Int}

/-- A record that leaves its own account in order does so for every account. -/
theorem bounds_of_record {n : Int} {a b : Account} (wf : l.WellFormed)
    (found : l.account? id = some b)
    (fits : 0 ≤ b.balance + n ∧ b.balance + n ≤ Amount.greatest) (held : a ∈ l.accounts) :
    0 ≤ a.balance + addedTo a.id [(id, n)] ∧
      a.balance + addedTo a.id [(id, n)] ≤ Amount.greatest := by
  rw [addedTo_single]
  by_cases here : id = a.id
  · rw [here, account?_of_mem wf.accounts_numbered.nodup held] at found
    cases found
    rwa [if_pos here]
  · rw [if_neg here, Int.add_zero]
    exact wf.balances a held

/-- The two records of a transfer lead up to the balances after it, whichever of them comes
first. -/
theorem Traces.booked (traces : l.Traces records) (wf : l.WellFormed) (positive : 0 < r.amount)
    (apart : r.source ≠ r.destination) (foundSource : l.account? r.source = some source)
    (foundDestination : l.account? r.destination = some destination)
    (funds : r.amount ≤ source.balance) (room : destination.balance + r.amount ≤ Amount.greatest)
    (two : first = (r.source, -r.amount) ∧ second = (r.destination, r.amount) ∨
      first = (r.destination, r.amount) ∧ second = (r.source, -r.amount)) :
    (l.booked times r source destination).2.Traces (records ++ [first] ++ [second]) := by
  have kept : (l.booked times r source destination).2.WellFormed :=
    wf.booked positive apart foundSource foundDestination funds room
  constructor
  · intro record mem
    rw [hasAccount_booked]
    have knownSource := hasAccount_of_found foundSource
    have knownDestination := hasAccount_of_found foundDestination
    rw [List.append_assoc, List.mem_append] at mem
    rcases mem with old | new
    · exact traces.known record old
    · have either : record = first ∨ record = second := by simpa using new
      obtain ⟨rfl, rfl⟩ | ⟨rfl, rfl⟩ := two <;> obtain rfl | rfl := either <;> assumption
  · intro a' mem
    have bounds := kept.balances a' mem
    obtain ⟨a, held, rfl⟩ := List.mem_map.1 mem
    have after : (r.settled source destination a).balance = a.balance + addedTo a.id r.shifts :=
      congrArg Account.balance (settled_eq_plus apart foundSource foundDestination
        (account?_of_mem wf.accounts_numbered.nodup held))
    rw [TransferRequest.shifts, addedTo_cons] at after
    rw [TransferRequest.settled_id]
    have before := traces.steady a held
    -- Entries are debited first and transfers are credited first: the balance between the two
    -- records is a different one, and it has to be in order either way.
    obtain ⟨rfl, rfl⟩ | ⟨rfl, rfl⟩ := two
    · have high := (wf.balances source (mem_of_account? foundSource).1).2
      have debit := bounds_of_record wf foundSource (n := -r.amount) (by omega) held
      exact before.concat_concat debit (by omega) bounds
    · have low := (wf.balances destination (mem_of_account? foundDestination).1).1
      have credit := bounds_of_record wf foundDestination (n := r.amount) (by omega) held
      exact before.concat_concat credit (by omega) bounds

end Transfers

/-! ## Whole ledgers -/

/-- All totals that an audit forms follow the balances of the past.  The pool of all entries counts
as an account that was opened with the greatest amount. -/
structure Turnover (l : Ledger) : Prop where
  schema : l.WellFormed
  entries : l.Traces l.entryRecords
  transfers : l.Traces l.transferRecords
  pooled : Steady 0 Amount.greatest l.pooledRecords

theorem turnover_empty : empty.Turnover where
  schema := wellFormed_empty
  entries := ⟨List.forall_mem_nil _, List.forall_mem_nil _⟩
  transfers := ⟨List.forall_mem_nil _, List.forall_mem_nil _⟩
  pooled := steady_of_untouched (by decide) (by decide) (List.forall_mem_nil _)

/-- No total that an audit forms is out of range. -/
theorem Turnover.inRange (turnover : l.Turnover) : ∀ n ∈ l.formedTotals, Amount.InRange n := by
  intro n mem
  rw [formedTotals, List.mem_append, List.mem_append] at mem
  obtain (mem | mem) | mem := mem
  · exact turnover.entries.inRange n mem
  · exact turnover.transfers.inRange n mem
  · obtain ⟨before, record, after, split, rfl⟩ := Tally.exists_split_of_mem_formed mem
    have pooled := turnover.pooled
    rw [split] at pooled
    have here : record.1 = 0 := by
      have mem : record ∈ l.pooledRecords := by simp [split]
      obtain ⟨e, -, rfl⟩ := List.mem_map.1 mem
      rfl
    rw [Tally.empty, Int.zero_add, here]
    exact pooled.inRange

theorem Turnover.createAccount {now : Timestamp} {owner : String} {currency : Currency}
    {a : Account} (turnover : l.Turnover) (high : balance ≤ Amount.greatest)
    (created : l.createAccount now owner currency balance = .ok (a, l')) : l'.Turnover := by
  have schema := turnover.schema.createAccount high created
  obtain ⟨-, low, rfl, rfl⟩ := createAccount_eq_ok.1 created
  have new := turnover.schema.account?_next
  exact ⟨schema, turnover.entries.withAccount new low high,
    turnover.transfers.withAccount new low high, turnover.pooled⟩

theorem Turnover.transfer {principal : Option Principal} {times : TransferTimes}
    {r : TransferRequest} {result : TransferResult} (turnover : l.Turnover)
    (done : l.transfer principal times r = .ok (result, l')) : l'.Turnover := by
  have schema := turnover.schema.transfer done
  obtain ⟨positive, apart, source, destination, foundSource, foundDestination, -, -, funds, room,
    booked⟩ := transfer_eq_ok.1 done
  obtain rfl : (l.booked times r source destination).2 = l' := congrArg (·.2) booked
  have wf := turnover.schema
  have entries : (l.booked times r source destination).2.entryRecords =
      l.entryRecords ++ [(r.source, -r.amount)] ++ [(r.destination, r.amount)] := by
    simp [entryRecords, Ledger.booked, moved, withEntry, withTransfer]
  have transfers : (l.booked times r source destination).2.transferRecords =
      l.transferRecords ++ [(r.destination, r.amount)] ++ [(r.source, -r.amount)] := by
    simp [transferRecords, Ledger.booked, moved, withEntry, withTransfer]
  have pooled : (l.booked times r source destination).2.pooledRecords =
      l.pooledRecords ++ [(0, -r.amount)] ++ [(0, r.amount)] := by
    simp [pooledRecords, Ledger.booked, moved, withEntry, withTransfer]
  refine ⟨schema, ?_, ?_, ?_⟩
  · rw [entries]
    exact turnover.entries.booked wf positive apart foundSource foundDestination funds room
      (.inl ⟨rfl, rfl⟩)
  · rw [transfers]
    exact turnover.transfers.booked wf positive apart foundSource foundDestination funds room
      (.inr ⟨rfl, rfl⟩)
  · rw [pooled]
    have high := (wf.balances source (mem_of_account? foundSource).1).2
    have debit : addedTo 0 [((0 : Int), -r.amount)] = -r.amount := by simp [addedTo_single]
    have credit : addedTo 0 [((0 : Int), r.amount)] = r.amount := by simp [addedTo_single]
    exact turnover.pooled.concat_concat (by omega) (by omega) (by decide)

end Ledger

/-! ## Orders -/

namespace Traffic

open Ledger

variable {ν : Type} {l l' : Ledger}

theorem turnover_of_along {served : List ((_ : Order ν) × Receipt)} (turnover : l.Turnover)
    (way : Along Order.Serves l served l') : l'.Turnover := by
  refine Along.keeps way (fun e _ s s' serves turnover => ?_) turnover
  obtain ⟨new, fits, a, now, -, -, created⟩ | ⟨r, inform, result, times, -, -, moved⟩ :=
    Order.serves_cases serves
  · exact turnover.createAccount fits created
  · exact turnover.transfer moved

/-- Whatever the clients of a store that was empty at first have asked for, however the visits were
scheduled and whatever failed: every total that an audit forms is an amount, the audit finds
nothing, and a client who is alone with the store gets a report in which all five checks pass. -/
theorem play_turnover (moment : Moment) (moves : List (Move ν)) :
    let l := (play ⟨moment, .ofInner .empty⟩ moves).committed
    (∀ n ∈ l.formedTotals, Amount.InRange n) ∧ l.boundedAudit? = some .clean ∧
      ∀ (c : Coordinator) (ctx : Context) (moments : Nat → Moment) (world : World Memory.State),
        world.data.Faultless → world.data.committed = l →
        (∀ n, ctx.check (moments n) = .ok ()) →
        (∀ d, c.timeout = some d → ∀ n m, (moments n).now < (moments m).now + d.nanos) →
        ∃ h, (Memory.store.runAmid (fun n w => { w with moment := moments n })
            (c.checkHealth ctx : Operation ν Health).run world).value = .ok h ∧
          h.isHealthy = true ∧ h.checks.length = 5 ∧ h.count .pass = 5 := by
  intro l
  obtain ⟨log, consistent⟩ := consistent_moves moves (consistent_start ⟨moment, .ofInner .empty⟩)
  obtain ⟨served, way, -⟩ := serves_of_consistent consistent
  have bounded : ∀ n ∈ l.formedTotals, Amount.InRange n :=
    (turnover_of_along turnover_empty way).inRange
  have clean : l.audit = .clean := (books_of_consistent consistent).audit
  refine ⟨bounded, boundedAudit?_eq_some_iff.2 ⟨bounded, clean.symm⟩, ?_⟩
  intro c ctx moments world faultless committed allowed early
  refine ⟨_, Coordinator.checkHealth_alone c ctx moments world faultless allowed early, ?_⟩
  rw [committed, clean]
  exact ⟨rfl, rfl, rfl⟩

/-- Alice opens an account with the greatest amount, and Bob one with nothing.  All of it goes to
Bob and back, and to Bob again. -/
def pingPong : List (Move Int) :=
  let rules : Coordinator := ⟨.standard, some (.ofMillis 1000), fun _ => 0⟩
  let trusted : Context := .background ⟨0⟩
  let told : TransferResult → List Int := fun result => [result.transfer.id]
  let toBob : Order Int := ⟨rules, trusted, .transfer ⟨1, 2, Amount.greatest⟩ told⟩
  let toAlice : Order Int := ⟨rules, trusted, .transfer ⟨2, 1, Amount.greatest⟩ told⟩
  [.issue ⟨rules, trusted, .account ⟨"alice", .usd, Amount.greatest⟩ (by decide)⟩,
    .issue ⟨rules, trusted, .account ⟨"bob", .usd, 0⟩ (by decide)⟩] ++
  (List.replicate 16 [.act 0, .act 1]).flatten ++
  .issue toBob :: List.replicate 30 (.act 2) ++
  .issue toAlice :: List.replicate 30 (.act 3) ++
  .issue toBob :: List.replicate 30 (.act 4)

/-- Far more goes through the accounts than an amount can be, and the report is a good one. -/
theorem play_turnover_pingPong :
    let l := (play ⟨⟨0, []⟩, .ofInner .empty⟩ pingPong).committed
    let run := Memory.store.runAmid (fun n w => { w with moment := ⟨min n 40, []⟩ })
      ((⟨.standard, some (.ofMillis 1000), fun _ => 7⟩ : Coordinator).checkHealth
        (.background ⟨0⟩) : Operation Int Health).run
      ⟨⟨0, []⟩, { Memory.State.empty with committed := l }⟩
    (Amount.greatest < Amount.total (l.transfers.map (·.amount)) ∧
        l.accounts.map (·.balance) = [0, Amount.greatest]) ∧
      (∀ n ∈ l.formedTotals, Amount.InRange n) ∧ l.boundedAudit? = some .clean ∧
      ∃ h, run.value = .ok h ∧ h.isHealthy = true ∧ h.checks.length = 5 ∧ h.count .pass = 5 := by
  have turnover := play_turnover ⟨0, []⟩ pingPong
  have facts : let l := (play ⟨⟨0, []⟩, .ofInner .empty⟩ pingPong).committed
      Amount.greatest < Amount.total (l.transfers.map (·.amount)) ∧
        l.accounts.map (·.balance) = [0, Amount.greatest] := by
    decide +kernel
  -- From here on, nobody should try to compute the schedule.
  generalize (play ⟨⟨0, []⟩, .ofInner .empty⟩ pingPong).committed = l at turnover facts ⊢
  obtain ⟨bounded, clean, reported⟩ := turnover
  exact ⟨facts, bounded, clean,
    reported ⟨.standard, some (.ofMillis 1000), fun _ => 7⟩ (.background ⟨0⟩)
      (fun n => ⟨min n 40, []⟩) ⟨⟨0, []⟩, { Memory.State.empty with committed := l }⟩
      ⟨rfl, rfl, rfl⟩ rfl (fun _ => rfl) Memory.early_of_stopped⟩

end Traffic
end DoubleEntry
