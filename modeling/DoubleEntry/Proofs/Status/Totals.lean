import DoubleEntry.Proofs.Authority.Crowd
import DoubleEntry.Proofs.Ledger.Totals
import DoubleEntry.Proofs.Store.Asking
import DoubleEntry.Proofs.Store.BareTransactions

/-!
# Totals of the store in memory

A summary of the ledger adds up balances that may come to far more than an amount can be.

* `Crowd.holds_play` — what calls keep is kept in a crowd, by the committed ledger and by every
  ledger that a transaction began on.
* `Crowd.Accounted` — what becomes of the sums of the balances in a crowd.
* `Memory.Totalled` — what the store tells of the totals of a ledger.
* `totals_exact` — **totals are exact**, for every ledger that can be reached.
-/

namespace DoubleEntry

open Program Store Traffic

/-! ## What calls keep, a crowd keeps -/

section Kept

variable {ν : Type} {P : Ledger → Prop}

/-- A step of a client keeps what calls keep, in the committed ledger and in its transaction. -/
theorem Traffic.kept_of_answer {t : Traffic ν} {n : Nat} {queued : Bool} {s : Standing ν}
    {q : Step ν} {answer : q.Answer} {seat' : Seat (Faults.State Memory.State) Ledger ν}
    (kept : ∀ now l c, P l → P (Memory.onLedger now l c).2) (shared : P t.committed)
    (staged : ∀ tx, t.own n = some tx → P tx) (mirrors : Mirrors (t.seat n) s)
    (answered : t.answer? n queued q = some (answer, seat')) :
    P (keeping.ledger seat') ∧ ∀ tx, seat'.transaction = some tx → P tx := by
  obtain ⟨s', taken, mirrors', -, -⟩ := follows_answer? mirrors answered
  have committed : P (keeping.ledger seat') := by
    cases published : isPublication ⟨q, answer⟩ with
    | true => exact staged _ (published_of_answer? answered published)
    | false => exact (ledger_of_answer? answered published).symm ▸ shared
  have own {b l : Ledger} (opened : s.opened = some (b, l)) : P l := by
    rw [mirrors.opened] at opened
    obtain ⟨tx, held, same⟩ := Option.map_eq_some_iff.1 opened
    cases same
    exact staged _ held
  refine ⟨committed, fun tx held => ?_⟩
  have opened' := mirrors'.opened_of_held held
  cases q with
  | begin ctx =>
    rcases answer with e | ⟨⟩
    · obtain ⟨-, rfl | rfl⟩ := taken
      · exact own opened'
      · cases opened'
    · -- The transaction starts out as the committed ledger.
      obtain ⟨b, -, rfl⟩ := taken
      cases opened'
      exact committed
  | call ctx c =>
    obtain ⟨seen, opened, published, sent⟩ := s
    rcases opened with _ | ⟨b, l⟩
    · obtain ⟨-, rfl⟩ := taken
      cases opened'
    · obtain ⟨l', answered', rfl⟩ := taken
      cases opened'
      obtain ⟨now, carried⟩ | ⟨-, rfl⟩ := answered'
      · have after := kept now l c (own rfl)
        rwa [carried] at after
      · exact own rfl
  | commit =>
    rcases answer with e | ⟨⟩
    · obtain ⟨-, rfl⟩ := taken
      cases opened'
    · obtain ⟨b, l, -, rfl⟩ := taken
      cases opened'
  | rollback =>
    obtain ⟨-, rfl⟩ := taken
    cases opened'
  | now | check ctx =>
    obtain ⟨-, rfl⟩ := taken
    exact own opened'
  | wait d | cancel token | notify notice =>
    cases taken
    exact own opened'

namespace Crowd

/-- Something that holds of the committed ledger, of the open transaction, and of all ledgers that
transactions began on. -/
structure Holds (P : Ledger → Prop) (t : Crowd ν) : Prop where
  shared : P t.committed
  staged : ∀ n tx, t.holder = some (n, tx) → P tx
  begun : ∀ c ∈ t.commits, P c.2.1

variable {t : Crowd ν} {clients : Nat → Procedure ν (Except Error Reply)} {l : Ledger}

theorem Holds.act (kept : ∀ now l c, P l → P (Memory.onLedger now l c).2) (holds : t.Holds P)
    (consistent : Consistent clients l t) (n : Nat) : (t.act n).Holds P := by
  obtain ⟨shared, staged, begun⟩ := holds
  obtain ⟨_, _, s, _, _, mirrors, _⟩ := consistent.guests n
  unfold Crowd.act
  split
  · exact ⟨shared, staged, begun⟩
  · split
    · rename_i q next asks answer seat' answered
      obtain ⟨committed, opened⟩ := Traffic.kept_of_answer kept shared
        (fun tx own => staged n tx (own_eq_some.1 own)) mirrors answered
      refine ⟨committed, fun m tx held => ?_, fun c mem => ?_⟩
      · change t.desk.holderAfter n seat'.transaction = some (m, tx) at held
        unfold holderAfter at held
        split at held
        · rename_i tx' here
          cases held
          exact opened _ here
        · split at held
          · cases held
          · exact staged m tx held
      · rcases List.mem_append.1 mem with before | new
        · exact begun c before
        · unfold logged at new
          split at new
          · rw [List.mem_singleton.1 new]
            exact shared
          · cases new
    · exact ⟨shared, staged, begun⟩

/-- Whatever the clients do, a crowd keeps what calls keep. -/
theorem holds_play (kept : ∀ now l c, P l → P (Memory.onLedger now l c).2)
    (clients : Nat → Procedure ν (Except Error Reply)) (world : World (Faults.State Memory.State))
    (start : P (keeping.committed world.data)) (moves : List Move) :
    (play clients world moves).Holds P := by
  refine (List.foldlRecOn (motive := fun t : Crowd ν =>
    Consistent clients (keeping.committed world.data) t ∧ t.Holds P) moves move
    ⟨consistent_start clients world, start, nofun, nofun⟩ ?_).2
  rintro t ⟨consistent, holds⟩ m -
  refine ⟨consistent_move consistent m, ?_⟩
  cases m with
  | act n => exact holds.act kept consistent n
  | stir change spares =>
    have same : (t.move (.stir change spares)).committed = t.committed := spares t.world
    exact ⟨same.symm ▸ holds.shared, holds.staged, holds.begun⟩

end Crowd
end Kept

/-! ## How a crowd changes the sums -/

namespace Crowd

variable {ν : Type}

/-- What becomes of the sums of the balances in a crowd that found a ledger. -/
structure Accounted (clients : Nat → Procedure ν (Except Error Reply)) (found : Ledger)
    (t : Crowd ν) : Prop where
  /-- The committed ledger is changed by commits alone. -/
  chain : Chain found t.commits t.committed
  /-- A transfer leaves the sums as they are, whatever comes of it. -/
  transfers : ∀ {n : Nat} {c : Coordinator} {ctx : Context} {store : String} {r : TransferRequest}
    {listeners : List (TransferResult → ν)},
    clients n = ((.transfer r listeners : Ask ν).serve c store ctx).run →
    ∀ b made, (n, b, made) ∈ t.commits → made.balanceIn = b.balanceIn
  /-- An account that is opened adds its opening balance to the sum of its own currency. -/
  openings : ∀ {n : Nat} {c : Coordinator} {ctx : Context} {store : String} {new : NewAccount}
    {fits : new.initialBalance ≤ Amount.greatest} {reply : Reply},
    clients n = ((.createAccount new fits : Ask ν).serve c store ctx).run →
    t.outcome? n = some (.ok reply) →
    ∃ b made, publishedBy t.commits n = [(b, made)] ∧ ∀ currency, made.balanceIn currency =
      b.balanceIn currency + if new.currency = currency then new.initialBalance else 0
  /-- An account that is not opened changes nothing. -/
  refusals : ∀ {n : Nat} {c : Coordinator} {ctx : Context} {store : String} {new : NewAccount}
    {fits : new.initialBalance ≤ Amount.greatest} {e : Error},
    clients n = ((.createAccount new fits : Ask ν).serve c store ctx).run →
    t.outcome? n = some (.error e) → publishedBy t.commits n = []

variable {clients : Nat → Procedure ν (Except Error Reply)} {l : Ledger} {t : Crowd ν}

/-- In a crowd that keeps the constraints of the tables the sums are accounted for. -/
theorem Consistent.accounted (consistent : Consistent clients l t)
    (constrained : t.Holds Ledger.Constrained) : t.Accounted clients l where
  chain := consistent.chain
  transfers := by
    intro n c ctx store r listeners serves b made mem
    cases makes_of_commit consistent serves mem with
    | nothing => rfl
    | moves done =>
      exact funext (Ledger.balanceIn_transfer (constrained.begun _ mem).ids_nodup done)
  openings := by
    intro n c ctx store new fits reply serves finished
    obtain ⟨first, trace, s, whole, along, published⟩ := consistent.runs_of_outcome finished
    rw [serves] at whole
    obtain ⟨outcome, ran, same⟩ := Refinement.runs_of_map whole
    obtain ⟨-, ⟨e, rfl, -⟩ | ⟨opened, b, made, now, -, committed, -, -, created⟩⟩ :=
      published_of_createAccount ran along
    · cases same
    · rw [published] at committed
      exact ⟨b, made, committed, Ledger.balanceIn_createAccount created⟩
  refusals := by
    intro n c ctx store new fits e serves finished
    obtain ⟨first, trace, s, whole, along, published⟩ := consistent.runs_of_outcome finished
    rw [serves] at whole
    obtain ⟨outcome, ran, same⟩ := Refinement.runs_of_map whole
    obtain ⟨-, ⟨e, -, unchanged⟩ | ⟨opened, b, made, now, rfl, -⟩⟩ :=
      published_of_createAccount ran along
    · exact published.symm.trans unchanged
    · cases same

end Crowd

/-! ## Reachable ledgers -/

namespace Memory

/-- The store in memory tells the exact totals of a ledger. -/
structure Totalled (l : Ledger) : Prop where
  /-- No sum is too wide on the way. -/
  bounded : l.boundedTotals? = some l.totals
  exact : l.totals.Exact l
  reported : ∀ w, (store.call .totals l w).1 = .ok l.totals
  /-- An account that is opened adds its opening balance to the sum of its own currency. -/
  opening : ∀ {w : World State} {owner : String} {currency : Currency} {balance : Int}
    {a : Account}, (store.call (.createAccount owner currency balance) l w).1 = .ok a → ∀ c,
    (store.call (.createAccount owner currency balance) l w).2.1.balanceIn c =
      l.balanceIn c + if currency = c then balance else 0
  /-- The record of a transfer changes no sum. -/
  recording : ∀ w source destination amount,
    (store.call (.createTransfer source destination amount) l w).2.1.balanceIn = l.balanceIn

theorem totalled {l : Ledger} (countable : l.Countable) (amounts : l.InAmounts) : Totalled l where
  bounded := Ledger.boundedTotals?_eq countable amounts
  exact := l.exact_totals
  reported _ := rfl
  opening := by
    intro w owner currency balance a created c
    change (changed l (l.createAccount (.ofNanos w.moment.now) owner currency balance)).1 = _
      at created
    show (changed l (l.createAccount (.ofNanos w.moment.now) owner currency balance)).2.balanceIn c
      = _
    cases made : l.createAccount (.ofNanos w.moment.now) owner currency balance with
    | error e =>
      rw [made] at created
      cases created
    | ok opened =>
      obtain ⟨a', l'⟩ := opened
      exact Ledger.balanceIn_createAccount made c
  recording w source destination amount := by
    obtain ⟨-, same | ⟨now, carried⟩⟩ :=
      Bare.call_cases (.createTransfer source destination amount) l w
    · rw [same]
    · rw [carried, onLedger]
      cases made : l.createTransfer now source destination amount with
      | error e => rfl
      | ok recorded =>
        obtain ⟨t, l'⟩ := recorded
        obtain ⟨-, -, -, -, -, rfl⟩ := Ledger.createTransfer_eq_ok.1 made
        rfl

/-- Whatever is done with the store, all balances are amounts if the accounts are opened with
amounts. -/
theorem Bare.inAmounts_of_fresh (moment : Moment) {deeds : List Deed}
    (fits : ∀ c, .call c ∈ deeds → c.Fits) :
    ((fresh moment).doAll deeds).Holds Ledger.InAmounts := by
  have start : (fresh moment).Holds Ledger.InAmounts := ⟨List.forall_mem_nil _, nofun⟩
  exact start.doAll deeds fun now _ c made amounts => amounts.onLedger now (fits c made)

end Memory

/-- Deeds on a store in memory, among them any calls with amounts, lead to ledgers whose totals are
exact, as far as the records can be counted.  A client who is alone with the store is told those of
the committed ledger.  Once there is a crowd at work on it, amid faults and in any order, transfers
leave the sums of the balances as they are, and accounts that are opened add to those of their own
currencies. -/
theorem totals_exact {ν : Type} (moment : Moment) (deeds : List Memory.Deed)
    (fits : ∀ c, .call c ∈ deeds → c.Fits) :
    let bare := (Memory.Bare.fresh moment).doAll deeds
    (∀ l, l = bare.committed ∨ l ∈ bare.staged → l.Countable → Memory.Totalled l) ∧
      (∀ (c : Coordinator) (ctx : Context) (moments : Nat → Moment) (world : World Memory.State),
        world.data.Faultless → world.data.committed = bare.committed →
        (∀ n, ctx.check (moments n) = .ok ()) →
        (∀ d, c.timeout = some d → ∀ n m, (moments n).now < (moments m).now + d.nanos) →
        (Memory.store.runAmid (fun n w => { w with moment := moments n })
          (c.status Memory.store.name ctx : Operation ν Status).run world).value =
            .ok ⟨Memory.store.name, bare.committed.totals⟩) ∧
      ∀ (clients : Nat → Procedure ν (Except Error Reply))
        (world : World (Faults.State Memory.State)) (moves : List Crowd.Move),
        keeping.committed world.data = bare.committed →
        (Crowd.play clients world moves).Accounted clients bare.committed := by
  intro bare
  have amounts := Memory.Bare.inAmounts_of_fresh moment fits
  have sound := (Memory.Bare.sound_of_fresh moment deeds).1
  refine ⟨?_, ?_, ?_⟩
  · rintro l (rfl | staged) countable
    · exact Memory.totalled countable amounts.shared
    · exact Memory.totalled countable (amounts.private_copy l staged)
  · intro c ctx moments world faultless committed allowed early
    rw [← committed]
    exact Memory.answer_alone c ctx moments world faultless allowed early fun _ => rfl
  · intro clients world moves committed
    have consistent := Crowd.consistent_play clients world moves
    rw [committed] at consistent
    refine consistent.accounted (Crowd.holds_play ?_ clients world ?_ moves)
    · exact fun now l c constrained => constrained.onLedger now c
    · exact committed ▸ sound.shared

/-- Ann and Bob are as rich as one can be, or nearly, and Cyd has seven euros. -/
def fortunes : List Memory.Deed :=
  [.begin, .call (.createAccount "ann" .usd Amount.greatest),
    .call (.createAccount "bob" .usd (Amount.greatest - 1)),
    .call (.createAccount "cyd" .eur 700), .commit]

/-- One client has Ann give a cent to Bob, and the others open an account for Dan. -/
def fortuneSeekers : Nat → Procedure Int (Except Error Reply)
  | 0 => ((.transfer ⟨1, 2, 1⟩ [(·.transfer.id)] : Ask Int).serve ⟨.standard, none, fun _ => 0⟩
    "memory" (.background ⟨0⟩)).run
  | _ => ((.createAccount ⟨"dan", .cad, 500⟩ (by decide) : Ask Int).serve
    ⟨.standard, none, fun _ => 0⟩ "memory" (.background ⟨1⟩)).run

/-- There are more dollars than an amount can be.  Dan gets his account after those of Ann and Bob
were looked at and before the transfer is booked. -/
theorem totals_exact_fortunes :
    let bare := (Memory.Bare.fresh ⟨0, []⟩).doAll fortunes
    let told := Memory.store.runAmid (fun n w => { w with moment := ⟨min n 40, []⟩ })
      ((⟨.standard, some (.ofMillis 1000), fun _ => 7⟩ : Coordinator).status Memory.store.name
        (.background ⟨0⟩) : Operation Int Status).run bare.world
    let crowd := Crowd.play fortuneSeekers ⟨⟨0, []⟩, .ofInner bare.world.data⟩
      (.replicate 6 (.act 0) ++ .replicate 12 (.act 1) ++ .replicate 20 (.act 0))
    Memory.Totalled bare.committed ∧
      told.value = .ok ⟨"memory", 3, 0, 0, [(.eur, 700), (.usd, 2 * Amount.greatest - 1)]⟩ ∧
      crowd.Accounted fortuneSeekers bare.committed ∧
      crowd.commits.map (·.1) = [0, 1, 0] ∧
      crowd.committed.totals =
        ⟨4, 2, 1, [(.cad, 500), (.eur, 700), (.usd, 2 * Amount.greatest - 1)]⟩ := by
  intro bare told crowd
  have fits : ∀ c, .call c ∈ fortunes → c.Fits := by
    intro c mem
    simp only [fortunes, List.mem_cons, Memory.Deed.call.injEq, reduceCtorEq, List.not_mem_nil,
      or_false, false_or] at mem
    rcases mem with rfl | rfl | rfl <;> exact ⟨by decide, by decide⟩
  obtain ⟨exact, reported, accounted⟩ := totals_exact (ν := Int) ⟨0, []⟩ fortunes fits
  have countable : bare.committed.Countable :=
    ⟨by decide +kernel, by decide +kernel, by decide +kernel⟩
  have report := reported ⟨.standard, some (.ofMillis 1000), fun _ => 7⟩ (.background ⟨0⟩)
    (fun n => ⟨min n 40, []⟩) bare.world ⟨rfl, rfl, rfl⟩ rfl (fun _ => rfl) Memory.early_of_stopped
  refine ⟨exact _ (.inl rfl) countable, report.trans ?_, accounted _ _ _ rfl, ?_, ?_⟩
  all_goals decide +kernel

end DoubleEntry
