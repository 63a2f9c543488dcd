import DoubleEntry.Proofs.Traffic.Alone
import DoubleEntry.Proofs.Traffic.Shifts
import DoubleEntry.Proofs.Transfer.Apart

/-!
# Transfers in another order

Transfers are called for one after the other, on a store in memory that is not told to fail.  Two of
them that have no account in common do not notice each other: the first leaves the accounts of the
second as they were, and these are all that the second looks at.  Where they do have accounts in
common, one may fail for lack of what the other brings.  But as long as all succeed, each shifts its
amount whatever the balances are, so the sums at the end do not depend on the order:
`TransferCall.order_irrelevant`.
-/

namespace DoubleEntry

open Program Store

/-- A call for a transfer.  Deadlines and the times of new records depend on when its steps are
taken, so it comes with the moments of its steps. -/
structure TransferCall (ν : Type) where
  coordinator : Coordinator
  context : Context
  request : TransferRequest
  inform : TransferResult → List ν
  moments : Nat → Moment

/-! ## Two stores that look the same to a transfer -/

namespace Memory

/-- Two seats at stores that are not told to fail, where the ledgers agree on the accounts of a
transfer. -/
structure SameView {ν : Type} (r : TransferRequest) (seat seat' : Seat State Ledger ν) : Prop where
  faultless : seat.world.data.Faultless
  faultless' : seat'.world.data.Faultless
  committed : r.SameSides seat.world.data.committed seat'.world.data.committed
  staged : Option.Rel r.SameSides seat.transaction seat'.transaction

variable {ν : Type} {r : TransferRequest} {seat seat' : Seat State Ledger ν}

/-- Whatever has happened before, and whenever. -/
theorem SameView.at (view : SameView r seat seat') (moment : Moment) :
    SameView r { seat with world := { seat.world with moment } }
      { seat' with world := { seat'.world with moment } } :=
  ⟨view.faultless, view.faultless', view.committed, view.staged⟩

/-- At the same moment, the steps of the transfer are answered alike. -/
theorem SameView.perform (view : SameView r seat seat')
    (moment : seat'.world.moment = seat.world.moment) {q : Step ν} (kind : r.likeness.InSteps q) :
    r.likeness.stepped q (store.perform q seat).1 (store.perform q seat').1 ∧
      SameView r (store.perform q seat).2 (store.perform q seat').2 := by
  obtain ⟨⟨now, data⟩, transaction, sent⟩ := seat
  obtain ⟨⟨_, data'⟩, transaction', sent'⟩ := seat'
  obtain ⟨faultless, faultless', committed, staged⟩ := view
  cases moment
  cases q with
  | now | check ctx | wait d | cancel token | notify notice =>
    exact ⟨rfl, faultless, faultless', committed, staged⟩
  | begin ctx =>
    simp only [Store.perform]
    cases ctx.check now with
    | error e => exact ⟨rfl, faultless, faultless', committed, staged⟩
    | ok u =>
      cases staged <;>
        exact ⟨rfl, ⟨faultless.1, faultless.2, faultless.3⟩,
          ⟨faultless'.1, faultless'.2, faultless'.3⟩, committed, .some committed⟩
  | call ctx c =>
    simp only [Store.perform]
    cases ctx.check now with
    | error e => exact ⟨r.likeness_error c e, faultless, faultless', committed, staged⟩
    | ok u =>
      cases staged with
      | none => exact ⟨r.likeness_error c _, faultless, faultless', committed, .none⟩
      | some same =>
        simp only [store, call_faultless (w := ⟨now, data⟩) faultless,
          call_faultless (w := ⟨now, data'⟩) faultless']
        obtain ⟨alike, same⟩ := same.onLedger kind (.ofNanos now.now)
        obtain ⟨noted, kept⟩ := faultless.note c
        obtain ⟨noted', kept'⟩ := faultless'.note c
        exact ⟨alike, noted, noted', by rwa [kept, kept'], .some same⟩
  | commit =>
    cases staged with
    | none => exact ⟨rfl, faultless, faultless', committed, .none⟩
    | some same =>
      simp only [Store.perform, store, commit_faultless (w := ⟨now, data⟩) faultless,
        commit_faultless (w := ⟨now, data'⟩) faultless']
      exact ⟨rfl, ⟨faultless.1, faultless.2, faultless.3⟩,
        ⟨faultless'.1, faultless'.2, faultless'.3⟩, same, .none⟩
  | rollback =>
    cases staged with
    | none => exact ⟨rfl, faultless, faultless', committed, .none⟩
    | some same =>
      simp only [Store.perform, store, rollback_faultless (w := ⟨now, data⟩) faultless,
        rollback_faultless (w := ⟨now, data'⟩) faultless']
      exact ⟨rfl, faultless, faultless', committed, .none⟩

end Memory

/-! ## One call -/

namespace TransferCall

open Ledger

variable {ν : Type} (t u : TransferCall ν) {world world' : World Memory.State}

/-- Make the call on a store in memory. -/
def run (world : World Memory.State) :
    Ending Memory.State Ledger ν (Except Error TransferResult) :=
  Memory.store.runAmid (fun n w => { w with moment := t.moments n })
    (t.coordinator.transfer t.inform t.context t.request).run world

/-- What a call with this outcome has shifted. -/
def shifted : Except Error TransferResult → List (Int × Int)
  | .ok _ => t.request.shifts
  | .error _ => []

/-- The two calls have no account in common. -/
def Apart : Prop := ∀ id, t.request.Names id → ¬ u.request.Names id

variable {t u}

/-- What a call leaves behind: every account has what was shifted, and so have the entries. -/
theorem left_by_run (faultless : world.data.Faultless) (t : TransferCall ν) :
    (t.run world).seat.world.data.Faultless ∧
      (∀ id, (t.run world).seat.world.data.committed.account? id =
        (world.data.committed.account? id).map
          (·.plus (addedTo id (t.shifted (t.run world).value)))) ∧
      (t.run world).seat.world.data.committed.entryRecords =
        world.data.committed.entryRecords ++ t.shifted (t.run world).value := by
  obtain ⟨s', way, mirrors⟩ : ∃ s', Along (Standing.Takes (Memory.alone t.moments))
      ⟨world.data.committed, none, [], []⟩ (t.run world).trace s' ∧
      Memory.Mirrors (t.run world).seat s' := Memory.along_alone _ faultless
  have ran : (t.coordinator.transfer t.inform t.context t.request).run.Runs (t.run world).trace
      (t.run world).value := runs_runAmid Memory.store _ _ world
  refine ⟨mirrors.faultless, ?_⟩
  rw [← mirrors.seen]
  obtain ⟨e, failed, same⟩ | ⟨result, times, done, moved⟩ := Traffic.left_by_transfer ran way
  · rw [failed, same]
    exact ⟨fun id => (map_plus_zero _).symm, (List.append_nil _).symm⟩
  · rw [done]
    exact ⟨account?_transfer moved, entryRecords_transfer moved⟩

/-- A call comes to the same on ledgers that agree on its accounts. -/
theorem alike_of_sameSides (faultless : world.data.Faultless) (faultless' : world'.data.Faultless)
    (same : t.request.SameSides world.data.committed world'.data.committed) :
    Outcome.Alike (fun s s' => s'.unnumbered = s.unnumbered) (t.run world).value
      (t.run world').value := by
  let handler := Memory.store.performAmid (ν := ν) fun n w => { w with moment := t.moments n }
  let Related (s s' : Seat Memory.State Ledger ν × Nat) : Prop :=
    Memory.SameView t.request s.1 s'.1 ∧ s'.2 = s.2
  have answers (q : Step ν) (s s' : Seat Memory.State Ledger ν × Nat)
      (kind : t.request.likeness.InSteps q) (related : Related s s') :
      t.request.likeness.stepped q (handler q s).1 (handler q s').1 ∧
        Related (handler q s).2 (handler q s').2 := by
    obtain ⟨seat, n⟩ := s
    obtain ⟨seat', m⟩ := s'
    obtain ⟨view, rfl⟩ := related
    obtain ⟨alike, kept⟩ := (view.at (t.moments m)).perform rfl kind
    exact ⟨alike, kept, rfl⟩
  obtain ⟨_, _, s, s', ⟨notices, notices', o, o', rfl, rfl, -, alike⟩, -, ends, ends'⟩ :=
    (t.coordinator.beside_transfer t.inform t.context t.request).exec answers
      (s := (outside world, 0)) (t := (outside world', 0))
      ⟨⟨faultless, faultless', same, .none⟩, rfl⟩
  show Outcome.Alike _ (exec handler _ _).1 (exec handler _ _).1
  rw [ends, ends', exec_bind, exec_bind]
  exact alike

/-- A call leaves the accounts of another one as they were, if they have none in common. -/
theorem sameSides_of_apart (faultless : world.data.Faultless) (apart : t.Apart u) :
    u.request.SameSides world.data.committed (t.run world).seat.world.data.committed := by
  intro id named
  have untouched : addedTo id (t.shifted (t.run world).value) = 0 := by
    refine addedTo_eq_zero fun record mem same => ?_
    have other : t.request.Names id := by
      cases value : (t.run world).value with
      | error e =>
        rw [value] at mem
        cases mem
      | ok result =>
        rw [value, shifted, TransferRequest.shifts] at mem
        rcases List.mem_pair.1 mem with rfl | rfl
        · exact .inl same.symm
        · exact .inr same.symm
    exact apart id other named
  obtain ⟨-, accounts, -⟩ := left_by_run faultless t
  rw [accounts id, untouched, map_plus_zero]

theorem Apart.symm (apart : t.Apart u) : u.Apart t :=
  fun id named named' => apart id named' named

/-- The outcomes differ at most in the ids of new records. -/
def SameButIds (o o' : Except Error TransferResult) : Prop :=
  o'.map (·.unnumbered) = o.map (·.unnumbered)

theorem sameButIds_of_alike {o o' : Except Error TransferResult}
    (alike : Outcome.Alike (fun s s' => s'.unnumbered = s.unnumbered) o o') : SameButIds o o' := by
  cases alike with
  | ok same => exact congrArg Except.ok same
  | error e => rfl

theorem shifted_of_alike {R : TransferResult → TransferResult → Prop}
    {o o' : Except Error TransferResult} (alike : Outcome.Alike R o o') :
    t.shifted o' = t.shifted o := by
  cases alike <;> rfl

theorem shifted_of_isOk {o : Except Error TransferResult} (done : o.isOk = true) :
    t.shifted o = t.request.shifts := by
  cases o with
  | ok result => rfl
  | error e => cases done

/-! ## Many calls -/

/-- Make calls one after the other: their outcomes, and the world afterwards. -/
def runAll (world : World Memory.State) :
    List (TransferCall ν) → List (Except Error TransferResult) × World Memory.State
  | [] => ([], world)
  | t :: rest =>
    let (outcomes, last) := runAll (t.run world).seat.world rest
    ((t.run world).value :: outcomes, last)

/-- Whether all calls succeed that are made one after the other. -/
def AllSucceed (world : World Memory.State) (calls : List (TransferCall ν)) : Prop :=
  ∀ o ∈ (runAll world calls).1, o.isOk = true

/-- What calls shift that all succeed. -/
theorem left_by_runAll {calls : List (TransferCall ν)} (faultless : world.data.Faultless)
    (succeed : AllSucceed world calls) :
    (∀ id, (runAll world calls).2.data.committed.account? id =
        (world.data.committed.account? id).map
          (·.plus (addedTo id ((calls.map (·.request)).flatMap (·.shifts))))) ∧
      (runAll world calls).2.data.committed.entryRecords =
        world.data.committed.entryRecords ++ (calls.map (·.request)).flatMap (·.shifts) := by
  induction calls generalizing world with
  | nil => exact ⟨fun id => (map_plus_zero _).symm, (List.append_nil _).symm⟩
  | cons t rest ih =>
    obtain ⟨done, later⟩ := List.forall_mem_cons.1 succeed
    obtain ⟨faultless', accounts, records⟩ := left_by_run faultless t
    obtain ⟨lastAccounts, lastRecords⟩ := ih faultless' later
    rw [shifted_of_isOk done] at accounts records
    refine ⟨fun id => ?_, ?_⟩
    · refine (lastAccounts id).trans ?_
      rw [accounts, map_plus_plus, ← addedTo_append]
      rfl
    · refine lastRecords.trans ?_
      rw [records, List.append_assoc]
      rfl

end TransferCall

/-- The amounts of the entries of an account. -/
theorem Ledger.amounts_entriesOf (l : Ledger) (id : Int) :
    (l.entriesOf id).map (·.amount) = (l.entryRecords.filter (·.1 == id)).map (·.2) := by
  unfold entriesOf entryRecords
  rw [List.filter_map, List.map_map]
  rfl

namespace TransferCall

open Ledger

variable {ν : Type} {world : World Memory.State}

/-- **The order of transfers makes no difference.**  Two calls without a common account come to the
same in either order, errors included, and leave the same accounts behind.  Any number of calls,
made in any order in which all succeed, leave every account with what it had and all that was
shifted, so with the same, and with as many entries of each amount. -/
theorem order_irrelevant (faultless : world.data.Faultless) :
    (∀ t u : TransferCall ν, t.Apart u →
      let first := t.run world
      let second := u.run first.seat.world
      let second' := u.run world
      let first' := t.run second'.seat.world
      SameButIds first.value first'.value ∧ SameButIds second.value second'.value ∧
        ∀ id, first'.seat.world.data.committed.account? id =
          second.seat.world.data.committed.account? id) ∧
    ∀ calls calls' : List (TransferCall ν), (calls.map (·.request)).Perm (calls'.map (·.request)) →
      AllSucceed world calls → AllSucceed world calls' →
      let l := (runAll world calls).2.data.committed
      let l' := (runAll world calls').2.data.committed
      ∀ id, l.account? id = (world.data.committed.account? id).map
          (·.plus (addedTo id ((calls.map (·.request)).flatMap (·.shifts)))) ∧
        l'.account? id = l.account? id ∧
        ((l'.entriesOf id).map (·.amount)).Perm ((l.entriesOf id).map (·.amount)) := by
  constructor
  · intro t u apart first second second' first'
    obtain ⟨faultlessT, accountsT, -⟩ := left_by_run faultless t
    obtain ⟨faultlessU, accountsU, -⟩ := left_by_run faultless u
    have outcomes := alike_of_sameSides faultless faultlessU
      (sameSides_of_apart faultless apart.symm)
    have outcomes' := alike_of_sameSides faultless faultlessT (sameSides_of_apart faultless apart)
    refine ⟨sameButIds_of_alike outcomes, ?_, fun id => ?_⟩
    · exact (sameButIds_of_alike outcomes').symm
    · obtain ⟨-, laterU, -⟩ := left_by_run faultlessT u
      obtain ⟨-, laterT, -⟩ := left_by_run faultlessU t
      rw [laterU, laterT, accountsT, accountsU, map_plus_plus, map_plus_plus,
        shifted_of_alike outcomes, shifted_of_alike outcomes', Int.add_comm]
  · intro calls calls' perm succeed succeed' l l' id
    obtain ⟨accounts, records⟩ := left_by_runAll faultless succeed
    obtain ⟨accounts', records'⟩ := left_by_runAll faultless succeed'
    have shifts := perm.flatMap_right (·.shifts)
    refine ⟨accounts id, ?_, ?_⟩
    · rw [accounts', accounts, addedTo_perm shifts]
    · rw [amounts_entriesOf, amounts_entriesOf, records, records']
      exact (((shifts.symm).append_left _).filter _).map _

/-- Four friends with a dollar each. -/
def friends : World Memory.State :=
  ⟨⟨0, []⟩, { Memory.State.empty with
    committed := { Ledger.empty with
      accounts := [⟨1, "gina", 100, .usd, .ofNanos 0⟩, ⟨2, "hugo", 100, .usd, .ofNanos 0⟩,
        ⟨3, "iris", 100, .usd, .ofNanos 0⟩, ⟨4, "jack", 100, .usd, .ofNanos 0⟩]
      lastAccount := 4 } }⟩

/-- One of them calls for a transfer. -/
def calledBy (owner : String) (source destination amount : Int) : TransferCall Int where
  coordinator := ⟨.standard, some (.ofMillis 1000), fun _ => 0⟩
  context := (Context.background ⟨0⟩).actingAs owner
  request := ⟨source, destination, amount⟩
  inform := fun result => [result.transfer.id]
  moments := fun n => ⟨min n 40, []⟩

/-- Three of them pay each other in turn. -/
def roundOfPayments : List (TransferCall Int) :=
  [calledBy "gina" 1 2 70, calledBy "hugo" 2 3 80, calledBy "iris" 3 1 90]

/-- Gina pays Hugo and Iris pays Jack, in either order; the records get other ids.  The round of
payments may also go the other way round. -/
theorem order_irrelevant_friends :
    (let first := (calledBy "gina" 1 2 30).run friends
      let second' := (calledBy "iris" 3 4 60).run friends
      let first' := (calledBy "gina" 1 2 30).run second'.seat.world
      first'.value ≠ first.value ∧ SameButIds first.value first'.value) ∧
    AllSucceed friends roundOfPayments ∧ AllSucceed friends roundOfPayments.reverse ∧
    (runAll friends roundOfPayments.reverse).2.data.committed.account? 1 =
      (runAll friends roundOfPayments).2.data.committed.account? 1 := by
  have faultless : friends.data.Faultless := ⟨rfl, rfl, rfl⟩
  obtain ⟨pairs, lists⟩ := order_irrelevant (ν := Int) faultless
  have apart : (calledBy "gina" 1 2 30).Apart (calledBy "iris" 3 4 60) := by
    rintro id (rfl | rfl) (same | same) <;> exact absurd same (by decide)
  have succeed : AllSucceed friends roundOfPayments := by
    unfold AllSucceed
    decide +kernel
  have succeed' : AllSucceed friends roundOfPayments.reverse := by
    unfold AllSucceed
    decide +kernel
  refine ⟨⟨?_, (pairs _ _ apart).1⟩, succeed, succeed', ?_⟩
  · decide +kernel
  · have perm := (List.reverse_perm roundOfPayments).symm.map (·.request)
    exact (lists _ _ perm succeed succeed' 1).2.1

end TransferCall
end DoubleEntry
