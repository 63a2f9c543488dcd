import DoubleEntry.Proofs.Traffic.Progress
import DoubleEntry.Proofs.Traffic.Served
import DoubleEntry.Proofs.Traffic.Shifts
import DoubleEntry.Proofs.Traffic.Untroubled

/-!
# Draining an account

Clients take the same amount out of one account, many at a time, while nothing fails.  Each looks at
the account before it takes anything, so that most of them know a balance that others have used up
since.

* `Order.Drains` — an order to take the amount, by someone who may.
* `Ebbs` — the balance of an account has not gone up, and no other has gone down.  Among such orders
  this holds of any stage and the end (`ebbs_of_stage`).
* `play_drain` — **the account is drained exactly**: as many orders are granted as the balance
  allows, and not one less.
-/

namespace DoubleEntry

open Program Store Ledger

/-! ## Orders that take from an account -/

namespace Order

variable {ν : Type} {o : Order ν} {l : Ledger} {a : Account} {amount id : Int}

/-- The account that an order is to bring money to. -/
def target? (o : Order ν) : Option Int :=
  match o.wish with
  | .transfer r _ => some r.destination
  | .account .. => none

/-- The order is to take an amount from an account to another one in the same currency, and who asks
for it may do so. -/
structure Drains (l : Ledger) (a : Account) (amount : Int) (o : Order ν) : Prop where
  takes : ∃ d inform, o.wish = .transfer ⟨a.id, d.id, amount⟩ inform ∧ l.account? d.id = some d ∧
    d.id ≠ a.id ∧ d.currency = a.currency
  allowed : ∀ p ∈ o.context.principal, p.username = a.owner

theorem Drains.isTransfer (drains : o.Drains l a amount) : o.isTransfer := by
  obtain ⟨d, inform, wish, -⟩ := drains.takes
  rw [Order.isTransfer, wish]

/-- What such an order does to a balance. -/
theorem Drains.addedTo_shifts (drains : o.Drains l a amount) (id : Int) :
    addedTo id o.shifts =
      if id = a.id then -amount else if o.target? = some id then amount else 0 := by
  obtain ⟨d, inform, wish, -, apart, -⟩ := drains.takes
  rw [shifts_of_wish wish, Ledger.addedTo_shifts, target?, wish]
  by_cases source : id = a.id
  · subst source
    simp [apart]
  · simp [source, Ne.symm source]

/-- What such orders do to the account that they take from. -/
theorem addedTo_source {os : List (Order ν)} (drains : ∀ o ∈ os, o.Drains l a amount) :
    addedTo a.id (os.flatMap shifts) = -(amount * os.length) := by
  induction os with
  | nil => simp [addedTo]
  | cons o rest ih =>
    obtain ⟨first, later⟩ := List.forall_mem_cons.1 drains
    rw [List.flatMap_cons, addedTo_append, ih later, first.addedTo_shifts, if_pos rfl,
      List.length_cons, Int.natCast_add, Int.mul_add]
    omega

/-- What such orders do to another account. -/
theorem addedTo_other {os : List (Order ν)} (drains : ∀ o ∈ os, o.Drains l a amount)
    (other : id ≠ a.id) :
    addedTo id (os.flatMap shifts) = amount * os.countP fun o => o.target? = some id := by
  induction os with
  | nil => simp [addedTo]
  | cons o rest ih =>
    obtain ⟨first, later⟩ := List.forall_mem_cons.1 drains
    rw [List.flatMap_cons, addedTo_append, ih later, first.addedTo_shifts, if_neg other,
      List.countP_cons, Int.natCast_add, Int.mul_add]
    by_cases target : o.target? = some id
    · simp [target, Int.add_comm]
    · simp [target]

end Order

namespace Traffic

variable {ν : Type} {t : Traffic ν} {l l' l'' : Ledger} {a : Account} {amount id : Int}
  {log : List Commit} {world : World (Faults.State Memory.State)} {moves : List (Move ν)}

/-! ## Who was successful -/

/-- The orders that were successful. -/
def granted (t : Traffic ν) : List (Order ν) :=
  (t.visits.filter (·.served?.isSome)).map (·.order)

theorem orders_of_served (visits : List (Visit ν)) :
    (visits.filterMap Visit.served?).map (·.1) =
      (visits.filter (·.served?.isSome)).map (·.order) := by
  induction visits with
  | nil => rfl
  | cons v rest ih =>
    cases served : v.served? with
    | none => simp [served, ih]
    | some e =>
      have same : e.1 = v.order := by
        unfold Visit.served? at served
        split at served
        · cases served
          rfl
        · cases served
      simp [served, ih, same]

/-- An order that was not successful was issued besides those that were. -/
theorem countP_granted_lt {v : Visit ν} (mem : v ∈ t.visits) (unserved : v.served? = none)
    {p : Order ν → Bool} (such : p v.order) :
    t.granted.countP p < (t.visits.map (·.order)).countP p := by
  have fewer (visits : List (Visit ν)) :
      ((visits.filter (·.served?.isSome)).map (·.order)).countP p ≤
        (visits.map (·.order)).countP p :=
    (List.filter_sublist.map _).countP_le
  obtain ⟨before, after, same⟩ := List.append_of_mem mem
  have earlier := fewer before
  have later := fewer after
  simp only [granted, same, List.filter_append, List.filter_cons, unserved, Option.isSome_none,
    Bool.false_eq_true, if_false, List.map_append, List.countP_append, List.map_cons,
    List.countP_cons, such, if_true]
  omega

/-! ## Less and less -/

/-- The balance of an account has not gone up, and no other has gone down. -/
def Ebbs (id : Int) (l l' : Ledger) : Prop :=
  ∀ other a, l.account? other = some a → ∃ b, l'.account? other = some b ∧
    if other = id then b.balance ≤ a.balance else a.balance ≤ b.balance

theorem Ebbs.refl (id : Int) (l : Ledger) : Ebbs id l l := fun other a found =>
  ⟨a, found, by split <;> exact Int.le_refl _⟩

theorem Ebbs.trans (first : Ebbs id l l') (later : Ebbs id l' l'') : Ebbs id l l'' := by
  intro other a found
  obtain ⟨b, found', change⟩ := first other a found
  obtain ⟨c, found'', change'⟩ := later other b found'
  refine ⟨c, found'', ?_⟩
  split at change
  · rw [if_pos ‹_›] at change' ⊢
    exact Int.le_trans change' change
  · rw [if_neg ‹_›] at change' ⊢
    exact Int.le_trans change change'

theorem ebbs_of_serves {before : Ledger} {o : Order ν} {receipt : Receipt}
    (drains : o.Drains before a amount) (positive : 0 < amount)
    (serves : Order.Serves l o receipt l') : Ebbs a.id l l' := by
  intro other b found
  obtain ⟨r, result, times, shifts, moved⟩ := transfer_of_serves drains.isTransfer serves
  refine ⟨_, by rw [account?_transfer moved, found]; rfl, ?_⟩
  have shifted := drains.addedTo_shifts other
  rw [shifts] at shifted
  show if other = a.id then b.balance + addedTo other r.shifts ≤ b.balance
    else b.balance ≤ b.balance + addedTo other r.shifts
  rw [shifted]
  split
  · omega
  · split <;> omega

/-- Each commit of quiet traffic changed nothing, or served the order of a visit. -/
theorem commit_of_quiet (consistent : Consistent l t log) (quiet : t.Quiet) {c : Commit}
    (mem : c ∈ log) :
    c.2.2 = c.2.1 ∨ ∃ v ∈ t.visits, ∃ receipt, Order.Serves c.2.1 v.order receipt c.2.2 := by
  obtain ⟨n, b, made⟩ := c
  have known : n < t.visits.length :=
    consistent.committers n (consistent.commits ▸ List.mem_map_of_mem mem)
  have visit : t.visits[n] ∈ t.visits := List.getElem_mem known
  obtain ⟨outcome, returned⟩ := Option.isSome_iff_exists.1 (quiet _ visit)
  have settled := settled_of_onItsWay (consistent.visits n _ (List.getElem?_eq_getElem known))
    returned
  have published := mem_publishedBy.2 mem
  rcases outcome with e | receipt
  · exact .inl (settled.1 _ published)
  · obtain ⟨idle, b', made', same, still, serves, -⟩ := settled
    rw [same, List.mem_append, List.mem_singleton] at published
    rcases published with before | last
    · exact .inl (still _ before)
    · cases last
      exact .inr ⟨_, visit, receipt, serves⟩

/-! ## Many clients at one account -/

/-- Clients take an amount from an account while nothing fails.  There is room for all of it where
they want to bring it. -/
structure Drain (world : World (Faults.State Memory.State)) (moves : List (Move ν)) (a : Account)
    (amount : Int) : Prop where
  schema : (keeping.committed world.data).WellFormed
  source : (keeping.committed world.data).account? a.id = some a
  positive : 0 < amount
  drains : ∀ o ∈ issued moves, o.Drains (keeping.committed world.data) a amount
  room : ∀ d ∈ (keeping.committed world.data).accounts,
    d.balance + amount * ((issued moves).countP fun o => o.target? = some d.id) ≤ Amount.greatest
  untroubled : ∀ t ∈ (start world : Traffic ν).stages moves, Untroubled t.world
  unhurried : ∀ o ∈ issued moves, Unhurried (momentsOf ((start world).stages moves)) o

namespace Drain

variable (drain : Drain world moves a amount)

include drain

theorem drains_of_visit {v : Visit ν} (mem : v ∈ (play world moves).visits) :
    v.order.Drains (keeping.committed world.data) a amount := by
  refine drain.drains _ ?_
  rw [← orders_play world moves]
  exact List.mem_map_of_mem mem

theorem drains_of_granted {o : Order ν} (mem : o ∈ (play world moves).granted) :
    o.Drains (keeping.committed world.data) a amount := by
  obtain ⟨v, visit, rfl⟩ := List.mem_map.1 mem
  exact drain.drains_of_visit (List.mem_of_mem_filter visit)

/-- From any stage to the end, the account only loses, and the others only gain. -/
theorem ebbs_of_stage (quiet : (play world moves).Quiet)
    (mem : t ∈ (start world : Traffic ν).stages moves) :
    Ebbs a.id t.committed (play world moves).committed := by
  obtain ⟨before, after, same, rfl⟩ := split_of_mem_stages mem
  obtain ⟨log, consistent⟩ := consistent_moves before (consistent_start world)
  obtain ⟨more, consistent'⟩ := consistent_moves after consistent
  rw [← List.foldl_append, ← same] at consistent'
  obtain ⟨between, first, later⟩ := chain_append.1 consistent'.chain
  obtain rfl := first.unique consistent.chain
  refine later.relates (Ebbs.refl a.id) Ebbs.trans fun c mem => ?_
  obtain still | ⟨v, visit, receipt, serves⟩ :=
    commit_of_quiet consistent' quiet (List.mem_append_right log mem)
  · rw [still]
    exact Ebbs.refl _ _
  · exact ebbs_of_serves (drain.drains_of_visit visit) drain.positive serves

/-- In the end every account has what it had and what the orders that were granted have shifted. -/
theorem account?_in_the_end (quiet : (play world moves).Quiet) (id : Int) :
    (play world moves).committed.account? id = ((keeping.committed world.data).account? id).map
      (·.plus (addedTo id ((play world moves).granted.flatMap Order.shifts))) ∧
    (play world moves).committed.WellFormed := by
  obtain ⟨log, consistent⟩ := consistent_moves moves (consistent_start world)
  change Consistent _ (play world moves) _ at consistent
  obtain ⟨perm, way, -⟩ := served_of_consistent consistent quiet
  have orders : ((play world moves).served.map (·.1)).Perm (play world moves).granted := by
    rw [granted, ← orders_of_served]
    exact perm.map _
  have transfers (e : (_ : Order ν) × Receipt) (mem : e ∈ (play world moves).served) :
      e.1.isTransfer :=
    (drain.drains_of_granted (orders.mem_iff.1 (List.mem_map_of_mem mem))).isTransfer
  refine ⟨?_, wellFormed_of_along drain.schema way⟩
  rw [account?_of_along transfers way, shiftedBy, ← List.flatMap_map]
  rw [addedTo_perm (orders.flatMap_right Order.shifts)]

/-- An order that was not granted found too little on the account. -/
theorem refused (quiet : (play world moves).Quiet) {v : Visit ν}
    (mem : v ∈ (play world moves).visits) (unserved : v.served? = none) :
    ∃ balance left, v.outcome? = some (.error (.insufficientFunds a.id balance amount)) ∧
      balance < amount ∧ (play world moves).committed.account? a.id = some left ∧
      left.balance ≤ balance := by
  obtain ⟨outcome, returned⟩ := Option.isSome_iff_exists.1 (quiet v mem)
  have drains := drain.drains_of_visit mem
  obtain ⟨d, inform, wish, found, apart, currency⟩ := drains.takes
  obtain ⟨t, stage, times, rfl⟩ := outcome_of_untroubled drain.schema drain.untroubled mem wish
    (drain.unhurried _ (orders_play world moves ▸ List.mem_map_of_mem mem)) returned
  obtain ⟨log, consistent⟩ := consistent_of_stage stage
  obtain ⟨source, foundSource, owner, currency'⟩ := consistent.grown _ _ drain.source
  obtain ⟨destination, foundDestination, -, currency''⟩ := consistent.grown _ _ found
  obtain ⟨left, foundLeft, less⟩ := drain.ebbs_of_stage quiet stage _ _ foundSource
  obtain ⟨grown, foundGrown, more⟩ := drain.ebbs_of_stage quiet stage _ _ foundDestination
  rw [if_pos rfl] at less
  rw [if_neg apart] at more
  have sound : TransferRequest.check ⟨a.id, d.id, amount⟩ = .ok () :=
    check_eq_ok.2 ⟨drain.positive, apart.symm⟩
  have both : t.committed.parties ⟨a.id, d.id, amount⟩ = .ok (source, destination) :=
    parties_eq_ok.2 ⟨foundSource, foundDestination⟩
  have allowed : (v.order.context.principal.any fun p => p.username ≠ source.owner) = false := by
    rw [owner, Option.any_eq_false]
    simpa using drains.allowed
  have decided := transfer_of_balances times sound both
    (currency'.trans (currency.symm.trans currency''.symm)) allowed
  -- There is room for this order besides those that were granted.
  have room : destination.balance + amount ≤ Amount.greatest := by
    obtain ⟨ends, -⟩ := drain.account?_in_the_end quiet d.id
    rw [found, foundGrown, Option.map_some, Option.some_inj,
      Order.addedTo_other (fun o => drain.drains_of_granted) apart] at ends
    subst ends
    have fits := drain.room d (mem_of_account? found).1
    rw [← orders_play world moves] at fits
    have one := countP_granted_lt (p := fun o => o.target? = some d.id) mem unserved
      (by simp [Order.target?, wish])
    have scaled := Int.mul_le_mul_of_nonneg_left (Int.ofNat_le.2 one) (Int.le_of_lt drain.positive)
    rw [Nat.succ_eq_add_one, Int.natCast_add, Int.mul_add] at scaled
    simp only [Account.plus] at more
    omega
  rw [decided] at returned
  by_cases short : source.balance < amount
  · rw [if_pos short] at returned
    exact ⟨source.balance, left, returned, short, foundLeft, less⟩
  · rw [if_neg short, if_neg (Int.not_lt.2 room)] at returned
    rw [Visit.served?, returned] at unserved
    cases unserved

/-- As many orders are granted as the balance allows. -/
theorem length_granted (quiet : (play world moves).Quiet) :
    ((play world moves).granted.length : Int) =
      min ((issued moves).length : Int) (a.balance / amount) := by
  have positive := drain.positive
  obtain ⟨ends, schema⟩ := drain.account?_in_the_end quiet a.id
  rw [drain.source, Option.map_some,
    Order.addedTo_source fun o => drain.drains_of_granted] at ends
  have low := (schema.balances _ (mem_of_account? ends).1).1
  simp only [Account.plus] at low
  have all : (play world moves).visits.length = (issued moves).length := by
    rw [← orders_play world moves, List.length_map]
  have few : (play world moves).granted.length ≤ (play world moves).visits.length := by
    rw [granted, List.length_map]
    exact List.length_filter_le ..
  have covered : ((play world moves).granted.length : Int) ≤ a.balance / amount := by
    refine (Int.le_ediv_iff_mul_le positive).2 ?_
    rw [Int.mul_comm]
    omega
  by_cases every : (play world moves).granted.length = (play world moves).visits.length
  · omega
  · obtain ⟨v, mem, unserved⟩ : ∃ v ∈ (play world moves).visits, v.served? = none := by
      by_contra none
      refine every ?_
      rw [granted, List.length_map, List.filter_eq_self.2 fun v mem => ?_]
      exact Option.ne_none_iff_isSome.1 fun unserved => none ⟨v, mem, unserved⟩
    obtain ⟨balance, left, -, short, foundLeft, less⟩ := drain.refused quiet mem unserved
    cases ends.symm.trans foundLeft
    simp only [Account.plus] at less
    have used : a.balance / amount < (play world moves).granted.length + 1 := by
      refine (Int.ediv_lt_iff_lt_mul positive).2 ?_
      rw [Int.add_mul, Int.mul_comm _ amount]
      omega
    omega

end Drain

/-- **The account is drained exactly.**  The visits can always be brought to an end, and when they
are, as many orders have been granted as there were or as the balance allows, whichever is less; all
others found less than the amount on the account, and what is left on it is what was not taken. -/
theorem play_drain (drain : Drain world moves a amount) :
    (∃ acts : List Nat, (play world (moves ++ acts.map .act)).Quiet) ∧
      ((play world moves).Quiet →
        let t := play world moves
        let granted : Int := min (issued moves).length (a.balance / amount)
        t.visits.map (·.order) = issued moves ∧
          ((t.visits.countP fun v => v.served?.isSome : Nat) : Int) = granted ∧
          (∀ v ∈ t.visits, v.served? = none → ∃ balance, balance < amount ∧
            v.outcome? = some (.error (.insufficientFunds a.id balance amount))) ∧
          t.committed.account? a.id =
            some { a with balance := a.balance - amount * granted }) := by
  refine ⟨quiet_of_acts world moves, ?_⟩
  intro quiet t granted
  have count := drain.length_granted quiet
  refine ⟨orders_play world moves, ?_, ?_, ?_⟩
  · rw [List.countP_eq_length_filter, ← List.length_map (·.order)]
    exact count
  · intro v mem unserved
    obtain ⟨balance, left, failed, short, -⟩ := drain.refused quiet mem unserved
    exact ⟨balance, short, failed⟩
  · obtain ⟨ends, -⟩ := drain.account?_in_the_end quiet a.id
    rw [drain.source, Option.map_some,
      Order.addedTo_source fun o => drain.drains_of_granted, count] at ends
    exact ends

/-- Clients may all come at once, before any of them is attended to. -/
theorem issued_at_once (orders : List (Order ν)) (acts : List Nat) :
    issued (orders.map .issue ++ acts.map .act) = orders := by
  simp [issued, List.filterMap_append, List.filterMap_map, Function.comp_def, Move.order?]

/-- Dora has a dollar, Emil and Fay have nothing yet. -/
def till : Ledger :=
  { Ledger.empty with
    accounts := [⟨1, "dora", 100, .usd, .ofNanos 0⟩, ⟨2, "emil", 0, .usd, .ofNanos 0⟩,
      ⟨3, "fay", 0, .usd, .ofNanos 0⟩]
    lastAccount := 3 }

/-- The store before anybody comes. -/
def morning : World (Faults.State Memory.State) :=
  ⟨⟨0, []⟩, .ofInner { Memory.State.empty with committed := till }⟩

/-- Five clients want thirty cents from Dora's account, three of them for Emil and two for Fay. -/
def callers : List (Order Int) :=
  [2, 3, 2, 3, 2].map fun id =>
    ⟨⟨.standard, some (.ofMillis 1000), fun _ => 0⟩, (Context.background ⟨0⟩).actingAs "dora",
      .transfer ⟨1, id, 30⟩ fun result => [result.transfer.id]⟩

/-- They come at once, and are attended to step by step in turn. -/
def rush : List (Move Int) :=
  callers.map .issue ++ ((List.replicate 60 [0, 1, 2, 3, 4]).flatten.map .act)

theorem drain_rush :
    Drain morning rush ⟨1, "dora", 100, .usd, .ofNanos 0⟩ 30 := by
  have calm : ∀ t ∈ (start morning : Traffic Int).stages rush,
      t.world.data.armed = [] ∧ t.world.moment = ⟨0, []⟩ ∧
        t.world.data.inner.commitConflicts = 0 ∧ t.world.data.inner.rollbackFails = false ∧
        t.world.data.inner.transferFails = false := by
    decide +kernel
  have issued : issued rush = callers := issued_at_once ..
  constructor
  case schema =>
    show till.WellFormed
    constructor <;> simp [till, Ledger.empty, Ledger.Numbered, Amount.greatest]
  case source => rfl
  case positive => decide
  case drains =>
    rw [issued]
    intro o mem
    obtain ⟨id, among, rfl⟩ := List.mem_map.1 mem
    refine ⟨?_, fun p acting => ?_⟩
    · have two : ∀ id ∈ ([2, 3, 2, 3, 2] : List Int), id = 2 ∨ id = 3 := by decide
      rcases two id among with rfl | rfl
      · exact ⟨⟨2, "emil", 0, .usd, .ofNanos 0⟩, _, rfl, rfl, by decide, rfl⟩
      · exact ⟨⟨3, "fay", 0, .usd, .ofNanos 0⟩, _, rfl, rfl, by decide, rfl⟩
    · cases acting
      rfl
  case room =>
    rw [issued]
    decide +kernel
  case untroubled =>
    intro t stage
    obtain ⟨unarmed, -, commits, rollbacks, transfers⟩ := calm t stage
    exact ⟨unarmed, commits, rollbacks, transfers⟩
  case unhurried =>
    rw [issued]
    intro o mem
    obtain ⟨id, -, rfl⟩ := List.mem_map.1 mem
    have still (m : Moment) (shown : momentsOf ((start morning : Traffic Int).stages rush) m) :
        m = ⟨0, []⟩ := by
      obtain ⟨t, stage, rfl⟩ := shown
      exact (calm t stage).2.1
    constructor
    · intro m shown
      rw [still m shown]
      rfl
    · intro d limit m m' shown shown'
      rw [still m shown, still m' shown']
      cases limit
      decide

/-- Three of the five orders are granted, although all of them found enough when they looked, and
ten cents are left. -/
theorem play_drain_rush :
    let t : Traffic Int := play morning rush
    t.Quiet ∧ t.commits = [0, 1, 2, 3, 4, 0, 1, 2] ∧
      t.visits.countP (fun v => v.served?.isSome) = 3 ∧
      t.committed.account? 1 = some ⟨1, "dora", 10, .usd, .ofNanos 0⟩ := by
  have drained := (play_drain drain_rush).2
  have facts : let t : Traffic Int := play morning rush
      t.Quiet ∧ t.commits = [0, 1, 2, 3, 4, 0, 1, 2] := by
    decide +kernel
  have five : issued rush = callers := issued_at_once ..
  rw [five] at drained
  -- From here on, nobody should try to compute the schedule.
  generalize (play morning rush : Traffic Int) = t at drained facts ⊢
  obtain ⟨-, count, -, left⟩ := drained facts.1
  exact ⟨facts.1, facts.2, Int.ofNat.inj count, left⟩

end Traffic
end DoubleEntry
