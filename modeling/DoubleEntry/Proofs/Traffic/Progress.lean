import DoubleEntry.Proofs.Traffic.Invariant

/-!
# Nobody waits for ever

A visit that holds the transaction never has to wait, it takes only so many steps, and it gives the
transaction back before it is over.  So the visits can be brought to their ends one after another,
the holder first: `quiet_of_acts`.
-/

namespace DoubleEntry

open Program Store

/-- The order that a client comes with. -/
def Move.order? {ν : Type} : Move ν → Option (Order ν)
  | .issue o => some o
  | .act _ => none
  | .stir .. => none

/-- The steps tell whether a client has a transaction open. -/
theorem Standing.opened_of_bracketed {ν : Type} {amid : Surroundings} {s s' : Standing ν}
    {opened left : Bool} {trace : Procedure.Trace ν} (way : Along (Takes amid) s trace s')
    (bracketed : Bracketed opened trace left) (start : s.opened.isSome = opened) :
    s'.opened.isSome = left := by
  induction trace generalizing s opened with
  | nil =>
    cases way
    exact start.trans bracketed
  | cons e rest ih =>
    obtain ⟨q, answer⟩ := e
    obtain ⟨next, taken, way⟩ := way
    cases q with
    | now | check ctx =>
      obtain ⟨-, rfl⟩ := taken
      exact ih way bracketed start
    | wait d | cancel token | notify notice =>
      cases taken
      exact ih way bracketed start
    | begin ctx =>
      rcases answer with e | ⟨⟩
      · obtain ⟨rfl, bracketed⟩ := bracketed
        obtain ⟨-, rfl | rfl⟩ := taken
        · exact ih way bracketed start
        · exact ih way bracketed rfl
      · obtain ⟨b, -, rfl⟩ := taken
        exact ih way bracketed.2 rfl
    | call ctx c =>
      obtain ⟨rfl, bracketed⟩ := bracketed
      obtain ⟨⟨b, l⟩, same⟩ := Option.isSome_iff_exists.1 start
      simp only [Takes, same] at taken
      obtain ⟨l', -, rfl⟩ := taken
      exact ih way bracketed rfl
    | commit =>
      rcases answer with e | ⟨⟩
      · obtain ⟨-, rfl⟩ := taken
        exact ih way bracketed.2 rfl
      · obtain ⟨b, l, -, rfl⟩ := taken
        exact ih way bracketed.2 rfl
    | rollback =>
      obtain ⟨-, rfl⟩ := taken
      exact ih way bracketed.2 rfl

namespace Traffic

variable {ν : Type} {amid : Surroundings} {t : Traffic ν} {n : Nat} {v : Visit ν} {l : Ledger}
  {log : List Commit} {o : Order ν} {queued : Bool}

/-- The traffic after some acts of its visits. -/
def afterActs (t : Traffic ν) (acts : List Nat) : Traffic ν := acts.foldl act t

theorem afterActs_append (t : Traffic ν) (acts more : List Nat) :
    t.afterActs (acts ++ more) = (t.afterActs acts).afterActs more := List.foldl_append

/-! ## Who comes -/

/-- The orders that the clients come with. -/
def issued (moves : List (Move ν)) : List (Order ν) := moves.filterMap Move.order?

theorem orders_act (t : Traffic ν) (n : Nat) :
    (t.act n).visits.map (·.order) = t.visits.map (·.order) := by
  have unmoved {v v' : Visit ν} (found : t.visits[n]? = some v) (same : v'.order = v.order) :
      (t.visits.set n v').map (·.order) = t.visits.map (·.order) := by
    have found' : (t.visits.map (·.order))[n]? = some v.order := by
      rw [List.getElem?_map, found]
      rfl
    obtain ⟨known, here⟩ := List.getElem?_eq_some_iff.1 found'
    rw [List.map_set, same, ← here, List.set_getElem_self]
  unfold act
  split
  · rfl
  · rename_i v found
    split
    · rfl
    · split <;> exact unmoved found rfl

/-- There is a visit for each order. -/
theorem orders_moves (moves : List (Move ν)) (t : Traffic ν) :
    (moves.foldl move t).visits.map (·.order) = t.visits.map (·.order) ++ issued moves := by
  induction moves generalizing t with
  | nil => exact (List.append_nil _).symm
  | cons m rest ih =>
    rw [List.foldl_cons, ih]
    cases m with
    | issue o => simp [move, issued, Move.order?]
    | act n => exact congrArg (· ++ issued rest) (orders_act t n)
    | stir change spares => rfl

theorem orders_play (world : World (Faults.State Memory.State)) (moves : List (Move ν)) :
    (play world moves).visits.map (·.order) = issued moves :=
  orders_moves moves (start world)

/-! ## One visit -/

/-- A visit that is over holds no transaction. -/
theorem own_of_over (way : OnItsWay amid l t log n v) (ended : v.outcome?.isSome) :
    t.own n = none := by
  obtain ⟨outcome, returned⟩ := Option.isSome_iff_exists.1 ended
  obtain ⟨past, s, run, along, mirrors, -⟩ := run_of_onItsWay way returned
  have shut := Standing.opened_of_bracketed along (Order.bracketed_of_procedure run) rfl
  rw [mirrors.opened, Option.isSome_map] at shut
  exact Option.not_isSome_iff_eq_none.1 (Bool.eq_false_iff.1 shut)

theorem free_after {e : (q : Step ν) × q.Answer}
    {seat : Seat (Faults.State Memory.State) Ledger ν} (free : t.Free n) :
    (t.after n v e seat).Free n := by
  intro h mem
  simp only [after, if_pos free, Option.mem_def] at mem
  split at mem <;> cases mem
  rfl

/-- A visit that no other visit keeps waiting takes its next step by an act or two. -/
theorem acts_step {q : Step ν} {next : q.Answer → Procedure ν (Except Error Receipt)}
    (free : t.Free n) (found : t.visits[n]? = some ⟨o, queued, .ask q next⟩) :
    ∃ k answer, (t.afterActs (List.replicate k n)).Free n ∧
      (t.afterActs (List.replicate k n)).visits = t.visits.set n ⟨o, false, next answer⟩ := by
  cases answered : t.answer? n queued q with
  | some given =>
    obtain ⟨answer, seat⟩ := given
    have acted : t.act n = t.after n ⟨o, false, next answer⟩ ⟨q, answer⟩ seat := by
      simp only [act, found, answered]
    refine ⟨1, answer, ?_⟩
    show (t.act n).Free n ∧ (t.act n).visits = _
    rw [acted]
    exact ⟨free_after free, rfl⟩
  | none =>
    -- The visit queues first.
    let queues : Traffic ν := { t with visits := t.visits.set n ⟨o, true, .ask q next⟩ }
    have found' : queues.visits[n]? = some ⟨o, true, .ask q next⟩ :=
      List.getElem?_set_self (List.getElem?_eq_some_iff.1 found).1
    have acted : t.act n = queues := by
      simp only [act, found, answered]
      rfl
    obtain ⟨⟨answer, seat⟩, later⟩ : ∃ given, queues.answer? n true q = some given := by
      cases q with
      | begin ctx => exact ⟨_, if_pos free⟩
      | now | check ctx | call ctx c | commit | rollback | wait d | cancel token | notify notice =>
        exact ⟨_, rfl⟩
    have acted' : queues.act n = queues.after n ⟨o, false, next answer⟩ ⟨q, answer⟩ seat := by
      simp only [act, found', later]
    refine ⟨2, answer, ?_⟩
    show ((t.act n).act n).Free n ∧ ((t.act n).act n).visits = _
    rw [acted, acted']
    exact ⟨free_after free, List.set_set ..⟩

/-- A visit that no other visit keeps waiting can go to its end. -/
theorem acts_finish (p : Procedure ν (Except Error Receipt)) (free : t.Free n)
    (found : t.visits[n]? = some ⟨o, queued, p⟩) :
    ∃ k v, (t.afterActs (List.replicate k n)).Free n ∧ v.outcome?.isSome ∧
      (t.afterActs (List.replicate k n)).visits = t.visits.set n v := by
  induction p generalizing t queued with
  | done outcome =>
    obtain ⟨known, same⟩ := List.getElem?_eq_some_iff.1 found
    refine ⟨0, ⟨o, queued, .done outcome⟩, free, rfl, ?_⟩
    rw [← same, List.set_getElem_self]
    rfl
  | ask q next ih =>
    obtain ⟨first, answer, free', visits⟩ := acts_step free found
    have found' : (t.afterActs (List.replicate first n)).visits[n]? =
        some ⟨o, false, next answer⟩ := by
      rw [visits]
      exact List.getElem?_set_self (List.getElem?_eq_some_iff.1 found).1
    obtain ⟨later, v, free'', ended, visits'⟩ := ih answer free' found'
    refine ⟨first + later, v, ?_⟩
    rw [List.replicate_add, afterActs_append]
    exact ⟨free'', ended, by rw [visits', visits, List.set_set]⟩

theorem length_acts (acts : List Nat) (t : Traffic ν) :
    (t.afterActs acts).visits.length = t.visits.length := by
  induction acts generalizing t with
  | nil => rfl
  | cons n rest ih =>
    have one := congrArg List.length (orders_act t n)
    rw [List.length_map, List.length_map] at one
    exact (ih (t.act n)).trans one

theorem consistent_acts (acts : List Nat) (consistent : Consistent l t log) :
    ∃ more, Consistent l (t.afterActs acts) (log ++ more) := by
  have moves := consistent_moves (acts.map .act) consistent
  rwa [List.foldl_map] at moves

/-! ## All visits -/

/-- A visit that no other visit keeps waiting can go to its end, and then nobody holds a
transaction. -/
theorem acts_end (consistent : Consistent l t log) (free : t.Free n)
    (known : n < t.visits.length) :
    ∃ acts v, (t.afterActs acts).holder = none ∧ v.outcome?.isSome ∧
      (t.afterActs acts).visits = t.visits.set n v := by
  obtain ⟨k, v, free', ended, visits⟩ :=
    acts_finish t.visits[n].rest free (List.getElem?_eq_getElem known)
  obtain ⟨more, consistent'⟩ := consistent_acts (List.replicate k n) consistent
  have found : (t.afterActs (List.replicate k n)).visits[n]? = some v := by
    rw [visits]
    exact List.getElem?_set_self known
  have own := own_of_over (consistent'.visits n v found) ended
  exact ⟨_, v, holder_eq_none free' own, ended, visits⟩

/-- Where nobody holds a transaction, any number of visits can go to their ends one after
another. -/
theorem acts_end_first (consistent : Consistent l t log) (shut : t.holder = none) (m : Nat) :
    ∃ acts, (t.afterActs acts).holder = none ∧
      ∀ i v, i < m → (t.afterActs acts).visits[i]? = some v → v.outcome?.isSome := by
  induction m with
  | zero => exact ⟨[], shut, fun i v few => absurd few (Nat.not_lt_zero i)⟩
  | succ m ih =>
    obtain ⟨acts, shut', ended⟩ := ih
    by_cases known : m < (t.afterActs acts).visits.length
    · obtain ⟨more, consistent'⟩ := consistent_acts acts consistent
      have free : (t.afterActs acts).Free m := by
        intro h mem
        rw [shut'] at mem
        cases mem
      obtain ⟨later, v, shut'', ended', visits⟩ := acts_end consistent' free known
      refine ⟨acts ++ later, ?_⟩
      rw [afterActs_append]
      refine ⟨shut'', fun i v' few found => ?_⟩
      rw [visits] at found
      by_cases last : m = i
      · subst last
        rw [List.getElem?_set_self known] at found
        exact Option.some.inj found ▸ ended'
      · rw [List.getElem?_set_ne last] at found
        exact ended i v' (by omega) found
    · refine ⟨acts, shut', fun i v few found => ended i v ?_ found⟩
      have := (List.getElem?_eq_some_iff.1 found).1
      omega

theorem quiet_of_consistent (consistent : Consistent l t log) :
    ∃ acts : List Nat, (t.afterActs acts).Quiet := by
  -- First the visit that holds the transaction, if there is one.
  obtain ⟨first, shut⟩ : ∃ first : List Nat, (t.afterActs first).holder = none := by
    cases held : t.holder with
    | none => exact ⟨[], held⟩
    | some h =>
      have free : t.Free h.1 := by
        intro h' mem
        rw [held] at mem
        cases mem
        rfl
      obtain ⟨acts, v, shut, -⟩ := acts_end consistent free (consistent.holders h held)
      exact ⟨acts, shut⟩
  obtain ⟨more, consistent'⟩ := consistent_acts first consistent
  obtain ⟨later, -, ended⟩ := acts_end_first consistent' shut
    (t.afterActs first).visits.length
  refine ⟨first ++ later, fun v mem => ?_⟩
  rw [afterActs_append] at mem
  obtain ⟨i, known, rfl⟩ := List.getElem_of_mem mem
  exact ended i _ (length_acts later _ ▸ known) (List.getElem?_eq_getElem known)

/-- However far the visits have come, they can all be brought to an end. -/
theorem quiet_of_acts (world : World (Faults.State Memory.State)) (moves : List (Move ν)) :
    ∃ acts : List Nat, (play world (moves ++ acts.map .act)).Quiet := by
  obtain ⟨log, consistent⟩ := consistent_moves moves (consistent_start world)
  obtain ⟨acts, quiet⟩ := quiet_of_consistent consistent
  refine ⟨acts, ?_⟩
  rw [play, List.foldl_append, List.foldl_map]
  exact quiet

end Traffic
end DoubleEntry
