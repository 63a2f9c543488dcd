import DoubleEntry.Proofs.Traffic.Books
import DoubleEntry.Proofs.Traffic.Served

/-!
# One after the other

Orders can also be carried out one after the other, each by a run of its procedure that nobody else
commits into.  `Traffic.play_inTurn` says that this is one of the schedules: there are moves that
end with the same world, the same outcomes and the same notices, and with no order on its way.  So
what holds of all schedules holds of orders that are carried out in turn, such as `books_inTurn`.
-/

namespace DoubleEntry

open Program Store

/-! ## Notices -/

/-- The notices sent earlier make no difference to a step. -/
theorem Store.perform_sent {σ τ ν : Type} (store : Store σ τ) (q : Step ν) (seat : Seat σ τ ν)
    (earlier : List ν) :
    store.perform q { seat with sent := seat.sent ++ earlier } =
      ((store.perform q seat).1,
        { (store.perform q seat).2 with sent := (store.perform q seat).2.sent ++ earlier }) := by
  cases q with
  | now | check ctx | wait d | cancel token | notify notice => rfl
  | commit | rollback =>
    simp only [perform]
    split <;> rfl
  | begin ctx =>
    simp only [perform]
    split
    · rfl
    · split <;> rfl
  | call ctx c =>
    simp only [perform]
    split
    · rfl
    · split <;> rfl

namespace Traffic

variable {ν : Type} {t : Traffic ν} {n : Nat} {o : Order ν} {before : List (Nat × ν)}
  {seat : Seat (Faults.State Memory.State) Ledger ν}

/-! ## A visit that nobody disturbs -/

/-- A visit stands at a seat, and nobody else holds a transaction. -/
structure Stands (t : Traffic ν) (n : Nat) (before : List (Nat × ν))
    (seat : Seat (Faults.State Memory.State) Ledger ν) : Prop where
  world : t.world = seat.world
  own : t.own n = seat.transaction
  free : t.Free n
  sent : t.sent = before ++ seat.sent.reverse.map fun notice => (n, notice)

/-- Without a transaction of another visit there is nothing to wait for but one's turn. -/
theorem answer?_of_free (free : t.Free n) (q : Step ν) :
    t.answer? n false q = some (store.perform q (t.seat n)) ∨
      t.answer? n false q = none ∧ t.answer? n true q = some (store.perform q (t.seat n)) := by
  cases q with
  | begin ctx =>
    rw [perform_begin_eq, show (t.seat n).world.moment = t.world.moment from rfl]
    simp only [answer?, Bool.false_eq_true, if_false, if_true, if_pos free]
    cases ctx.check t.world.moment with
    | error e => exact .inl rfl
    | ok u => exact .inr ⟨rfl, rfl⟩
  | now | check ctx | call ctx c | commit | rollback | wait d | cancel token | notify notice =>
    exact .inl rfl

/-- Where the visit stands, a step does what it does to the visit. -/
theorem Stands.perform (stands : Stands t n before seat) (q : Step ν) :
    store.perform q seat = ((store.perform q (t.seat n)).1,
      { (store.perform q (t.seat n)).2 with
        sent := (store.perform q (t.seat n)).2.sent ++ seat.sent }) := by
  have here : { t.seat n with sent := (t.seat n).sent ++ seat.sent } = seat := by
    simp only [Traffic.seat, stands.world, stands.own, List.nil_append]
  have taken := store.perform_sent q (t.seat n) seat.sent
  rwa [here] at taken

theorem stands_after (stands : Stands t n before seat) (v : Visit ν) (q : Step ν)
    (e : (q : Step ν) × q.Answer) :
    Stands (t.after n v e (store.perform q (t.seat n)).2) n before (store.perform q seat).2 := by
  rw [stands.perform q]
  refine ⟨rfl, own_after_self, ?_, ?_⟩
  · intro h mem
    simp only [after, if_pos stands.free, Option.mem_def] at mem
    split at mem <;> cases mem
    rfl
  · show t.sent ++ _ = _
    rw [stands.sent, List.append_assoc, List.reverse_append, List.map_append]

/-- A visit that nobody disturbs takes its next step by a move or two. -/
theorem stands_act {q : Step ν} {next : q.Answer → Procedure ν (Except Error Receipt)}
    (stands : Stands t n before seat) (found : t.visits[n]? = some ⟨o, false, .ask q next⟩) :
    ∃ moves : List (Move ν), Stands (moves.foldl move t) n before (store.perform q seat).2 ∧
      (moves.foldl move t).visits = t.visits.set n ⟨o, false, next (store.perform q seat).1⟩ := by
  have answer : (store.perform q (t.seat n)).1 = (store.perform q seat).1 :=
    (congrArg Prod.fst (stands.perform q)).symm
  rcases answer?_of_free stands.free q with now | ⟨waits, later⟩
  · have acted : t.act n = t.after n ⟨o, false, next (store.perform q seat).1⟩
        ⟨q, (store.perform q seat).1⟩ (store.perform q (t.seat n)).2 := by
      simp only [act, found, now, answer]
    refine ⟨[.act n], ?_, ?_⟩
    · rw [List.foldl_cons, List.foldl_nil, move, acted]
      exact stands_after stands _ q _
    · rw [List.foldl_cons, List.foldl_nil, move, acted]
      rfl
  · -- The visit queues first, and is where it was.
    let queued : Traffic ν := { t with visits := t.visits.set n ⟨o, true, .ask q next⟩ }
    have found' : queued.visits[n]? = some ⟨o, true, .ask q next⟩ :=
      List.getElem?_set_self (List.getElem?_eq_some_iff.1 found).1
    have stands' : Stands queued n before seat :=
      ⟨stands.world, stands.own, stands.free, stands.sent⟩
    have queues : t.act n = queued := by
      simp only [act, found, waits]
      rfl
    have acted : queued.act n = queued.after n ⟨o, false, next (store.perform q seat).1⟩
        ⟨q, (store.perform q seat).1⟩ (store.perform q (t.seat n)).2 := by
      have later' : queued.answer? n true q = some (store.perform q (t.seat n)) := later
      simp only [act, found', later', answer]
    refine ⟨[.act n, .act n], ?_, ?_⟩
    · rw [List.foldl_cons, List.foldl_cons, List.foldl_nil, move, move, queues, acted]
      exact stands_after stands' _ q _
    · rw [List.foldl_cons, List.foldl_cons, List.foldl_nil, move, move, queues, acted]
      exact List.set_set ..

/-- What happens around the visit moves both on. -/
theorem stands_stir (stands : Stands t n before seat)
    (change : World (Faults.State Memory.State) → World (Faults.State Memory.State))
    (spares : ∀ w, keeping.Spares w (change w)) :
    Stands (t.move (.stir change spares)) n before { seat with world := change seat.world } :=
  ⟨congrArg change stands.world, stands.own, stands.free, stands.sent⟩

/-- A visit that nobody disturbs goes to its end as its procedure runs. -/
theorem stands_exec {stir : Nat → World (Faults.State Memory.State) → World _}
    (spares : ∀ k w, keeping.Spares w (stir k w)) (p : Procedure ν (Except Error Receipt))
    (k : Nat) (stands : Stands t n before seat) (found : t.visits[n]? = some ⟨o, false, p⟩) :
    ∃ moves : List (Move ν),
      Stands (moves.foldl move t) n before (p.exec (store.performAmid stir) (seat, k)).2.1 ∧
        (moves.foldl move t).visits =
          t.visits.set n ⟨o, false, .done (p.exec (store.performAmid stir) (seat, k)).1⟩ := by
  induction p generalizing t seat k with
  | done outcome =>
    obtain ⟨known, same⟩ := List.getElem?_eq_some_iff.1 found
    refine ⟨[], stands, ?_⟩
    show t.visits = t.visits.set n ⟨o, false, .done outcome⟩
    rw [← same, List.set_getElem_self]
  | ask q next ih =>
    have stirred := stands_stir stands (stir k) (spares k)
    obtain ⟨moves, stands', visits'⟩ := stands_act stirred found
    have found' : (moves.foldl move (t.move (.stir (stir k) (spares k)))).visits[n]? =
        some ⟨o, false, next (store.perform q { seat with world := stir k seat.world }).1⟩ := by
      rw [visits']
      exact List.getElem?_set_self (List.getElem?_eq_some_iff.1 found).1
    obtain ⟨rest, ends, visits⟩ := ih _ (k + 1) stands' found'
    refine ⟨.stir (stir k) (spares k) :: moves ++ rest, ?_, ?_⟩
    · rw [List.foldl_append]
      exact ends
    · rw [List.foldl_append]
      refine visits.trans ?_
      rw [visits']
      exact List.set_set ..

/-! ## Orders in turn -/

/-- An order, and what happens around it while it is carried out. -/
structure Errand (ν : Type) where
  order : Order ν
  stir : Nat → World (Faults.State Memory.State) → World (Faults.State Memory.State)
  spares : ∀ k w, keeping.Spares w (stir k w)

namespace Errand

variable (e : Errand ν) (world : World (Faults.State Memory.State))

/-- Carry out the order. -/
def run : Ending (Faults.State Memory.State) Ledger ν (Except Error Receipt) :=
  store.runAmid e.stir e.order.procedure world

/-- A visit that came to what the run comes to. -/
def visit : Visit ν := ⟨e.order, false, .done (e.run world).value⟩

theorem shut_run : (e.run world).seat.transaction = none :=
  shut_of_bracketed (along_runAmid e.spares _ world)
    (Order.bracketed_of_procedure (runs_runAmid store e.stir _ world)) rfl

end Errand

/-- Carry out orders one after the other: the visits that come to the same, the notices in the order
in which they are sent, and the world afterwards. -/
def inTurn (world : World (Faults.State Memory.State)) :
    List (Errand ν) → List (Visit ν) × List ν × World (Faults.State Memory.State)
  | [] => ([], [], world)
  | e :: rest =>
    let (visits, notices, last) := inTurn (e.run world).seat.world rest
    (e.visit world :: visits, (e.run world).seat.sent.reverse ++ notices, last)

theorem outcome_of_mem_inTurn {errands : List (Errand ν)} {v : Visit ν}
    {world : World (Faults.State Memory.State)} (mem : v ∈ (inTurn world errands).1) :
    v.outcome?.isSome := by
  induction errands generalizing world with
  | nil => cases mem
  | cons e rest ih =>
    rcases List.mem_cons.1 mem with rfl | mem
    · rfl
    · exact ih mem

/-- Where nobody holds a transaction, a client can come and be attended to until the end. -/
theorem move_errand (shut : t.holder = none) (e : Errand ν) :
    ∃ moves : List (Move ν), (moves.foldl move t).holder = none ∧
      (moves.foldl move t).world = (e.run t.world).seat.world ∧
      (moves.foldl move t).visits = t.visits ++ [e.visit t.world] ∧
      (moves.foldl move t).sent.map (·.2) =
        t.sent.map (·.2) ++ (e.run t.world).seat.sent.reverse := by
  let came : Traffic ν := t.move (.issue e.order)
  have found : came.visits[t.visits.length]? = some ⟨e.order, false, e.order.procedure⟩ :=
    List.getElem?_concat_length
  have stands : Stands came t.visits.length t.sent (outside t.world) := by
    refine ⟨rfl, ?_, ?_, (List.append_nil _).symm⟩
    · simp [came, move, own, shut, outside]
    · simp [came, move, Free, shut]
  obtain ⟨moves, ends, visits⟩ := stands_exec e.spares e.order.procedure 0 stands found
  refine ⟨.issue e.order :: moves, ?_, ends.world, ?_, ?_⟩
  · exact holder_eq_none ends.free (ends.own.trans (e.shut_run t.world))
  · refine visits.trans ?_
    show (t.visits ++ [_]).set _ _ = _
    rw [List.set_append_right _ _ (Nat.le_refl _), Nat.sub_self]
    rfl
  · refine (congrArg (List.map (·.2)) ends.sent).trans ?_
    rw [List.map_append, List.map_map]
    exact congrArg (t.sent.map (·.2) ++ ·) (List.map_id _)

theorem moves_inTurn (errands : List (Errand ν)) (shut : t.holder = none) :
    ∃ moves : List (Move ν), (moves.foldl move t).holder = none ∧
      (moves.foldl move t).world = (inTurn t.world errands).2.2 ∧
      (moves.foldl move t).visits = t.visits ++ (inTurn t.world errands).1 ∧
      (moves.foldl move t).sent.map (·.2) =
        t.sent.map (·.2) ++ (inTurn t.world errands).2.1 := by
  induction errands generalizing t with
  | nil => exact ⟨[], shut, rfl, (List.append_nil _).symm, (List.append_nil _).symm⟩
  | cons e rest ih =>
    obtain ⟨first, shut', world, visits, sent⟩ := move_errand shut e
    obtain ⟨later, shut'', world', visits', sent'⟩ := ih shut'
    rw [world] at world' visits' sent'
    refine ⟨first ++ later, ?_⟩
    rw [List.foldl_append]
    refine ⟨shut'', world', ?_, ?_⟩
    · rw [visits', visits, List.append_assoc]
      rfl
    · rw [sent', sent, List.append_assoc]
      rfl

/-- Orders that are carried out one after the other are one of the schedules. -/
theorem play_inTurn (world : World (Faults.State Memory.State)) (errands : List (Errand ν)) :
    ∃ moves, (play world moves : Traffic ν).Quiet ∧
      (play world moves : Traffic ν).world = (inTurn world errands).2.2 ∧
      (play world moves).visits = (inTurn world errands).1 ∧
      (play world moves).sent.map (·.2) = (inTurn world errands).2.1 := by
  have shut : (start world : Traffic ν).holder = none := rfl
  obtain ⟨moves, -, last, visits, sent⟩ := moves_inTurn errands shut
  refine ⟨moves, ?_, last, visits, sent⟩
  intro v mem
  rw [play, visits] at mem
  exact outcome_of_mem_inTurn mem

/-- On a store that was empty, orders that are carried out one after the other leave the books in
order. -/
theorem books_inTurn (moment : Moment) (errands : List (Errand ν)) :
    ∃ opened, opened.Perm ((inTurn ⟨moment, .ofInner .empty⟩ errands).1.filterMap fun v =>
        v.served?.bind fun e => e.2.account?) ∧
      Ledger.Books opened
        (keeping.committed (inTurn ⟨moment, .ofInner .empty⟩ errands).2.2.data) := by
  obtain ⟨moves, quiet, last, visits, -⟩ := play_inTurn ⟨moment, .ofInner .empty⟩ errands
  obtain ⟨log, consistent⟩ := consistent_moves moves (consistent_start ⟨moment, .ofInner .empty⟩)
  rw [← last, ← visits, ← List.filterMap_filterMap]
  exact ⟨_, (served_of_consistent consistent quiet).1.filterMap _, books_of_consistent consistent⟩

end Traffic
end DoubleEntry
