import DoubleEntry.Proofs.Ledger.Opening
import DoubleEntry.Proofs.Store.Alone
import DoubleEntry.Proofs.Traffic.Foresight
import DoubleEntry.Proofs.Transfer.Company

/-!
# Traffic without trouble

Clients meet at a store while nothing fails: no fault is armed or due, and the clock stops nobody.
Then a visit stands in surroundings that are fair (`Traffic.amongOthers`), and every transfer that
is over came out as `Ledger.transfer` says for one of the ledgers that were committed on the way:
`outcome_of_untroubled`.
-/

namespace DoubleEntry

open Program Store

/-- Where no fault is armed, none strikes. -/
theorem Faults.strike_of_unarmed {σ : Type} {w : World (State σ)} (unarmed : w.data.armed = [])
    (verb : Verb) : strike verb w = (none, w) := by
  obtain ⟨moment, inner, armed, token, asked⟩ := w
  cases unarmed
  rfl

namespace Traffic

variable {ν : Type} {moments : Moment → Prop} {ledgers : Ledger → Prop} {t : Traffic ν}
  {w w' : World (Faults.State Memory.State)} {tx tx' : Ledger}

/-! ## The store while nothing fails -/

/-- No fault is armed, and none is due. -/
structure Untroubled (w : World (Faults.State Memory.State)) : Prop where
  unarmed : w.data.armed = []
  faultless : w.data.inner.Faultless

theorem begin_of_untroubled {answer : Except Error Ledger} (sure : Untroubled w)
    (begun : store.begin w = (answer, w')) : answer = .ok (keeping.committed w.data) := by
  have struck := Faults.strike_of_unarmed (w := Faults.note .begin w) sure.unarmed .begin
  change Faults.begin Memory.store w = _ at begun
  rw [Faults.begin, struck] at begun
  exact (Prod.mk.inj begun).1.symm

theorem call_of_untroubled {c : Call} {outcome : c.Outcome} (sure : Untroubled w)
    (called : store.call c tx w = (outcome, tx', w')) : tx.CarriesOut c outcome tx' := by
  have struck := Faults.strike_of_unarmed (w := Faults.note (.call c) w) sure.unarmed c.verb
  have inside : ∃ w₁, Memory.call c tx ⟨w.moment, w.data.inner⟩ = (outcome, tx', w₁) := by
    change Faults.call Memory.store c tx w = _ at called
    rw [Faults.call, struck] at called
    obtain ⟨rfl, rest⟩ := Prod.mk.inj called
    obtain ⟨rfl, -⟩ := Prod.mk.inj rest
    exact ⟨_, rfl⟩
  obtain ⟨w₁, called⟩ := inside
  exact (Memory.call_of_faultless (w := ⟨w.moment, w.data.inner⟩) sure.faultless called).1

theorem commit_of_untroubled {answer : Except Error Unit} (sure : Untroubled w)
    (ended : store.commit tx w = (answer, w')) : answer = .ok () := by
  have struck := Faults.strike_of_unarmed (w := Faults.note .commit w) sure.unarmed .commit
  change Faults.finish Memory.store .commit .commit Memory.commit tx w = _ at ended
  rw [Faults.finish, struck] at ended
  simp only [Memory.commit, Faults.inside, Faults.note, sure.faultless.commits] at ended
  exact (Prod.mk.inj ended).1.symm

theorem rollback_of_untroubled {answer : Except Error Unit} (sure : Untroubled w)
    (ended : store.rollback tx w = (answer, w')) : answer = .ok () := by
  have struck := Faults.strike_of_unarmed (w := Faults.note .rollback w) sure.unarmed .rollback
  change Faults.finish Memory.store .rollback .rollback Memory.rollback tx w = _ at ended
  rw [Faults.finish, struck] at ended
  simp only [Memory.rollback, Faults.inside, Faults.note, sure.faultless.rollbacks] at ended
  exact (Prod.mk.inj ended).1.symm

/-! ## The surroundings of a visit -/

/-- What goes on around a visit while nothing fails: the others commit ledgers of some kind, in
which accounts stay, and the clock shows one of some moments. -/
def amongOthers (moments : Moment → Prop) (ledgers : Ledger → Prop) : Surroundings where
  passes l l' := l' = l ∨ ledgers l' ∧ l.PersistsIn l'
  answers ctx l c outcome l' := l.CarriesOut c outcome l' ∨
    (∃ m e, moments m ∧ ctx.check m = .error e) ∧ (∃ e, outcome = .error e) ∧ l' = l
  reads reading := ∃ m, moments m ∧ m.now = reading
  stops ctx := ∃ m e, moments m ∧ ctx.check m = .error e
  breaks := False
  passes_refl _ := .inl rfl
  passes_trans := by
    rintro l l' l'' first (rfl | ⟨such, persists⟩)
    · exact first
    · refine .inr ⟨such, ?_⟩
      obtain rfl | ⟨-, persists'⟩ := first
      · exact persists
      · exact persists'.trans persists

theorem fair_amongOthers (schema : ∀ l, ledgers l → l.WellFormed) :
    (amongOthers moments ledgers).Fair where
  persists passes := passes.elim (fun same => same ▸ .refl _) And.right
  schema passes wf := passes.elim (fun same => same ▸ wf) fun other => schema _ other.1
  carries answered := answered.imp_right And.left

section Steps

variable {n : Nat} {queued : Bool} {q : Step ν} {s s' : Standing ν}
  {seat' : Seat (Faults.State Memory.State) Ledger ν}

/-- Without trouble, a visit that enters begins on the committed ledger. -/
theorem takes_enter {ctx : Context} {answer : Except Error Unit} (sure : Untroubled t.world)
    (such : ledgers t.committed) (entered : store.enter (t.seat n) = (answer, seat'))
    (follows : Follows (t.seat n) s (.begin ctx) answer seat' s') :
    s.Takes (amongOthers moments ledgers) (.begin ctx) answer s' := by
  have untouched : Untroubled (store.freed (t.seat n)) := by
    unfold freed
    split <;> exact ⟨sure.unarmed, sure.faultless⟩
  unfold enter at entered
  split at entered
  · rename_i tx w begun
    cases entered
    obtain ⟨b, persists, rfl⟩ := follows.taken
    obtain ⟨same, -⟩ := Prod.mk.inj (Option.some.inj follows.mirrors.opened)
    have kept : keeping.committed w.data = t.committed := Keeping.committed_begin begun
    have same : b = t.committed := same.trans kept
    exact ⟨b, .inr ⟨same ▸ such, persists⟩, rfl⟩
  · rename_i e w begun
    cases begin_of_untroubled untouched begun

/-- Without trouble, a call of a visit is carried out, unless its context is over. -/
theorem takes_call {ctx : Context} {c : Call} {outcome : c.Outcome} (sure : Untroubled t.world)
    (now : moments t.world.moment) (mirrors : Mirrors (t.seat n) s)
    (performed : store.perform (.call ctx c) (t.seat n) = (outcome, seat'))
    (follows : Follows (t.seat n) s (.call ctx c) outcome seat' s') :
    s.Takes (amongOthers moments ledgers) (.call ctx c) outcome s' := by
  have taken := follows.taken
  obtain ⟨e, late, rfl, rfl⟩ | ⟨shut, rfl, rfl⟩ | ⟨tx, tx', w, held, called, rfl⟩ :=
    perform_call performed
  · rcases opened : s.opened with _ | ⟨b, l⟩
    · simp only [Standing.Takes, opened] at taken ⊢
      exact taken
    · simp only [Standing.Takes, opened] at taken ⊢
      obtain ⟨l', -, rfl⟩ := taken
      have same : some (b, l') = some (b, l) :=
        (follows.mirrors.opened.trans mirrors.opened.symm).trans opened
      cases same
      exact ⟨l, .inr ⟨⟨_, e, now, late⟩, ⟨e, rfl⟩, rfl⟩, rfl⟩
  · have unheld : s.opened = none := by
      rw [mirrors.opened, shut]
      rfl
    simp only [Standing.Takes, unheld] at taken ⊢
    exact taken
  · simp only [Standing.Takes, mirrors.opened_of_held held] at taken ⊢
    obtain ⟨l', -, rfl⟩ := taken
    obtain rfl : l' = tx' := (Prod.mk.inj (Option.some.inj follows.mirrors.opened)).2
    exact ⟨l', .inl (call_of_untroubled sure called), rfl⟩

/-- Without trouble, every step of a visit is one in these surroundings. -/
theorem admits_amongOthers (sure : Untroubled t.world) (now : moments t.world.moment)
    (such : ledgers t.committed) : t.Admits (amongOthers moments ledgers) := by
  intro n queued q answer seat' s s' mirrors answered follows
  refine of_answer? (P := fun q answer seat' => Follows (t.seat n) s q answer seat' s' →
    s.Takes (amongOthers moments ledgers) q answer s') ?_
    (fun _ _ _ _ entered follows => takes_enter sure such entered follows) answered follows
  intro q answer seat' performed unopened follows
  have taken := follows.taken
  have unheld (shut : (t.seat n).transaction = none) : s.opened = none := by
    rw [mirrors.opened, shut]
    rfl
  cases q with
  | now =>
    cases performed
    exact ⟨⟨_, now, rfl⟩, taken.2⟩
  | wait d | cancel token | notify notice => exact taken
  | check ctx =>
    cases performed
    refine ⟨?_, taken.2⟩
    cases checked : ctx.check t.world.moment with
    | ok u => exact .inl checked
    | error e => exact .inr ⟨_, e, now, checked⟩
  | begin ctx =>
    rcases answer with e | ⟨⟩
    · rw [perform_begin_eq] at performed
      split at performed
      · rename_i late
        exact ⟨⟨_, _, now, late⟩, taken.2⟩
      · exact takes_enter sure such performed follows
    · cases unopened
  | call ctx c => exact takes_call sure now mirrors performed follows
  | commit =>
    rcases answer with e | ⟨⟩
    · refine ⟨?_, taken.2⟩
      obtain ⟨shut, -⟩ | ⟨tx, w, -, ended, -⟩ := perform_commit performed
      · exact .inl (unheld shut)
      · cases commit_of_untroubled sure ended
    · exact taken
  | rollback =>
    refine ⟨?_, taken.2⟩
    obtain ⟨shut, -⟩ | ⟨tx, w, -, ended, -⟩ := perform_rollback performed
    · exact .inr (.inl (unheld shut))
    · exact .inl (rollback_of_untroubled sure ended)

end Steps

/-! ## Visits that are over -/

/-- At none of these moments an order is called off or out of time. -/
structure Unhurried (moments : Moment → Prop) (o : Order ν) : Prop where
  allowed : ∀ m, moments m → o.context.check m = .ok ()
  early : ∀ d, o.coordinator.timeout = some d → ∀ m m', moments m → moments m' →
    m.now < m'.now + d.nanos

theorem Unhurried.reliable {o : Order ν} (unhurried : Unhurried moments o) :
    o.coordinator.ReliableFor (amongOthers moments ledgers) o.context := by
  rintro ctx' (⟨-, rfl⟩ | ⟨d, reading, limit, ⟨m, showed, rfl⟩, rfl⟩)
  · refine ⟨?_, id⟩
    rintro ⟨m, e, shows, late⟩
    cases (unhurried.allowed m shows).symm.trans late
  · refine ⟨?_, id⟩
    rintro ⟨m', e, shows, late⟩
    cases (Memory.check_withTimeout (unhurried.allowed m' shows)
      (unhurried.early d limit m' m shows showed)).symm.trans late

theorem wellFormed_of_along {l l' : Ledger} {served : List ((_ : Order ν) × Receipt)}
    (wf : l.WellFormed) (way : Along Order.Serves l served l') : l'.WellFormed := by
  refine way.keeps (fun e _ s s' serves wf => ?_) wf
  obtain ⟨new, fits, a, now, -, -, created⟩ | ⟨r, inform, result, times, -, -, moved⟩ :=
    Order.serves_cases serves
  · exact wf.createAccount fits created
  · exact wf.transfer moved

/-- A stage of a schedule is what the moves so far come to. -/
theorem split_of_mem_stages {t₀ : Traffic ν} {moves : List (Move ν)}
    (mem : t ∈ t₀.stages moves) :
    ∃ before after, moves = before ++ after ∧ t = before.foldl move t₀ := by
  induction moves generalizing t₀ with
  | nil => exact ⟨[], [], rfl, List.mem_singleton.1 mem⟩
  | cons m rest ih =>
    rw [stages_cons] at mem
    rcases List.mem_cons.1 mem with rfl | later
    · exact ⟨[], m :: rest, rfl, rfl⟩
    · obtain ⟨before, after, rfl, rfl⟩ := ih later
      exact ⟨m :: before, after, rfl, rfl⟩

theorem start_mem_stages (t₀ : Traffic ν) (moves : List (Move ν)) : t₀ ∈ t₀.stages moves := by
  cases moves with
  | nil => exact List.mem_singleton.2 rfl
  | cons m rest =>
    rw [stages_cons]
    exact .head _

/-- At every stage some log accords with the traffic. -/
theorem consistent_of_stage {world : World (Faults.State Memory.State)} {moves : List (Move ν)}
    (mem : t ∈ (start world : Traffic ν).stages moves) :
    ∃ log, Consistent (keeping.committed world.data) t log := by
  obtain ⟨before, after, -, rfl⟩ := split_of_mem_stages mem
  obtain ⟨log, consistent⟩ := consistent_moves before (consistent_start world)
  exact ⟨_, consistent⟩

/-- What the clock shows at the stages of a schedule. -/
def momentsOf (stages : List (Traffic ν)) (m : Moment) : Prop := ∃ t ∈ stages, t.world.moment = m

/-- What is committed at the stages of a schedule. -/
def ledgersOf (stages : List (Traffic ν)) (l : Ledger) : Prop := ∃ t ∈ stages, t.committed = l

/-- Without trouble, a transfer that is over came out as it does on a ledger that was committed at
some stage. -/
theorem outcome_of_untroubled {world : World (Faults.State Memory.State)} {moves : List (Move ν)}
    (wf : (keeping.committed world.data).WellFormed)
    (sure : ∀ t ∈ (start world : Traffic ν).stages moves, Untroubled t.world) {v : Visit ν}
    (mem : v ∈ (play world moves).visits) {r : TransferRequest} {inform : TransferResult → List ν}
    (wish : v.order.wish = .transfer r inform)
    (unhurried : Unhurried (momentsOf ((start world).stages moves)) v.order)
    {outcome : Except Error Receipt} (returned : v.outcome? = some outcome) :
    ∃ t ∈ (start world : Traffic ν).stages moves, ∃ times,
      outcome = (t.committed.transfer v.order.context.principal times r).map fun done =>
        .transfer done.1 := by
  let stages := (start world : Traffic ν).stages moves
  have first : (start world : Traffic ν) ∈ stages := start_mem_stages _ _
  have schema (l : Ledger) : ledgersOf stages l → l.WellFormed := by
    rintro ⟨t, mem, rfl⟩
    obtain ⟨log, consistent⟩ := consistent_of_stage mem
    obtain ⟨served, way, -⟩ := serves_of_consistent consistent
    exact wellFormed_of_along wf way
  have start : Accords (amongOthers (momentsOf stages) (ledgersOf stages))
      (keeping.committed world.data) (start world : Traffic ν) [] := accords_start world
  obtain ⟨log, accords⟩ := accords_moves moves start
    fun t mem => admits_amongOthers (sure t mem) ⟨t, mem, rfl⟩ ⟨t, mem, rfl⟩
  obtain ⟨n, found⟩ := List.mem_iff_getElem?.1 mem
  obtain ⟨past, s, run, way, -⟩ := run_of_onItsWay (accords.visits n v found) returned
  obtain ⟨result, ran, rfl⟩ := Order.runs_of_transfer wish run
  obtain ⟨b, times, passes, rfl, -⟩ := Coordinator.standing_in_company (fair_amongOthers schema)
    unhurried.reliable (schema _ ⟨_, first, rfl⟩) ran way
  obtain ⟨t, stage, rfl⟩ : ledgersOf stages b :=
    passes.elim (fun same => same ▸ ⟨_, first, rfl⟩) And.left
  refine ⟨t, stage, times, ?_⟩
  cases t.committed.transfer v.order.context.principal times r <;> rfl

end Traffic
end DoubleEntry
