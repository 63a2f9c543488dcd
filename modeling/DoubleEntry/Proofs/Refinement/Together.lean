import DoubleEntry.Proofs.Refinement.Work
import DoubleEntry.Proofs.Store.Alone
import DoubleEntry.Proofs.Time.Rfc3339

/-!
# Two procedures step by step

A procedure on the store in memory and one on the database run together: they take the same number
of steps, each on its own store and by its own clock, and what holds between the two sides before
holds between them afterwards in another form.  `Together` is a Hoare triple for the two of them;
the rules are those for the end, for one procedure after another, and for the steps.

Between requests the two sides are `Outside`: no transaction is open, and the tables show the
committed ledger.  In the middle of a transaction they are `Inside`: moreover the tables that the
transaction sees show the ledger that it has made.
-/

namespace DoubleEntry

/-- The clock shows a date whose year has four digits; texts of timestamps can carry no more. -/
def Moment.Dated (m : Moment) : Prop := (Timestamp.ofNanos m.now).date.year ≤ 9999

instance {m : Moment} : Decidable m.Dated :=
  inferInstanceAs (Decidable ((Timestamp.ofNanos m.now).date.year ≤ 9999))

/-- The same seat at another moment. -/
def Seat.at {σ τ ν : Type} (seat : Seat σ τ ν) (moment : Moment) : Seat σ τ ν :=
  { seat with world := { seat.world with moment } }

/-- The answers of a store when each step finds the moment that is due. -/
abbrev Store.performAt {σ τ ν : Type} (store : Store σ τ) (moments : Nat → Moment) :
    Program.Handler (Step.Answer (ν := ν)) (Seat σ τ ν × Nat) :=
  store.performAmid fun n w => { w with moment := moments n }

namespace Refinement

open Program Relational

variable {ν α β α' β' : Type} {m m' : Nat → Moment}

/-- What may hold between somebody at the store in memory and somebody at the database. -/
abbrev Between (ν : Type) : Type :=
  Seat Memory.State Ledger ν → Seat Relational.State Transaction ν → Prop

/-! ## Running together -/

/-- From `pre` on, two procedures take the same number of steps and end in `post`. -/
def Together (m m' : Nat → Moment) (pre : Between ν) (x : Procedure ν α) (x' : Procedure ν β)
    (post : α → β → Between ν) : Prop :=
  ∀ n seat seat', pre seat seat' → ∃ n₁ a b seat₁ seat₁',
    x.exec (Memory.store.performAt m) (seat, n) = (a, (seat₁, n₁)) ∧
    x'.exec (Relational.store.performAt m') (seat', n) = (b, (seat₁', n₁)) ∧ post a b seat₁ seat₁'

section Rules

variable {pre : Between ν} {x : Procedure ν α} {x' : Procedure ν β} {post : α → β → Between ν}

theorem together_done {a : α} {b : β} (holds : ∀ seat seat', pre seat seat' → post a b seat seat') :
    Together m m' pre (.done a) (.done b) post :=
  fun n seat seat' start => ⟨n, a, b, seat, seat', rfl, rfl, holds seat seat' start⟩

theorem Together.bind {f : α → Procedure ν α'} {f' : β → Procedure ν β'}
    {post' : α' → β' → Between ν} (first : Together m m' pre x x' post)
    (later : ∀ a b, Together m m' (post a b) (f a) (f' b) post') :
    Together m m' pre (x >>= f) (x' >>= f') post' := by
  intro n seat seat' start
  obtain ⟨n₁, a, b, seat₁, seat₁', ran, ran', between⟩ := first n seat seat' start
  obtain ⟨n₂, c, d, seat₂, seat₂', ended, ended', finish⟩ := later a b n₁ seat₁ seat₁' between
  refine ⟨n₂, c, d, seat₂, seat₂', ?_, ?_, finish⟩
  · rw [exec_bind, ran, ended]
  · rw [exec_bind, ran', ended']

/-! What is known before may be taken apart. -/

theorem together_of_pure {φ : Prop} (later : φ → Together m m' pre x x' post) :
    Together m m' (fun seat seat' => φ ∧ pre seat seat') x x' post :=
  fun n seat seat' start => later start.1 n seat seat' start.2

theorem together_of_exists {ι : Type} {I : ι → Between ν}
    (each : ∀ i, Together m m' (I i) x x' post) :
    Together m m' (fun seat seat' => ∃ i, I i seat seat') x x' post :=
  fun n seat seat' ⟨i, start⟩ => each i n seat seat' start

theorem together_of_or {pre' : Between ν} (first : Together m m' pre x x' post)
    (second : Together m m' pre' x x' post) :
    Together m m' (fun seat seat' => pre seat seat' ∨ pre' seat seat') x x' post :=
  fun n seat seat' start => start.elim (first n seat seat') (second n seat seat')

/-- A single step on each side. -/
theorem together_step {q q' : Step ν} {post : q.Answer → q'.Answer → Between ν}
    (taken : ∀ n seat seat', pre seat seat' → ∃ a b seat₁ seat₁',
      Memory.store.perform q (seat.at (m n)) = (a, seat₁) ∧
      Relational.store.perform q' (seat'.at (m' n)) = (b, seat₁') ∧ post a b seat₁ seat₁') :
    Together m m' pre (Procedure.step q) (Procedure.step q') post := by
  intro n seat seat' start
  obtain ⟨a, b, seat₁, seat₁', answered, answered', finish⟩ := taken n seat seat' start
  refine ⟨n + 1, a, b, seat₁, seat₁', ?_, ?_, finish⟩
  · show ((Memory.store.perform q (seat.at (m n))).1,
      ((Memory.store.perform q (seat.at (m n))).2, n + 1)) = _
    rw [answered]
  · show ((Relational.store.perform q' (seat'.at (m' n))).1,
      ((Relational.store.perform q' (seat'.at (m' n))).2, n + 1)) = _
    rw [answered']

end Rules

/-! ## The two sides -/

/-- The store in memory has no fault to come, and the tables of the database show its ledger. -/
structure Settled (p : Register) (l : Ledger) (s : Memory.State) (s' : Relational.State) :
    Prop where
  faultless : s.Faultless
  committed : s.committed = l
  shows : s'.tables.Shows p l s'.sequences

/-- No transaction is open. -/
structure Outside (p : Register) (l : Ledger) (seat : Seat Memory.State Ledger ν)
    (seat' : Seat Relational.State Transaction ν) : Prop where
  settled : Settled p l seat.world.data seat'.world.data
  shut : seat.transaction = none
  shut' : seat'.transaction = none

/-- A transaction is open that began on `l₀` and has come to `l`. -/
structure Inside (p₀ : Register) (l₀ : Ledger) (p : Register) (l : Ledger)
    (seat : Seat Memory.State Ledger ν) (seat' : Seat Relational.State Transaction ν) : Prop where
  settled : Settled p₀ l₀ seat.world.data seat'.world.data
  opened : seat.transaction = some l
  opened' : ∃ t wrote, seat'.transaction = some ⟨t, wrote⟩ ∧
    t.Shows p l seat'.world.data.sequences
  part : p₀ ≤ p

/-- Something that does not depend on what the clocks show. -/
def Still (I : Between ν) : Prop :=
  ∀ {seat seat'} k k', I seat seat' → I (seat.at k) (seat'.at k')

variable {p₀ p : Register} {l₀ l : Ledger}

theorem still_outside : Still (Outside p l : Between ν) :=
  fun _ _ outside => ⟨outside.settled, outside.shut, outside.shut'⟩

theorem still_inside : Still (Inside p₀ l₀ p l : Between ν) :=
  fun _ _ inside => ⟨inside.settled, inside.opened, inside.opened', inside.part⟩

/-! ## Steps -/

section Steps

variable {ctx ctx' : Context} {I : Between ν}

/-- Checks of the two contexts come out alike at every step. -/
def InStep (m m' : Nat → Moment) (ctx ctx' : Context) : Prop :=
  ∀ n, ctx'.check (m' n) = ctx.check (m n)

theorem together_check (still : Still I) (inStep : InStep m m' ctx ctx') :
    Together m m' I (Procedure.step (.check ctx)) (Procedure.step (.check ctx'))
      fun a b seat seat' => b = a ∧ I seat seat' :=
  together_step fun n _ _ start =>
    ⟨_, _, _, _, rfl, rfl, inStep n, still (m n) (m' n) start⟩

theorem together_wait (still : Still I) (d : Duration) :
    Together m m' I (Procedure.step (.wait d)) (Procedure.step (.wait d))
      fun _ _ seat seat' => I seat seat' :=
  together_step fun n _ _ start =>
    ⟨_, _, _, _, rfl, rfl, still _ _ (still (m n) (m' n) start)⟩

/-- Reading the clock, at the same step of the two runs. -/
theorem together_now (still : Still I) :
    Together m m' I (Procedure.step .now) (Procedure.step .now) fun a b seat seat' =>
      (∃ n, a = (m n).now ∧ b = (m' n).now) ∧ I seat seat' :=
  together_step fun n _ _ start =>
    ⟨_, _, _, _, rfl, rfl, ⟨n, rfl, rfl⟩, still (m n) (m' n) start⟩

/-- Notices go out and change nothing. -/
theorem together_notify (notice notice' : ν) :
    Together m m' (Outside p l : Between ν) (Procedure.step (.notify notice))
      (Procedure.step (.notify notice')) fun _ _ => Outside p l :=
  together_step fun _ _ _ start =>
    ⟨_, _, _, _, rfl, rfl, start.settled, start.shut, start.shut'⟩

theorem together_begin (inStep : InStep m m' ctx ctx') :
    Together m m' (Outside p l : Between ν) (Procedure.step (.begin ctx))
      (Procedure.step (.begin ctx')) fun a b seat seat' =>
        ((a = .ok () ∧ b = .ok ()) ∧ Inside p l p l seat seat') ∨
          ∃ e, (a = .error e ∧ b = .error e) ∧ Outside p l seat seat' := by
  refine together_step fun n seat seat' start => ?_
  obtain ⟨⟨faultless, committed, shows⟩, shut, shut'⟩ := start
  have same := inStep n
  cases checked : ctx.check (m n) with
  | error e =>
    rw [checked] at same
    refine ⟨.error e, .error e, seat.at (m n), seat'.at (m' n), ?_, ?_,
      .inr ⟨e, ⟨rfl, rfl⟩, ⟨faultless, committed, shows⟩, shut, shut'⟩⟩
    · simp [Store.perform, Seat.at, checked]
    · simp [Store.perform, Seat.at, same]
  | ok u =>
    rw [checked] at same
    refine ⟨.ok (), .ok (),
      ⟨⟨m n, { seat.world.data with begins := seat.world.data.begins + 1 }⟩,
        some seat.world.data.committed, seat.sent⟩,
      ⟨⟨m' n, seat'.world.data⟩, some ⟨seat'.world.data.tables, false⟩, seat'.sent⟩, ?_, ?_,
      .inl ⟨⟨rfl, rfl⟩, ?_⟩⟩
    · simp [Store.perform, Seat.at, checked, shut, Memory.store]
    · simp [Store.perform, Seat.at, same, shut', Relational.store]
    · exact ⟨⟨⟨faultless.commits, faultless.rollbacks, faultless.transfers⟩, committed, shows⟩,
        congrArg some committed, ⟨_, false, rfl, shows⟩, p.le_refl⟩

/-- A call inside the transaction.  If its context still allows it, it is carried out on both
sides. -/
theorem together_call {c c' : Call} {R : Register → Ledger → c.Answer → c'.Answer → Prop}
    (dated : ∀ n, (m' n).Dated) (inStep : InStep m m' ctx ctx')
    (corresponds : c.Corresponds p₀ p l c' R) :
    Together m m' (Inside p₀ l₀ p l : Between ν) (Procedure.step (.call ctx c))
      (Procedure.step (.call ctx' c')) fun o o' seat seat' => ∃ p' l',
        (p ≤ p' ∧ Outcome.Agrees p₀.pairing (R p' l') o o') ∧ Inside p₀ l₀ p' l' seat seat' := by
  refine together_step fun n seat seat' start => ?_
  obtain ⟨⟨faultless, committed, shows₀⟩, opened, ⟨t, wrote, opened', shows⟩, part⟩ := start
  have same := inStep n
  cases checked : ctx.check (m n) with
  | error e =>
    rw [checked] at same
    refine ⟨.error e, .error e, seat.at (m n), seat'.at (m' n), ?_, ?_,
      p, l, ⟨p.le_refl, .error (.same e)⟩, ?_⟩
    · simp [Store.perform, Seat.at, checked]
    · simp [Store.perform, Seat.at, same]
    · exact ⟨⟨faultless, committed, shows₀⟩, opened, ⟨t, wrote, opened', shows⟩, part⟩
  | ok u =>
    rw [checked] at same
    obtain ⟨⟨o, staged, w⟩, called⟩ : ∃ r, Memory.store.call c l ⟨m n, seat.world.data⟩ = r :=
      ⟨_, rfl⟩
    obtain ⟨⟨now, carried⟩, faultless', kept⟩ :=
      Memory.call_of_faultless (w := ⟨m n, seat.world.data⟩) faultless called
    obtain ⟨p', more, shows', agree⟩ : Follows p₀ p (seat'.world.data.sequences.draw c') R
        (Memory.onLedger now l c)
        (onTables (.ofNanos (m' n).now) (seat'.world.data.sequences.draw c') t c') :=
      follows_of_corresponds corresponds part shows (Rfc3339.parseStrict?_ofNanos (dated n))
    obtain ⟨⟨o', t'⟩, called'⟩ : ∃ r, onTables (.ofNanos (m' n).now)
        (seat'.world.data.sequences.draw c') t c' = r := ⟨_, rfl⟩
    rw [carried, called'] at shows' agree
    refine ⟨o, o', ⟨w, some staged, seat.sent⟩,
      ⟨⟨m' n, { seat'.world.data with sequences := seat'.world.data.sequences.draw c' }⟩,
        some ⟨t', wrote || (writes c' && o'.isOk)⟩, seat'.sent⟩, ?_, ?_,
      p', staged, ⟨more, agree⟩, ?_⟩
    · simp [Store.perform, Seat.at, checked, opened, called]
    · simp [Store.perform, Seat.at, same, opened', Relational.store, Relational.call, called']
    · exact ⟨⟨faultless', kept.trans committed, shows₀.draw c'⟩, rfl, ⟨t', _, rfl, shows'⟩,
        Register.le_trans part more⟩

/-- A commit makes what was done inside the transaction visible on both sides. -/
theorem together_commit :
    Together m m' (Inside p₀ l₀ p l : Between ν) (Procedure.step .commit) (Procedure.step .commit)
      fun a b seat seat' => (a = .ok () ∧ b = .ok () ∧ p₀ ≤ p) ∧ Outside p l seat seat' := by
  refine together_step fun n seat seat' start => ?_
  obtain ⟨⟨faultless, committed, -⟩, opened, ⟨t, wrote, opened', shows⟩, part⟩ := start
  refine ⟨.ok (), .ok (), ⟨⟨m n, { seat.world.data with committed := l }⟩, none, seat.sent⟩,
    ⟨⟨m' n, ⟨t, seat'.world.data.sequences, seat'.world.data.written || wrote⟩⟩, none, seat'.sent⟩,
    ?_, ?_, ⟨rfl, rfl, part⟩, ?_⟩
  · simp [Store.perform, Seat.at, opened, Memory.store, Memory.commit, faultless.commits]
  · simp [Store.perform, Seat.at, opened', Relational.store, Relational.commit]
  · exact ⟨⟨⟨faultless.commits, faultless.rollbacks, faultless.transfers⟩, rfl, shows⟩, rfl, rfl⟩

/-- A rollback goes back to where the transaction began; only the sequences have moved on. -/
theorem together_rollback :
    Together m m' (Inside p₀ l₀ p l : Between ν) (Procedure.step .rollback)
      (Procedure.step .rollback) fun a b seat seat' =>
        (a = .ok () ∧ b = .ok ()) ∧ Outside p₀ l₀ seat seat' := by
  refine together_step fun n seat seat' start => ?_
  obtain ⟨settled, opened, ⟨t, wrote, opened', -⟩, -⟩ := start
  refine ⟨.ok (), .ok (), ⟨⟨m n, seat.world.data⟩, none, seat.sent⟩,
    ⟨⟨m' n, seat'.world.data⟩, none, seat'.sent⟩, ?_, ?_, ⟨rfl, rfl⟩, settled, rfl, rfl⟩
  · simp [Store.perform, Seat.at, opened, Memory.store, Memory.rollback,
      settled.faultless.rollbacks]
  · simp [Store.perform, Seat.at, opened', Relational.store]

end Steps
end Refinement
end DoubleEntry
