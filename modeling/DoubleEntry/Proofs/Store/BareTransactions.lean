import DoubleEntry.Proofs.Ledger.Constraints

/-!
# Bare transactions on the store in memory

Without a coordinator, whoever holds a transaction may make any calls on it, go on after failures,
and commit it, roll it back or drop it; commits and rollbacks may be made to fail.  A `Deed` is one
such step, and `Bare.doAll` what some deeds come to.  `Bare.constraints_hold` says that at every
moment the shared ledger and the private copy of the open transaction keep the constraints of the
tables, and that nothing that was ever committed is taken back.
-/

namespace DoubleEntry.Memory

/-- A step on the store in memory by somebody without a coordinator.  Around it anything may happen
but a commit: the clock moves, and the store is told to fail. -/
inductive Deed where
  | begin
  | call (c : Call)
  | commit
  | rollback
  | drop
  | stir (change : World State → World State)
      (spares : ∀ w, (change w).data.committed = w.data.committed)

/-- A store in use: the world, and the private copy of the open transaction. -/
structure Bare where
  world : World State
  staged : Option Ledger

namespace Bare

/-- The ledger that all transactions share. -/
def committed (b : Bare) : Ledger := b.world.data.committed

/-- A store without accounts, not in use. -/
def fresh (moment : Moment) : Bare := ⟨⟨moment, .empty⟩, none⟩

/-- What a deed does.  A transaction begins only if no other one is open, and the other deeds with
transactions need one. -/
def perform (b : Bare) : Deed → Bare
  | .begin => match b.staged with
    | some _ => b
    | none => match store.begin b.world with
      | (.ok tx, world) => ⟨world, some tx⟩
      | (.error _, world) => ⟨world, none⟩
  | .call c => match b.staged with
    | some tx => ⟨(store.call c tx b.world).2.2, some (store.call c tx b.world).2.1⟩
    | none => b
  | .commit => match b.staged with
    | some tx => ⟨(store.commit tx b.world).2, none⟩
    | none => b
  | .rollback => match b.staged with
    | some tx => ⟨(store.rollback tx b.world).2, none⟩
    | none => b
  | .drop => match b.staged with
    | some tx => ⟨store.release tx b.world, none⟩
    | none => b
  | .stir change _ => { b with world := change b.world }

/-- What some deeds come to, one after the other. -/
def doAll (b : Bare) (deeds : List Deed) : Bare := deeds.foldl perform b

/-- The shared ledger and the private copy keep the constraints of the tables. -/
structure Sound (b : Bare) : Prop where
  shared : b.committed.Constrained
  private_copy : ∀ l ∈ b.staged, l.Constrained

/-- Nothing of a ledger is taken back in the shared ledger or in the private copy. -/
structure Retains (b : Bare) (l : Ledger) : Prop where
  shared : l.GrowsTo b.committed
  private_copy : ∀ l' ∈ b.staged, l.GrowsTo l'

variable {b : Bare} {l : Ledger}

theorem sound_fresh (moment : Moment) : (fresh moment).Sound :=
  ⟨Ledger.constrained_empty, nofun⟩

theorem call_cases (c : Call) (staged : Ledger) (w : World State) :
    (store.call c staged w).2.2.data.committed = w.data.committed ∧
      ((store.call c staged w).2.1 = staged ∨
        ∃ now, (store.call c staged w).2.1 = (onLedger now staged c).2) := by
  have spares : (w.data.note c).committed = w.data.committed := by cases c <;> rfl
  show (Memory.call c staged w).2.2.data.committed = _ ∧ _
  simp only [store, Memory.call]
  split
  · exact ⟨spares, .inl rfl⟩
  · exact ⟨spares, .inr ⟨_, rfl⟩⟩

theorem commit_cases (staged : Ledger) (w : World State) :
    (store.commit staged w).2.data.committed = staged ∨
      (store.commit staged w).2.data.committed = w.data.committed := by
  simp only [store, Memory.commit]
  split
  · exact .inr rfl
  · exact .inl rfl

/-- Something that holds of the shared ledger and of the private copy. -/
structure Holds (P : Ledger → Prop) (b : Bare) : Prop where
  shared : P b.committed
  private_copy : ∀ l ∈ b.staged, P l

section Deeds

variable {P : Ledger → Prop}

/-- A deed keeps what the call keeps that it makes, if any. -/
theorem Holds.perform (holds : b.Holds P) (deed : Deed)
    (kept : ∀ now l c, deed = .call c → P l → P (onLedger now l c).2) :
    (b.perform deed).Holds P := by
  obtain ⟨world, staged⟩ := b
  obtain ⟨shared, copy⟩ := holds
  cases deed with
  | begin =>
    cases staged with
    | some tx => exact ⟨shared, copy⟩
    | none =>
      -- The private copy starts out as the shared ledger.
      refine ⟨shared, ?_⟩
      rintro _ ⟨⟩
      exact shared
  | call c =>
    cases staged with
    | none => exact ⟨shared, copy⟩
    | some tx =>
      obtain ⟨spares, called⟩ := call_cases c tx world
      have same : (Bare.perform ⟨world, some tx⟩ (.call c)).committed = world.data.committed :=
        spares
      refine ⟨same.symm ▸ shared, ?_⟩
      rintro _ ⟨⟩
      rcases called with same | ⟨now, changed⟩
      · exact same.symm ▸ copy tx rfl
      · exact changed.symm ▸ kept now tx c rfl (copy tx rfl)
  | commit =>
    cases staged with
    | none => exact ⟨shared, copy⟩
    | some tx =>
      have ended : (Bare.perform ⟨world, some tx⟩ .commit).committed = tx ∨
          (Bare.perform ⟨world, some tx⟩ .commit).committed = world.data.committed :=
        commit_cases tx world
      rcases ended with published | conflict
      · exact ⟨published.symm ▸ copy tx rfl, nofun⟩
      · exact ⟨conflict.symm ▸ shared, nofun⟩
  | rollback | drop =>
    cases staged with
    | none => exact ⟨shared, copy⟩
    | some tx => exact ⟨shared, nofun⟩
  | stir change spares =>
    have same : (Bare.perform ⟨world, staged⟩ (.stir change spares)).committed =
        world.data.committed := spares world
    exact ⟨same.symm ▸ shared, copy⟩

/-- Deeds keep what the calls keep that they make. -/
theorem Holds.doAll (holds : b.Holds P) (deeds : List Deed)
    (kept : ∀ now l c, .call c ∈ deeds → P l → P (onLedger now l c).2) : (b.doAll deeds).Holds P :=
  List.foldlRecOn deeds Bare.perform holds fun _ holds deed mem =>
    holds.perform deed fun now l c same => kept now l c (same ▸ mem)

end Deeds

/-- A deed keeps the shared ledger and the private copy sound, and retains what they retained. -/
theorem sound_perform (sound : b.Sound) (retains : b.Retains l) (deed : Deed) :
    (b.perform deed).Sound ∧ (b.perform deed).Retains l := by
  have holds : b.Holds fun l' => l'.Constrained ∧ l.GrowsTo l' :=
    ⟨⟨sound.shared, retains.shared⟩,
      fun l' mem => ⟨sound.private_copy l' mem, retains.private_copy l' mem⟩⟩
  obtain ⟨shared, copy⟩ := holds.perform deed fun now l' c _ ⟨sound, grown⟩ =>
    ⟨sound.onLedger now c, grown.trans (Ledger.growsTo_onLedger now l' c)⟩
  exact ⟨⟨shared.1, fun l' mem => (copy l' mem).1⟩, ⟨shared.2, fun l' mem => (copy l' mem).2⟩⟩

theorem sound_doAll (deeds : List Deed) (sound : b.Sound) (retains : b.Retains l) :
    (b.doAll deeds).Sound ∧ (b.doAll deeds).Retains l := by
  induction deeds generalizing b with
  | nil => exact ⟨sound, retains⟩
  | cons deed rest ih =>
    obtain ⟨sound, retains⟩ := sound_perform sound retains deed
    exact ih sound retains

/-- A deed leaves the shared ledger alone, or ends the transaction. -/
theorem committed_perform (b : Bare) (deed : Deed) :
    (b.perform deed).committed = b.committed ∨ (b.perform deed).staged = none := by
  obtain ⟨world, staged⟩ := b
  cases deed with
  | stir change spares => exact .inl (spares world)
  | begin => cases staged <;> exact .inl rfl
  | call c =>
    cases staged with
    | none => exact .inl rfl
    | some tx => exact .inl (call_cases c tx world).1
  | commit | rollback | drop => cases staged <;> exact .inr rfl

/-- What is committed is retained from then on, also by the transaction that is open already. -/
theorem retains_perform (sound : b.Sound) (ahead : b.Retains b.committed) (deed : Deed) :
    (b.perform deed).Retains (b.perform deed).committed := by
  rcases committed_perform b deed with same | ended
  · rw [same]
    exact (sound_perform sound ahead deed).2
  · refine ⟨.refl _, ?_⟩
    rw [ended]
    exact nofun

theorem sound_of_fresh (moment : Moment) (deeds : List Deed) :
    ((fresh moment).doAll deeds).Sound ∧
      ((fresh moment).doAll deeds).Retains ((fresh moment).doAll deeds).committed := by
  have start : (fresh moment).Sound ∧ (fresh moment).Retains (fresh moment).committed :=
    ⟨sound_fresh moment, .refl _, nofun⟩
  generalize fresh moment = b at start ⊢
  induction deeds generalizing b with
  | nil => exact start
  | cons deed rest ih =>
    obtain ⟨sound, ahead⟩ := start
    exact ih _ ⟨(sound_perform sound ahead deed).1, retains_perform sound ahead deed⟩

/-- **The constraints hold at every moment**, and what was committed at some earlier moment is still
there. -/
theorem constraints_hold (moment : Moment) (earlier later : List Deed) :
    let before := (fresh moment).doAll earlier
    let now := before.doAll later
    now.Sound ∧ now.Retains before.committed := by
  intro before now
  obtain ⟨sound, ahead⟩ := sound_of_fresh moment earlier
  exact sound_doAll later sound ahead

end Bare
end DoubleEntry.Memory
