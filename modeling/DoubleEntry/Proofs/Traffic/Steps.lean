import DoubleEntry.Proofs.Traffic.Schedule

/-!
# Steps of a visit

Each step that a visit takes at the store is one of a client in a crowd: `Traffic.follows_answer?`
says so, for a visit that performs its step as well as for one that enters after a wait.  Among all
of them only a commit that succeeds changes the committed ledger, and only a visit that found no
other transaction open ends up with one.
-/

namespace DoubleEntry.Traffic

open Program Store

variable {ν : Type} {seat seat' : Seat (Faults.State Memory.State) Ledger ν} {s : Standing ν}
  {q : Step ν} {answer : q.Answer}

/-- What a visit knows of the store is how it is, or how it was. -/
structure Mirrors (seat : Seat (Faults.State Memory.State) Ledger ν) (s : Standing ν) : Prop where
  seen : s.seen.PersistsIn (keeping.ledger seat)
  opened : s.opened = seat.transaction.map fun tx => (keeping.ledger seat, tx)
  staged : ∀ tx, seat.transaction = some tx → (keeping.ledger seat).PersistsIn tx

theorem Mirrors.opened_of_held {tx : Ledger} (mirrors : Mirrors seat s)
    (held : seat.transaction = some tx) : s.opened = some (keeping.ledger seat, tx) := by
  rw [mirrors.opened, held]
  rfl

/-- A visit without a transaction has nothing to let go of. -/
theorem Mirrors.outside (mirrors : Mirrors seat s) (shut : seat.transaction = none) :
    Mirrors seat { s with opened := none } := by
  refine ⟨mirrors.seen, ?_, mirrors.staged⟩
  rw [shut]
  rfl

/-- A visit that has ended its transaction without publishing anything. -/
theorem Mirrors.ended {w : World (Faults.State Memory.State)} {sent : List ν}
    (mirrors : Mirrors seat s) (same : keeping.committed w.data = keeping.ledger seat) :
    Mirrors ⟨w, none, sent⟩ { s with opened := none } := by
  have same' : keeping.ledger ⟨w, none, sent⟩ = keeping.ledger seat := same
  refine ⟨?_, rfl, ?_⟩
  · rw [same']
    exact mirrors.seen
  · rintro _ ⟨⟩

/-- A step of a visit is one of a client in a crowd. -/
structure Follows (seat : Seat (Faults.State Memory.State) Ledger ν) (s : Standing ν) (q : Step ν)
    (answer : q.Answer) (seat' : Seat (Faults.State Memory.State) Ledger ν) (s' : Standing ν) :
    Prop where
  taken : s.Takes Order.crowded q answer s'
  mirrors : Mirrors seat' s'
  sent : s'.sent = s.sent ++ seat'.sent.reverse
  published : s'.published = s.published ++
    if isPublication ⟨q, answer⟩ then [(keeping.ledger seat, keeping.ledger seat')] else []

/-- A step that neither publishes nor sends anything. -/
theorem Follows.still {s' : Standing ν} (unsent : seat'.sent = [])
    (taken : s.Takes Order.crowded q answer s') (mirrors : Mirrors seat' s')
    (sent : s'.sent = s.sent) (published : s'.published = s.published)
    (unpublished : isPublication ⟨q, answer⟩ = false) : Follows seat s q answer seat' s' := by
  refine ⟨taken, mirrors, ?_, ?_⟩
  · rw [sent, unsent]
    exact (List.append_nil _).symm
  · rw [published, unpublished]
    exact (List.append_nil _).symm

theorem carriesOut_of_call {c : Call} {tx tx' : Ledger} {outcome : c.Outcome}
    {w w' : World (Faults.State Memory.State)} (called : store.call c tx w = (outcome, tx', w')) :
    tx.CarriesOutAmidFaults c outcome tx' := by
  obtain ⟨outcome', w₁, eq, -, feigned⟩ | ⟨w₁, -, eq⟩ := Faults.call_cases Memory.store c tx w
  · cases eq.symm.trans called
    exact .inr ⟨feigned, rfl⟩
  · obtain ⟨rfl, changed⟩ := Prod.mk.inj (eq.symm.trans called)
    obtain ⟨rfl, -⟩ := Prod.mk.inj changed
    simp only [Memory.store, Memory.call]
    split
    · exact .inr ⟨.inl ⟨_, rfl⟩, rfl⟩
    · exact .inl ⟨_, rfl⟩

/-- A visit that enters begins on the committed ledger, or has no transaction. -/
theorem follows_enter {ctx : Context} {answer : Except Error Unit} (mirrors : Mirrors seat s)
    (unsent : seat.sent = []) (entered : store.enter seat = (answer, seat')) :
    ∃ s', Follows seat s (.begin ctx) answer seat' s' := by
  unfold enter at entered
  split at entered
  · rename_i tx w begun
    cases entered
    have same : keeping.ledger ⟨w, some tx, seat.sent⟩ = keeping.ledger seat :=
      Keeping.committed_begin begun
    have fresh : tx = keeping.ledger seat :=
      (keeping.begin_ok begun).trans (Keeping.committed_freed seat)
    refine ⟨{ s with seen := tx, opened := some (tx, tx) },
      .still unsent ⟨tx, ?_, rfl⟩ ⟨?_, ?_, ?_⟩ rfl rfl rfl⟩
    · rw [fresh]
      exact mirrors.seen
    · rw [same, fresh]
      exact .refl _
    · rw [same, fresh]
      rfl
    · rintro _ ⟨⟩
      rw [same, fresh]
      exact .refl _
  · rename_i e w begun
    cases entered
    have same : keeping.committed w.data = keeping.ledger seat := Keeping.committed_begin begun
    exact ⟨_, .still unsent ⟨trivial, .inr rfl⟩ (mirrors.ended same) rfl rfl rfl⟩

/-- In a crowd, any call may fail. -/
theorem takes_failed (s : Standing ν) (ctx : Context) (c : Call) (e : Error) :
    s.Takes Order.crowded (.call ctx c) (.error e) s := by
  obtain ⟨seen, opened, published, sent⟩ := s
  rcases opened with _ | ⟨b, l⟩
  · exact ⟨⟨e, rfl⟩, rfl⟩
  · exact ⟨l, .inr ⟨.inl ⟨e, rfl⟩, rfl⟩, rfl⟩

theorem follows_call {ctx : Context} {c : Call} {outcome : c.Outcome} (mirrors : Mirrors seat s)
    (unsent : seat.sent = []) (taken : store.perform (.call ctx c) seat = (outcome, seat')) :
    ∃ s', Follows seat s (.call ctx c) outcome seat' s' := by
  obtain ⟨e, -, rfl, rfl⟩ | ⟨-, rfl, rfl⟩ | ⟨tx, tx', w, held, called, rfl⟩ := perform_call taken
  · exact ⟨s, .still unsent (takes_failed ..) mirrors rfl rfl rfl⟩
  · exact ⟨s, .still unsent (takes_failed ..) mirrors rfl rfl rfl⟩
  · have kept := keeping.call_keeps c tx seat.world
    rw [called] at kept
    have same : keeping.ledger ⟨w, some tx', seat.sent⟩ = keeping.ledger seat := kept
    have carried := carriesOut_of_call called
    have opened := mirrors.opened_of_held held
    refine ⟨{ s with opened := some (keeping.ledger seat, tx') },
      .still unsent ?_ ⟨?_, ?_, ?_⟩ rfl rfl rfl⟩
    · simp only [Standing.Takes, opened]
      exact ⟨tx', carried, rfl⟩
    · rw [same]
      exact mirrors.seen
    · rw [same]
      rfl
    · rintro _ ⟨⟩
      rw [same]
      exact (mirrors.staged tx held).trans carried.persists

theorem follows_commit {answer : Except Error Unit} (mirrors : Mirrors seat s)
    (unsent : seat.sent = []) (taken : store.perform .commit seat = (answer, seat')) :
    ∃ s', Follows seat s .commit answer seat' s' := by
  obtain ⟨shut, rfl, rfl⟩ | ⟨tx, w, held, ended, rfl⟩ := perform_commit taken
  · exact ⟨_, .still unsent ⟨.inr trivial, rfl⟩ (mirrors.outside shut) rfl rfl rfl⟩
  · rcases answer with e | ⟨⟩
    · have same := keeping.commit_error ended
      exact ⟨_, .still unsent ⟨.inr trivial, rfl⟩ (mirrors.ended same) rfl rfl rfl⟩
    · have published : keeping.ledger ⟨w, none, seat.sent⟩ = tx := keeping.commit_ok ended
      refine ⟨_, ⟨_, _, mirrors.opened_of_held held, rfl⟩, ⟨?_, rfl, ?_⟩, ?_, ?_⟩
      · rw [published]
        exact .refl _
      · rintro _ ⟨⟩
      · rw [unsent]
        exact (List.append_nil _).symm
      · rw [published]
        rfl

theorem follows_rollback {answer : Except Error Unit} (mirrors : Mirrors seat s)
    (unsent : seat.sent = []) (taken : store.perform .rollback seat = (answer, seat')) :
    ∃ s', Follows seat s .rollback answer seat' s' := by
  obtain ⟨shut, rfl, rfl⟩ | ⟨tx, w, -, ended, rfl⟩ := perform_rollback taken
  · exact ⟨_, .still unsent ⟨.inr (.inr trivial), rfl⟩ (mirrors.outside shut) rfl rfl rfl⟩
  · have same := keeping.rollback_keeps tx seat.world
    rw [ended] at same
    exact ⟨_, .still unsent ⟨.inr (.inr trivial), rfl⟩ (mirrors.ended same) rfl rfl rfl⟩

theorem follows_perform (mirrors : Mirrors seat s) (unsent : seat.sent = [])
    (taken : store.perform q seat = (answer, seat')) : ∃ s', Follows seat s q answer seat' s' := by
  cases q with
  | now =>
    cases taken
    exact ⟨s, .still unsent ⟨trivial, rfl⟩ mirrors rfl rfl rfl⟩
  | check ctx =>
    cases taken
    exact ⟨s, .still unsent ⟨.inr trivial, rfl⟩ mirrors rfl rfl rfl⟩
  | wait d | cancel token =>
    cases taken
    exact ⟨s, .still unsent rfl ⟨mirrors.seen, mirrors.opened, mirrors.staged⟩ rfl rfl rfl⟩
  | notify notice =>
    cases taken
    refine ⟨_, rfl, ⟨mirrors.seen, mirrors.opened, mirrors.staged⟩, ?_, (List.append_nil _).symm⟩
    rw [unsent]
    rfl
  | begin ctx =>
    rw [perform_begin_eq] at taken
    split at taken
    · cases taken
      exact ⟨s, .still unsent ⟨trivial, .inl rfl⟩ mirrors rfl rfl rfl⟩
    · exact follows_enter mirrors unsent taken
  | call ctx c => exact follows_call mirrors unsent taken
  | commit => exact follows_commit mirrors unsent taken
  | rollback => exact follows_rollback mirrors unsent taken

/-! ## Waiting or not -/

section Answers

variable {t : Traffic ν} {n : Nat} {queued : Bool}

/-- A visit that does not have to wait performs its step, or enters if no other visit holds a
transaction. -/
theorem of_answer? {P : (q : Step ν) → q.Answer → Seat (Faults.State Memory.State) Ledger ν → Prop}
    (performed : ∀ q answer seat', store.perform q (t.seat n) = (answer, seat') →
      isOpening ⟨q, answer⟩ = false → P q answer seat')
    (entered : t.Free n → ∀ ctx answer seat', store.enter (t.seat n) = (answer, seat') →
      P (.begin ctx) answer seat')
    (answered : t.answer? n queued q = some (answer, seat')) : P q answer seat' := by
  cases q with
  | begin ctx =>
    simp only [answer?] at answered
    split at answered
    · split at answered
      · rename_i free
        exact entered free ctx answer seat' (Option.some.inj answered)
      · cases answered
    · split at answered
      · rename_i e late
        cases answered
        refine performed _ _ _ ?_ rfl
        rw [perform_begin_eq, show ctx.check (t.seat n).world.moment = .error e from late]
      · cases answered
  | now | check ctx | call ctx c | commit | rollback | wait d | cancel token | notify notice =>
    exact performed _ _ _ (Option.some.inj answered) rfl

theorem follows_answer? (mirrors : Mirrors (t.seat n) s)
    (answered : t.answer? n queued q = some (answer, seat')) :
    ∃ s', Follows (t.seat n) s q answer seat' s' :=
  of_answer? (P := fun q answer seat' => ∃ s', Follows (t.seat n) s q answer seat' s')
    (fun _ _ _ taken _ => follows_perform mirrors rfl taken)
    (fun _ _ _ _ entered => follows_enter mirrors rfl entered) answered

/-- Only a commit that succeeds changes the committed ledger. -/
theorem ledger_of_answer? (answered : t.answer? n queued q = some (answer, seat'))
    (unpublished : isPublication ⟨q, answer⟩ = false) : keeping.ledger seat' = t.committed := by
  refine of_answer? (P := fun q answer seat' => isPublication ⟨q, answer⟩ = false →
    keeping.ledger seat' = t.committed) ?_ ?_ answered unpublished
  · intro q answer seat' taken _ unpublished
    cases q with
    | notify notice =>
      cases taken
      rfl
    | commit =>
      rcases answer with e | ⟨⟩
      · exact (Keeping.perform_of_not_lasting taken id).1
      · cases unpublished
    | now | check ctx | begin ctx | call ctx c | rollback | wait d | cancel token =>
      exact (Keeping.perform_of_not_lasting taken id).1
  · intro free ctx answer seat' entered _
    unfold enter at entered
    split at entered <;> rename_i begun <;> cases entered <;> exact Keeping.committed_begin begun

/-- A visit has a transaction after a step only if no other visit holds one. -/
theorem free_of_answer? {tx : Ledger} (answered : t.answer? n queued q = some (answer, seat'))
    (held : seat'.transaction = some tx) : t.Free n := by
  refine of_answer? (P := fun _ _ seat' => seat'.transaction = some tx → t.Free n) ?_
    (fun free _ _ _ _ _ => free) answered held
  intro q answer seat' taken unopened held h mem
  have own : ¬ (t.seat n).transaction = none := by
    intro shut
    have taken' : store.Takes Eq (t.seat n) q answer seat' := ⟨_, rfl, taken⟩
    cases (takes_of_not_opening taken' unopened shut).symm.trans held
  by_contra other
  refine own ?_
  rw [seat, Traffic.own, Option.mem_def.1 mem, Option.filter_some, if_neg (by simpa using other)]
  rfl

/-- A commit that succeeds publishes the transaction of the visit. -/
theorem published_of_answer? (answered : t.answer? n queued q = some (answer, seat'))
    (published : isPublication ⟨q, answer⟩ = true) : t.own n = some (keeping.ledger seat') := by
  refine of_answer? (P := fun q answer seat' => isPublication ⟨q, answer⟩ = true →
    t.own n = some (keeping.ledger seat')) ?_ (fun _ _ _ _ _ published => nomatch published)
    answered published
  intro q answer seat' taken _ published
  cases q with
  | commit =>
    rcases answer with e | ⟨⟩
    · cases published
    · obtain ⟨staged, -⟩ := keeping.perform_commit_ok taken
      exact (Option.map_id_apply.symm).trans staged
  | now | check ctx | begin ctx | call ctx c | rollback | wait d | cancel token | notify notice =>
    cases published

/-- The committed ledger goes on in the one a step leaves, a commit's ledger being staged on it. -/
theorem Mirrors.grows (mirrors : Mirrors (t.seat n) s)
    (answered : t.answer? n queued q = some (answer, seat')) :
    t.committed.PersistsIn (keeping.ledger seat') := by
  cases published : isPublication ⟨q, answer⟩ with
  | true => exact mirrors.staged _ (published_of_answer? answered published)
  | false =>
    have kept : keeping.ledger seat' = t.committed := ledger_of_answer? answered published
    exact kept ▸ .refl _

end Answers

/-! ## Who holds the transaction -/

section Holders

variable {t t' : Traffic ν} {n m : Nat} {tx : Ledger} {v : Visit ν} {e : (q : Step ν) × q.Answer}
  {held : Option Ledger}

/-- Who holds the transaction when a step of a visit has left it with this one, if any. -/
def holderAfter (t : Traffic ν) (n : Nat) : Option Ledger → Option (Nat × Ledger)
  | some tx => some (n, tx)
  | none => if t.Free n then none else t.holder

theorem own_eq_some : t.own n = some tx ↔ t.holder = some (n, tx) := by
  unfold own
  cases t.holder with
  | none => simp
  | some h =>
    obtain ⟨m, tx'⟩ := h
    simp [Option.filter_some, Prod.ext_iff]

/-- Nobody holds a transaction if neither the visit nor any other does. -/
theorem holder_eq_none (free : t.Free n) (own : t.own n = none) : t.holder = none := by
  cases held : t.holder with
  | none => rfl
  | some h =>
    obtain ⟨m, tx⟩ := h
    obtain rfl : m = n := free _ held
    cases own.symm.trans (own_eq_some.2 held)

theorem own_of_holderAfter_self (holder : t'.holder = t.holderAfter n held) :
    t'.own n = held := by
  cases held with
  | some tx => exact own_eq_some.2 holder
  | none =>
    by_contra some
    obtain ⟨tx, own⟩ := Option.ne_none_iff_exists'.1 some
    have holder' := holder.symm.trans (own_eq_some.1 own)
    simp only [holderAfter] at holder'
    split at holder'
    · cases holder'
    · rename_i other
      exact other (by simp [Free, holder'])

theorem own_of_holderAfter_other (holder : t'.holder = t.holderAfter n held) (other : m ≠ n)
    (alone : ∀ tx, held = some tx → t.Free n) : t'.own m = t.own m := by
  have unheld (free : t.Free n) (tx : Ledger) : ¬ t.holder = some (m, tx) :=
    fun holder => other (free _ holder)
  ext tx
  rw [own_eq_some, own_eq_some, holder]
  cases held with
  | some tx' => simp [holderAfter, unheld (alone tx' rfl), Ne.symm other]
  | none => by_cases free : t.Free n <;> simp [holderAfter, free, unheld]

theorem holder_after : (t.after n v e seat').holder = t.holderAfter n seat'.transaction := by
  cases held : seat'.transaction <;> simp only [after, holderAfter, held]

/-- After its step, a visit has the transaction that the step left it with. -/
theorem own_after_self : (t.after n v e seat').own n = seat'.transaction :=
  own_of_holderAfter_self holder_after

/-- A step of one visit takes nothing from another. -/
theorem own_after_other (other : m ≠ n) (alone : ∀ tx, seat'.transaction = some tx → t.Free n) :
    (t.after n v e seat').own m = t.own m :=
  own_of_holderAfter_other holder_after other alone

/-- Where a step has left a visit, there it stands afterwards. -/
theorem Mirrors.seated (mirrors : Mirrors seat' s) (world : t'.world = seat'.world)
    (own : t'.own n = seat'.transaction) : Mirrors (t'.seat n) s := by
  have ledger : keeping.ledger (t'.seat n) = keeping.ledger seat' := by
    rw [Keeping.ledger, seat, world]
    rfl
  obtain ⟨seen, opened, staged⟩ := mirrors
  refine ⟨ledger ▸ seen, ?_, fun tx held => ?_⟩
  · rw [ledger, opened]
    exact congrArg (Option.map _) own.symm
  · rw [ledger]
    exact staged tx (own.symm.trans held)

/-- A visit that has not moved still knows how the store is, or how it was, if nothing was committed
while it had a transaction. -/
theorem Mirrors.unmoved (mirrors : Mirrors (t.seat n) s) (own : t'.own n = t.own n)
    (grows : t.committed.PersistsIn t'.committed)
    (kept : ∀ tx, t.own n = some tx → t'.committed = t.committed) : Mirrors (t'.seat n) s := by
  obtain ⟨seen, opened, staged⟩ := mirrors
  refine ⟨seen.trans grows, ?_, fun tx held => ?_⟩
  · show s.opened = (t'.own n).map fun tx => (t'.committed, tx)
    rw [opened, own]
    show (t.own n).map (fun tx => (t.committed, tx)) = _
    cases held : t.own n with
    | none => rfl
    | some tx => rw [kept tx held]
  · have held : t.own n = some tx := own.symm.trans held
    show t'.committed.PersistsIn tx
    rw [kept tx held]
    exact staged tx held

end Holders

end DoubleEntry.Traffic
