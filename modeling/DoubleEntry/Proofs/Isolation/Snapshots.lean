import DoubleEntry.Proofs.Isolation.Sharing

/-!
# Isolated transactions

A commit puts a private copy in the place of the whole shared ledger.  That it takes nothing away is
due to the lock for writers, which is held from before the copy is taken until after it is published
or thrown away, on every path.

* `Sharing.Coherent` — the invariant: only the client that holds the lock is anywhere but outside;
  the shared ledger is what published writes make of the ledger at the start; and the private copy
  is what the client should see, with nothing published since the copy was taken.
* `Sharing.play_isolated` — **transactions are isolated**, whatever the schedule and however they
  end: every answer is the one of the ledger committed before the begin with the client's own
  writes, nothing that was not committed is seen by others, and a commit that succeeds adds to what
  others have committed.
-/

namespace DoubleEntry.Memory

open Function

variable {initial : Ledger}

/-! ## What a history should say -/

/-- What happens to a transaction fits the story so far.  A call is answered by what the client
should see; a fault may come in between, but not if the call only looks.  When a transaction is
published, nothing was published since it began. -/
def Event.Fits (initial : Ledger) (s : Story) : Event → Prop
  | .began _ => True
  | .called n now c outcome =>
    outcome = (onLedger now (replay initial (s.seen n)) c).1 ∨ ¬ c.Looks ∧ ∃ e, outcome = .error e
  | .ended n true => s.published = s.base n
  | .ended _ false => True

/-- Everything in a history fits what was before. -/
def Accurate (initial : Ledger) (history : List Event) : Prop :=
  ∀ earlier e later, history = earlier ++ e :: later → e.Fits initial (.of earlier)

theorem Accurate.concat {history : List Event} {e : Event} (accurate : Accurate initial history)
    (fits : e.Fits initial (.of history)) : Accurate initial (history ++ [e]) := by
  intro earlier e' later split
  rcases List.eq_nil_or_concat later with rfl | ⟨rest, last, rfl⟩
  · obtain ⟨rfl, same⟩ := List.append_inj' split rfl
    cases same
    exact fits
  · rw [List.concat_eq_append, ← List.cons_append, ← List.append_assoc] at split
    obtain ⟨same, -⟩ := List.append_inj' split rfl
    exact accurate earlier e' rest same

/-! ## Steps on a private copy -/

/-- A call is answered by the private copy or by a fault, and the copy changes by what counts as a
write in the story. -/
theorem call_follows {s : Story} {n : Nat} {copy : Ledger} (view : copy = replay initial (s.seen n))
    (c : Call) (w : World State) :
    let e : Event := .called n (.ofNanos w.moment.now) c (store.call c copy w).1
    e.Fits initial s ∧ (store.call c copy w).2.2.data.committed = w.data.committed ∧
      (store.call c copy w).2.1 = replay initial ((s.next e).seen n) := by
  have spares : (w.data.note c).committed = w.data.committed := by cases c <;> rfl
  simp only [store, Memory.call]
  split
  · rename_i e due
    have writes : ¬ c.Looks := by
      intro looks
      cases c <;> first | exact looks.elim | cases due
    exact ⟨.inr ⟨writes, e, rfl⟩, spares, view⟩
  · refine ⟨.inl (by rw [view]), spares, ?_⟩
    cases answered : (onLedger (.ofNanos w.moment.now) copy c).1 with
    | error e => rw [onLedger_of_error answered, view]; rfl
    | ok answer =>
      by_cases looks : c.Looks
      · simp [Story.next, looks, onLedger_of_looks looks, view]
      · simp only [Story.next, if_neg looks, Story.seen, update_self, ← List.append_assoc,
          replay_append, replay_single]
        rw [view, Story.seen, replay_append]

namespace Sharing

variable {t : Sharing} {n : Nat}

/-! ## The invariant -/

/-- The lock keeps clients apart, and ledgers are what the story says. -/
structure Coherent (initial : Ledger) (t : Sharing) : Prop where
  alone : ∀ n, t.stage n ≠ .outside → t.writer = some n
  shared : t.committed = replay initial (Story.of t.history).published
  private_copy : ∀ n copy, t.stage n = .working copy →
    (Story.of t.history).base n = (Story.of t.history).published ∧
      copy = replay initial ((Story.of t.history).seen n)
  accurate : Accurate initial t.history

theorem coherent_start (world : World State) :
    (start world).Coherent world.data.committed where
  alone n stage := absurd rfl stage
  shared := rfl
  private_copy n copy stage := nomatch stage
  accurate earlier e later split := by
    have nothing : [] = earlier ++ e :: later := split
    simp at nothing

/-- While a client holds the lock, all others are outside. -/
theorem Coherent.outside {m : Nat} (coherent : t.Coherent initial) (held : t.stage n ≠ .outside)
    (other : m ≠ n) : t.stage m = .outside := by
  by_contra inside
  have same : some m = some n := (coherent.alone m inside).symm.trans (coherent.alone n held)
  exact other (Option.some.inj same)

/-- A client that takes a step on its transaction needs to look after its own copy only. -/
theorem Coherent.told {stage : Stage} {world : World State} {e : Event}
    (coherent : t.Coherent initial) (held : t.stage n ≠ .outside)
    (fits : e.Fits initial (.of t.history))
    (shared : world.data.committed = replay initial ((Story.of t.history).next e).published)
    (view : ∀ copy, stage = .working copy →
      ((Story.of t.history).next e).base n = ((Story.of t.history).next e).published ∧
        copy = replay initial (((Story.of t.history).next e).seen n)) :
    (t.told n stage world e).Coherent initial where
  alone m inside := by
    by_cases same : m = n
    · exact same ▸ coherent.alone n held
    · simp only [Sharing.told, update_of_ne same] at inside
      exact coherent.alone m inside
  shared := by
    rw [Sharing.told, Story.of_concat]
    exact shared
  private_copy m copy working := by
    rw [Sharing.told, Story.of_concat]
    by_cases same : m = n
    · subst same
      simp only [Sharing.told, update_self] at working
      exact view copy working
    · simp only [Sharing.told, update_of_ne same, coherent.outside held same] at working
      cases working
  accurate := coherent.accurate.concat fits

/-- A client may go to a stage without a copy; it needs the lock unless that is outside. -/
theorem Coherent.moved {stage : Stage} {writer : Option Nat} (coherent : t.Coherent initial)
    (others : ∀ m, m ≠ n → t.stage m = .outside) (idle : ∀ copy, stage ≠ .working copy)
    (lock : stage ≠ .outside → writer = some n) :
    Coherent initial { t.moved n stage with writer } where
  alone m inside := by
    by_cases same : m = n
    · subst same
      simp only [Sharing.moved, update_self] at inside
      exact lock inside
    · simp only [Sharing.moved, update_of_ne same] at inside
      exact absurd (others m same) inside
  shared := coherent.shared
  private_copy m copy working := by
    by_cases same : m = n
    · subst same
      simp only [Sharing.moved, update_self] at working
      exact absurd working (idle copy)
    · simp only [Sharing.moved, update_of_ne same, others m same] at working
      cases working
  accurate := coherent.accurate

/-- However a transaction ends, the shared ledger is what has been published then. -/
theorem committed_conclude {s : Story} {copy : Ledger} {w : World State} {ending : Ending}
    (shared : w.data.committed = replay initial s.published) (kept : s.base n = s.published)
    (view : copy = replay initial (s.seen n)) :
    (conclude copy w ending).2.data.committed =
      replay initial (s.next (.ended n (conclude copy w ending).1)).published := by
  cases ending with
  | rollback | drop => exact shared
  | commit =>
    cases due : w.data.commitConflicts with
    | succ left =>
      simpa [conclude, store, Memory.commit, due, Except.isOk, Except.toBool, Story.next]
        using shared
    | zero =>
      -- The whole copy is published; it is the published writes with the client's own on top.
      simp [conclude, store, Memory.commit, due, Except.isOk, Except.toBool, Story.next, view,
        Story.seen, kept]

theorem coherent_move (coherent : t.Coherent initial) (m : Move) :
    (t.move m).Coherent initial := by
  cases m with
  | enter n =>
    simp only [move]
    split
    · rename_i outside free
      refine coherent.moved (fun m _ => ?_) (by rintro copy ⟨⟩) (fun _ => rfl)
      by_contra inside
      cases free.symm.trans (coherent.alone m inside)
    · exact coherent
  | begin n =>
    simp only [move]
    split
    · rename_i admitted
      have held : t.stage n ≠ .outside := by simp [admitted]
      refine coherent.told held trivial coherent.shared ?_
      rintro copy ⟨⟩
      simp only [Story.next, Story.seen, update_self, List.append_nil, true_and]
      exact coherent.shared
    · exact coherent
  | call n c =>
    simp only [move]
    split
    · rename_i copy working
      have held : t.stage n ≠ .outside := by simp [working]
      obtain ⟨kept, view⟩ := coherent.private_copy n copy working
      obtain ⟨fits, spared, viewed⟩ := call_follows view c t.world
      refine coherent.told held fits ?_ ?_
      · rw [Story.published_called]
        exact spared.trans coherent.shared
      · rintro _ ⟨⟩
        rw [Story.published_called, Story.base_called]
        exact ⟨kept, viewed⟩
    · exact coherent
  | finish n ending =>
    simp only [move]
    split
    · rename_i copy working
      have held : t.stage n ≠ .outside := by simp [working]
      obtain ⟨kept, view⟩ := coherent.private_copy n copy working
      refine coherent.told held ?_ (committed_conclude coherent.shared kept view)
        (by rintro copy ⟨⟩)
      cases (conclude copy t.world ending).1 with
      | false => exact trivial
      | true => exact kept.symm
    · exact coherent
  | leave n =>
    simp only [move]
    split
    · rename_i leaving
      have held : t.stage n ≠ .outside := by simp [leaving]
      exact coherent.moved (fun m other => coherent.outside held other) (by rintro copy ⟨⟩)
        (fun outside => absurd rfl outside)
    · exact coherent
  | stir change spares =>
    exact ⟨coherent.alone, (spares t.world).trans coherent.shared, coherent.private_copy,
      coherent.accurate⟩

theorem coherent_play (world : World State) (moves : List Move) :
    (play world moves).Coherent world.data.committed := by
  unfold play
  have start : (start world).Coherent world.data.committed := coherent_start world
  generalize Sharing.start world = t at start ⊢
  induction moves generalizing t with
  | nil => exact start
  | cons m rest ih => exact ih _ (coherent_move start m)

/-! ## Isolation -/

/-- The transactions of a history do not get in each other's way. -/
structure Isolated (initial : Ledger) (t : Sharing) : Prop where
  /-- The shared ledger is what committed transactions have written, in the order of commits. -/
  committed : t.committed = replay initial (Story.of t.history).published
  /-- A private copy is the ledger committed before the begin with the client's own writes. -/
  copies : ∀ n copy, t.stage n = .working copy →
    copy = replay (replay initial ((Story.of t.history).base n)) ((Story.of t.history).own n)
  /-- So is what a read sees. -/
  reads : ∀ earlier n now c outcome later, c.Looks →
    t.history = earlier ++ .called n now c outcome :: later →
    outcome = (onLedger now
      (replay (replay initial ((Story.of earlier).base n)) ((Story.of earlier).own n)) c).1
  /-- So is what a write is answered by, unless it is made to fail. -/
  writes : ∀ earlier n now c outcome later,
    t.history = earlier ++ .called n now c outcome :: later →
    outcome = (onLedger now
      (replay (replay initial ((Story.of earlier).base n)) ((Story.of earlier).own n)) c).1 ∨
      ∃ e, outcome = .error e
  /-- What is there when a transaction begins was written in transactions that were committed. -/
  unseen : ∀ earlier n later, t.history = earlier ++ .began n :: later →
    ∀ w ∈ ((Story.of earlier).next (.began n)).base n, ∃ before m after,
      earlier = before ++ .ended m true :: after ∧ w ∈ (Story.of before).own m
  /-- A commit that succeeds publishes on top of what was there when its transaction began, which
  is still all that was published. -/
  kept : ∀ earlier n later, t.history = earlier ++ .ended n true :: later →
    (Story.of earlier).published = (Story.of earlier).base n ∧
      (Story.of (earlier ++ [.ended n true])).published =
        (Story.of earlier).published ++ (Story.of earlier).own n

/-- **Transactions are isolated**, for any number of clients, any schedule of their steps, and any
way for transactions to end. -/
theorem play_isolated (world : World State) (moves : List Move) :
    (play world moves).Isolated world.data.committed := by
  obtain ⟨-, shared, copies, accurate⟩ := coherent_play world moves
  have seen (s : Story) (n : Nat) : replay world.data.committed (s.seen n) =
      replay (replay world.data.committed (s.base n)) (s.own n) := replay_append _ _ _
  refine ⟨shared, ?_, ?_, ?_, ?_, ?_⟩
  · intro n copy working
    rw [← seen]
    exact (copies n copy working).2
  · intro earlier n now c outcome later looks split
    rw [← seen]
    exact (accurate earlier _ later split).resolve_right fun fault => fault.1 looks
  · intro earlier n now c outcome later split
    rw [← seen]
    exact (accurate earlier _ later split).imp id fun fault => fault.2
  · intro earlier n later split w mem
    simp only [Story.next, update_self] at mem
    exact Story.mem_published mem
  · intro earlier n later split
    exact ⟨accurate earlier _ later split, by simp [Story.next]⟩

end Sharing
end DoubleEntry.Memory
