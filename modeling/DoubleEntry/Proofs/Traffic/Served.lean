import DoubleEntry.Proofs.Traffic.Invariant

/-!
# Orders exactly once

However the clients at a store are scheduled, and whatever fails on the way: as soon as no order is
on its way, the committed ledger is what the successful orders make of the first one, each applied
once, in the order of their last commits, and each has sent the notices of its receipt once.  That
is `Traffic.play_served`.
-/

namespace DoubleEntry.Traffic

open Program Store

variable {ν : Type} {log : List Commit} {l : Ledger} {n : Nat} {t : Traffic ν} {v : Visit ν}

/-- Lists without duplicates that agree on what matters are mapped to the same, up to its order. -/
theorem perm_filterMap {α β : Type} [DecidableEq α] {f : α → Option β} {xs ys : List α}
    (nodup : xs.Nodup) (nodup' : ys.Nodup) (same : ∀ a, (f a).isSome → (a ∈ xs ↔ a ∈ ys)) :
    (xs.filterMap f).Perm (ys.filterMap f) := by
  have chosen (zs : List α) : (zs.filter fun a => (f a).isSome).filterMap f = zs.filterMap f := by
    rw [List.filterMap_filter]
    refine congrArg (fun g => zs.filterMap g) (funext fun a => ?_)
    cases f a <;> rfl
  rw [← chosen xs, ← chosen ys]
  refine List.Perm.filterMap f ?_
  rw [List.perm_ext_iff_of_nodup (nodup.filter _) (nodup'.filter _)]
  intro a
  simp only [List.mem_filter]
  exact and_congr_left fun matters => same a matters

theorem filterMap_range {α β : Type} (f : α → Option β) (xs : List α) :
    (List.range xs.length).filterMap (fun n => xs[n]?.bind f) = xs.filterMap f := by
  induction xs with
  | nil => rfl
  | cons a rest ih =>
    rw [List.length_cons, List.range_succ_eq_map, List.filterMap_cons, List.filterMap_map,
      List.filterMap_cons, ← ih]
    rfl

/-- What can be said of quiet traffic that agrees with a log. -/
theorem served_of_consistent (consistent : Consistent l t log) (quiet : t.Quiet) :
    t.served.Perm (t.visits.filterMap Visit.served?) ∧
      Along Order.Serves l t.served t.committed ∧
      ∀ n v, t.visits[n]? = some v → t.sentBy n = v.due := by
  obtain ⟨chain, commits, visits, committers, -⟩ := consistent
  have settled (n : Nat) (v : Visit ν) (found : t.visits[n]? = some v) :
      Amounts (publishedBy log n) v.served? ∧ t.sentBy n = v.due := by
    obtain ⟨outcome, returned⟩ := Option.isSome_iff_exists.1 (quiet v (List.mem_of_getElem? found))
    exact amounts_of_settled returned (settled_of_onItsWay (visits n v found) returned)
  refine ⟨?_, ?_, fun n v found => (settled n v found).2⟩
  · rw [served, ← filterMap_range Visit.served? t.visits]
    refine perm_filterMap (List.nodup_dedup _) List.nodup_range fun n success => ?_
    rw [List.mem_dedup, List.mem_range]
    refine ⟨committers n, fun known => ?_⟩
    by_contra uncommitted
    obtain ⟨e, ok⟩ := Option.isSome_iff_exists.1 success
    obtain ⟨v, found, served⟩ := Option.bind_eq_some_iff.1 ok
    obtain ⟨amounts, -⟩ := settled n v found
    rw [served, publishedBy_eq_nil.2 (commits ▸ uncommitted)] at amounts
    obtain ⟨idle, b, made, same, -⟩ := amounts
    simp at same
  · rw [served, ← commits]
    refine serves_of_chain chain fun n mem => ?_
    rw [commits] at mem
    obtain ⟨v, found⟩ : ∃ v, t.visits[n]? = some v :=
      ⟨_, List.getElem?_eq_getElem (committers n mem)⟩
    rw [found]
    exact (settled n v found).1

/-- Whenever no order is on its way, the committed ledger is what the successful orders make of the
first one, and every visit has sent the notices of its receipt. -/
theorem play_served (world : World (Faults.State Memory.State)) (moves : List (Move ν))
    (quiet : (play world moves).Quiet) :
    let t := play world moves
    t.served.Perm (t.visits.filterMap Visit.served?) ∧
      Along Order.Serves (start world : Traffic ν).committed t.served t.committed ∧
      ∀ n v, t.visits[n]? = some v → t.sentBy n = v.due := by
  obtain ⟨log, consistent⟩ := consistent_moves moves (consistent_start world)
  exact served_of_consistent consistent quiet

/-- Two clients open accounts.  Then three transfers between the accounts are on their way at the
same time, while four commits run into conflicts. -/
def bustle : List (Move Int) :=
  let rules : Coordinator := ⟨.standard, some (.ofMillis 1000), fun _ => 0⟩
  let trusted : Context := .background ⟨0⟩
  let told : TransferResult → List Int := fun result => [result.transfer.id]
  [.issue ⟨rules, trusted, .account ⟨"alice", .usd, 100⟩ (by decide)⟩,
    .issue ⟨rules, trusted, .account ⟨"bob", .usd, 50⟩ (by decide)⟩] ++
  (List.replicate 16 [.act 0, .act 1]).flatten ++
  [.issue ⟨rules, trusted.actingAs "alice", .transfer ⟨1, 2, 30⟩ told⟩,
    .issue ⟨rules, trusted, .transfer ⟨2, 1, 40⟩ told⟩,
    .issue ⟨rules, trusted, .transfer ⟨2, 1, 700⟩ told⟩,
    .stir (fun w => { w with data := { w.data with inner :=
      { w.data.inner with commitConflicts := 4 } } }) fun _ => rfl] ++
  (List.replicate 60 [.act 2, .act 3, .act 4]).flatten

/-- The transfer that came second is done first, and the one for too much money is refused. -/
theorem play_served_bustle :
    let t : Traffic Int := play ⟨⟨0, []⟩, .ofInner .empty⟩ bustle
    Along Order.Serves Ledger.empty t.served t.committed ∧ t.Quiet ∧
      t.commits = [0, 1, 3, 4, 2, 3, 2] ∧ t.served.length = 4 ∧ t.sent = [(3, 1), (2, 2)] ∧
      t.committed.accounts.map (·.balance) = [110, 40] := by
  have served := play_served ⟨⟨0, []⟩, .ofInner .empty⟩ bustle
  have facts : let t : Traffic Int := play ⟨⟨0, []⟩, .ofInner .empty⟩ bustle
    t.Quiet ∧ t.commits = [0, 1, 3, 4, 2, 3, 2] ∧ t.served.length = 4 ∧
      t.sent = [(3, 1), (2, 2)] ∧ t.committed.accounts.map (·.balance) = [110, 40] := by
    decide +kernel
  -- From here on, nobody should try to compute the schedule.
  generalize (play ⟨⟨0, []⟩, .ofInner .empty⟩ bustle : Traffic Int) = t at served facts ⊢
  exact ⟨(served facts.1).2.1, facts⟩

end DoubleEntry.Traffic
