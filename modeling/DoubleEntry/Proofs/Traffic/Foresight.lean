import DoubleEntry.Proofs.Traffic.Invariant

/-!
# What a visit can still come to

In a crowd every visit can come to its end without another commit: whatever it asks for from now on,
it can be answered so that nothing is published.  So what a visit has published so far is already
what its order amounts to for some outcome, and the committed ledger is, at every moment, what some
of the orders make of the first one: `serves_of_consistent`.

An order to open an account ends with its commit, so what is foreseen of accounts is what the visits
have already been told.
-/

namespace DoubleEntry

open Program Store Work

/-- The account that an order to open one has got. -/
def Receipt.account? : Receipt → Option Account
  | .account opened => some opened
  | .transfer _ => none

namespace Order

variable {ν : Type} {o : Order ν} {l l' : Ledger} {receipt : Receipt} {trace : Procedure.Trace ν}

/-- The two kinds of orders that are served. -/
theorem serves_cases (serves : Serves l o receipt l') :
    (∃ new fits opened now, o.wish = .account new fits ∧ receipt = .account opened ∧
      l.createAccount now new.owner new.currency new.initialBalance = .ok (opened, l')) ∨
    ∃ r inform result times, o.wish = .transfer r inform ∧ receipt = .transfer result ∧
      l.transfer o.context.principal times r = .ok (result, l') := by
  obtain ⟨c, ctx, wish⟩ := o
  obtain ⟨times, done⟩ := serves
  cases wish with
  | account new fits =>
    simp only [apply, bind, Except.bind] at done
    split at done
    · cases done
    · split at done
      · cases done
      · split at done
        · cases done
        · rename_i created
          cases done
          exact .inl ⟨new, fits, _, _, rfl, rfl, created⟩
  | transfer r inform =>
    simp only [apply, bind, Except.bind] at done
    split at done
    · cases done
    · rename_i moved
      cases done
      exact .inr ⟨r, inform, _, times, rfl, rfl, moved⟩

/-- An account that is opened is opened by the last step. -/
theorem ends_with_commit {new : NewAccount} {fits : new.initialBalance ≤ Amount.greatest}
    (wish : o.wish = .account new fits) (run : o.procedure.Runs trace (.ok receipt)) :
    ∃ before, trace = before ++ [⟨.commit, .ok ()⟩] := by
  obtain ⟨result, created, same⟩ := runs_of_account wish run
  obtain ⟨e, -, rfl⟩ | ⟨-, -, ran⟩ := runs_createAccount created
  · cases same
  rcases result with e | opened
  · cases same
  obtain ⟨ctx', tried, steps, ⟨⟩, -, work, rfl⟩ := Coordinator.outlasts_runJob ran
  obtain rfl := runs_question.1 (runs_ofTask.1 work)
  refine ⟨tried ++ [⟨.begin ctx', .ok ()⟩,
    ⟨.call ctx' (.createAccount new.owner new.currency new.initialBalance), .ok opened⟩,
    ⟨.check ctx', .ok ()⟩], ?_⟩
  simp [Record.committing, Record.enacted, Record.registered, notified]

end Order

namespace Traffic

variable {ν α : Type} {log : List Commit} {l : Ledger} {n : Nat} {t : Traffic ν} {v : Visit ν}

/-- Every step can be answered so that nothing is published. -/
theorem takes_unpublished (q : Step ν) (s : Standing ν) :
    ∃ answer s', s.Takes Order.crowded q answer s' ∧ s'.published = s.published ∧
      isPublication ⟨q, answer⟩ = false := by
  cases q with
  | now => exact ⟨0, s, ⟨trivial, rfl⟩, rfl, rfl⟩
  | check ctx => exact ⟨.ok (), s, ⟨.inl rfl, rfl⟩, rfl, rfl⟩
  | begin ctx => exact ⟨.error notOpen, s, ⟨trivial, .inl rfl⟩, rfl, rfl⟩
  | call ctx c => exact ⟨.error notOpen, s, takes_failed .., rfl, rfl⟩
  | commit => exact ⟨.error notOpen, _, ⟨.inr trivial, rfl⟩, rfl, rfl⟩
  | rollback => exact ⟨.ok (), _, ⟨.inl rfl, rfl⟩, rfl, rfl⟩
  | wait d | cancel token => exact ⟨(), s, rfl, rfl, rfl⟩
  | notify notice => exact ⟨(), _, rfl, rfl, rfl⟩

/-- Whatever is still to be done can come to an end so that nothing more is published. -/
theorem ends_unpublished (p : Procedure ν α) (s : Standing ν) :
    ∃ rest value s', p.Runs rest value ∧ Along (Standing.Takes Order.crowded) s rest s' ∧
      s'.published = s.published ∧ ∀ e ∈ rest, isPublication e = false := by
  induction p generalizing s with
  | done a => exact ⟨[], a, s, ⟨rfl, rfl⟩, rfl, rfl, List.forall_mem_nil _⟩
  | ask q next ih =>
    obtain ⟨answer, s₁, taken, kept, unpublished⟩ := takes_unpublished q s
    obtain ⟨rest, value, s', run, way, kept', later⟩ := ih answer s₁
    exact ⟨⟨q, answer⟩ :: rest, value, s', ⟨answer, rest, rfl, run⟩, ⟨s₁, taken, way⟩,
      kept'.trans kept, List.forall_mem_cons.2 ⟨unpublished, later⟩⟩

/-- What a visit has published is what its order amounts to for some outcome, which tells no more of
accounts than the visit has been told. -/
theorem amounts_of_onItsWay (way : OnItsWay Order.crowded l t log n v) :
    ∃ success : Option ((_ : Order ν) × Receipt), Amounts (publishedBy log n) success ∧
      (success.bind fun e => e.2.account?) = v.served?.bind fun e => e.2.account? := by
  cases ahead : v.rest with
  | done outcome =>
    have returned : v.outcome? = some outcome := by rw [Visit.outcome?, ahead]
    exact ⟨v.served?, (amounts_of_settled returned (settled_of_onItsWay way returned)).1, rfl⟩
  | ask q next =>
    have unserved : v.served? = none := by rw [Visit.served?, Visit.outcome?, ahead]
    obtain ⟨past, s, runs, along, -, published, -⟩ := way
    obtain ⟨rest, outcome, s', run, later, kept, unpublished⟩ := ends_unpublished v.rest s
    have whole := runs rest outcome run
    have settled := Order.settled_of_procedure whole (along_append.2 ⟨s, along, later⟩) rfl rfl
    rw [kept, published] at settled
    rw [unserved]
    rcases outcome with e | receipt
    · exact ⟨none, settled.1, rfl⟩
    obtain ⟨idle, b, made, same, still, serves, -⟩ := settled
    refine ⟨some ⟨v.order, receipt⟩, ⟨idle, b, made, same, still, serves⟩, ?_⟩
    obtain ⟨new, fits, opened, now, wish, -, -⟩ | ⟨r, inform, result, times, -, rfl, -⟩ :=
      Order.serves_cases serves
    · -- The last step of such an order is a commit, and no commit is to come.
      obtain ⟨before, ends⟩ := Order.ends_with_commit wish whole
      rw [ahead] at run
      obtain ⟨answer, more, rfl, -⟩ := run
      have last : (⟨.commit, .ok ()⟩ : (q : Step ν) × q.Answer) ∈ ⟨q, answer⟩ :: more := by
        have ends' := congrArg List.getLast? ends
        rw [List.getLast?_append_of_ne_nil _ (List.cons_ne_nil _ _), List.getLast?_concat] at ends'
        exact List.mem_of_getLast? ends'
      cases unpublished _ last
    · rfl

/-- At every moment the committed ledger is what some orders make of the first one, and the accounts
among their receipts are those that the visits have been told of. -/
theorem serves_of_consistent (consistent : Consistent l t log) :
    ∃ served : List ((_ : Order ν) × Receipt), Along Order.Serves l served t.committed ∧
      served.filterMap (fun e => e.2.account?) = t.served.filterMap fun e => e.2.account? := by
  obtain ⟨chain, commits, visits, committers, -⟩ := consistent
  have foreseen (n : Nat) : ∃ success : Option ((_ : Order ν) × Receipt), n ∈ t.commits →
      Amounts (publishedBy log n) success ∧ (success.bind fun e => e.2.account?) =
        (t.visits[n]?.bind Visit.served?).bind fun e => e.2.account? := by
    by_cases mem : n ∈ t.commits
    · have found : t.visits[n]? = some _ := List.getElem?_eq_getElem (committers n mem)
      obtain ⟨success, amounts, same⟩ := amounts_of_onItsWay (visits n _ found)
      refine ⟨success, fun _ => ⟨amounts, ?_⟩⟩
      rw [same, found]
      rfl
    · exact ⟨none, fun mem' => absurd mem' mem⟩
  choose success each using foreseen
  have each' (n : Nat) (mem : n ∈ log.map (·.1)) : Amounts (publishedBy log n) (success n) :=
    (each n (commits ▸ mem)).1
  refine ⟨_, serves_of_chain chain each', ?_⟩
  rw [commits, served, List.filterMap_filterMap, List.filterMap_filterMap]
  exact List.filterMap_congr fun n mem => (each n (List.mem_dedup.1 mem)).2

end Traffic
end DoubleEntry
