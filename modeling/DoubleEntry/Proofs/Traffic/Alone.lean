import DoubleEntry.Proofs.Ledger.Books
import DoubleEntry.Proofs.Store.Alone
import DoubleEntry.Proofs.Traffic.Commits

/-!
# Requests of a client that is alone

For a client that is alone with the store in memory, a crowd is nobody: its transactions form a
chain of their own, from the ledger that it found to the one that is committed in the end
(`chain_of_alone`).  So what an order publishes in a crowd is what it makes of the ledger
(`left_by_createAccount` and `left_by_transfer`), and the books stay in order.
-/

namespace DoubleEntry

open Program

/-- Surroundings that may do less may do as much in others. -/
theorem Standing.Takes.mono {ν : Type} {amid amid' : Surroundings} {s s' : Standing ν} {q : Step ν}
    {answer : q.Answer} (taken : s.Takes amid q answer s')
    (passes : ∀ {l l'}, amid.passes l l' → amid'.passes l l')
    (answers : ∀ {ctx l c outcome l'}, amid.answers ctx l c outcome l' →
      amid'.answers ctx l c outcome l')
    (reads : ∀ {n}, amid.reads n → amid'.reads n)
    (stops : ∀ {ctx}, amid.stops ctx → amid'.stops ctx) (breaks : amid.breaks → amid'.breaks) :
    s.Takes amid' q answer s' := by
  cases q with
  | now => exact ⟨reads taken.1, taken.2⟩
  | check ctx => exact ⟨taken.1.imp_right stops, taken.2⟩
  | begin ctx =>
    rcases answer with e | ⟨⟩
    · exact ⟨stops taken.1, taken.2⟩
    · obtain ⟨b, passed, same⟩ := taken
      exact ⟨b, passes passed, same⟩
  | call ctx c =>
    obtain ⟨seen, opened, published, sent⟩ := s
    rcases opened with _ | ⟨b, l⟩
    · exact taken
    · obtain ⟨l', answered, same⟩ := taken
      exact ⟨l', answers answered, same⟩
  | commit =>
    rcases answer with e | ⟨⟩
    · exact ⟨taken.1.imp_right breaks, taken.2⟩
    · exact taken
  | rollback => exact ⟨taken.1.imp_right (Or.imp_right breaks), taken.2⟩
  | wait d | cancel token | notify notice => exact taken

namespace Traffic

variable {ν : Type} {moments : Nat → Moment} {s s' : Standing ν} {trace : Procedure.Trace ν}
  {l l' : Ledger}

/-- One who is alone sees no more than one in a crowd may see. -/
theorem crowded_of_alone (way : Along (Standing.Takes (Memory.alone moments)) s trace s') :
    Along (Standing.Takes Order.crowded) s trace s' := by
  refine way.mono fun e _ t t' taken => taken.mono ?_ ?_ ?_ ?_ ?_
  · rintro _ l rfl
    exact .refl l
  · rintro ctx l c outcome l' (carried | ⟨-, failed, rfl⟩)
    · exact .inl carried
    · exact .inr ⟨.inl failed, rfl⟩
  · exact fun _ => trivial
  · exact fun _ => trivial
  · exact fun _ => trivial

/-! ## The chain of the client -/

/-- The transactions that the client has published lead from a ledger to the one that it sees, where
its open transaction began. -/
structure Linked (l : Ledger) (s : Standing ν) : Prop where
  chain : Chain l (s.published.map (Prod.mk 0)) s.seen
  began : ∀ b made, s.opened = some (b, made) → b = s.seen

theorem linked_of_takes {q : Step ν} {answer : q.Answer}
    (taken : s.Takes (Memory.alone moments) q answer s') (linked : Linked l s) : Linked l s' := by
  obtain ⟨chain, began⟩ := linked
  cases q with
  | now | check ctx =>
    obtain ⟨-, rfl⟩ := taken
    exact ⟨chain, began⟩
  | wait d | cancel token | notify notice =>
    cases taken
    exact ⟨chain, began⟩
  | begin ctx =>
    rcases answer with e | ⟨⟩
    · obtain ⟨-, rfl | rfl⟩ := taken
      · exact ⟨chain, began⟩
      · exact ⟨chain, nofun⟩
    · -- Nobody else has committed, so the transaction begins on what the client saw last.
      obtain ⟨b, same, rfl⟩ := taken
      cases same
      refine ⟨chain, ?_⟩
      rintro _ _ ⟨⟩
      rfl
  | call ctx c =>
    obtain ⟨seen, opened, published, sent⟩ := s
    rcases opened with _ | ⟨b, made⟩
    · obtain ⟨-, rfl⟩ := taken
      exact ⟨chain, began⟩
    · obtain ⟨made', -, rfl⟩ := taken
      refine ⟨chain, ?_⟩
      rintro _ _ ⟨⟩
      exact began b made rfl
  | commit =>
    rcases answer with e | ⟨⟩
    · obtain ⟨-, rfl⟩ := taken
      exact ⟨chain, nofun⟩
    · obtain ⟨b, made, opened, rfl⟩ := taken
      obtain rfl := began b made opened
      refine ⟨?_, nofun⟩
      rw [List.map_append]
      exact chain.append 0 made
  | rollback =>
    obtain ⟨-, rfl⟩ := taken
    exact ⟨chain, nofun⟩

/-- Alone, the transactions of a client form a chain. -/
theorem chain_of_alone {sent : List ν}
    (way : Along (Standing.Takes (Memory.alone moments)) ⟨l, none, [], sent⟩ trace s') :
    Chain l (s'.published.map (Prod.mk 0)) s'.seen :=
  (way.keeps (P := Linked l) (fun _ _ _ _ taken => linked_of_takes taken) ⟨rfl, nofun⟩).chain

/-- Transactions that changed nothing may be left out of a chain. -/
theorem Chain.drop_idle {idle more : List (Ledger × Ledger)} (still : ∀ p ∈ idle, p.2 = p.1)
    (chain : Chain l ((idle ++ more).map (Prod.mk 0)) l') :
    Chain l (more.map (Prod.mk 0)) l' := by
  induction idle generalizing l with
  | nil => exact chain
  | cons p rest ih =>
    obtain ⟨start, chain⟩ := chain
    have same : p.2 = l := (still p (.head _)).trans start
    rw [same] at chain
    exact ih (fun p mem => still p (.tail _ mem)) chain

/-! ## What is left behind -/

section Left

variable {c : Coordinator} {ctx : Context} {sent : List ν}

/-- An account that is opened is opened on the ledger; otherwise nothing has changed. -/
theorem left_by_createAccount {new : NewAccount} {outcome : Except Error Account}
    (run : (c.createAccount ctx new).run.Runs trace outcome)
    (way : Along (Standing.Takes (Memory.alone moments)) ⟨l, none, [], sent⟩ trace s') :
    (∃ e, outcome = .error e ∧ s'.seen = l) ∨
      ∃ a now, outcome = .ok a ∧
        l.createAccount now new.owner new.currency new.initialBalance = .ok (a, s'.seen) := by
  have chain := chain_of_alone way
  obtain ⟨-, ⟨e, failed, published⟩ | ⟨a, b, made, now, opened, published, -, -, created⟩⟩ :=
    published_of_createAccount run (crowded_of_alone way)
  · rw [published] at chain
    exact .inl ⟨e, failed, chain⟩
  · rw [published] at chain
    obtain ⟨rfl, rfl⟩ := chain
    exact .inr ⟨a, now, opened, created⟩

/-- A transfer that succeeds is done on the ledger; otherwise nothing has changed. -/
theorem left_by_transfer {r : TransferRequest} {inform : TransferResult → List ν}
    {outcome : Except Error TransferResult} (run : (c.transfer inform ctx r).run.Runs trace outcome)
    (way : Along (Standing.Takes (Memory.alone moments)) ⟨l, none, [], sent⟩ trace s') :
    (∃ e, outcome = .error e ∧ s'.seen = l) ∨
      ∃ result times, outcome = .ok result ∧
        l.transfer ctx.principal times r = .ok (result, s'.seen) := by
  have chain := chain_of_alone way
  obtain ⟨idle, still, ⟨e, failed, published, -⟩ | ⟨result, b, made, times, done, published, -,
    moved⟩⟩ := published_of_transfer run (crowded_of_alone way)
  · rw [published, List.nil_append, ← List.append_nil idle] at chain
    exact .inl ⟨e, failed, chain.drop_idle still⟩
  · rw [published, List.nil_append] at chain
    obtain ⟨rfl, rfl⟩ := chain.drop_idle still
    exact .inr ⟨result, times, done, moved⟩

variable {opened : List Account}

theorem books_of_createAccount {new : NewAccount} {outcome : Except Error Account}
    (fits : new.initialBalance ≤ Amount.greatest)
    (run : (c.createAccount ctx new).run.Runs trace outcome)
    (way : Along (Standing.Takes (Memory.alone moments)) ⟨l, none, [], sent⟩ trace s')
    (books : Ledger.Books opened l) : ∃ opened', Ledger.Books opened' s'.seen := by
  obtain ⟨e, -, same⟩ | ⟨a, now, -, created⟩ := left_by_createAccount run way
  · exact ⟨opened, same ▸ books⟩
  · exact ⟨_, books.createAccount fits created⟩

theorem books_of_transfer {r : TransferRequest} {inform : TransferResult → List ν}
    {outcome : Except Error TransferResult} (run : (c.transfer inform ctx r).run.Runs trace outcome)
    (way : Along (Standing.Takes (Memory.alone moments)) ⟨l, none, [], sent⟩ trace s')
    (books : Ledger.Books opened l) : Ledger.Books opened s'.seen := by
  obtain ⟨e, -, same⟩ | ⟨result, times, -, moved⟩ := left_by_transfer run way
  · exact same ▸ books
  · exact books.transfer moved

end Left

end Traffic
end DoubleEntry
