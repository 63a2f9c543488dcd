import Mathlib.Data.List.Dedup
import DoubleEntry.Proofs.Traffic.Orders

/-!
# Commits

The commits of many visits form a chain: each transaction begins on the ledger that the last commit
published.  If all transactions of a visit but the last one of a success changed nothing, the chain
serves the successful orders one after the other, in the order of their last commits; that is
`serves_of_chain`.
-/

namespace DoubleEntry.Traffic

open Program

/-- A commit: the visit, the ledger that its transaction began on, and the ledger that it
published. -/
abbrev Commit : Type := Nat × Ledger × Ledger

/-- Commits one upon the other, each of a transaction that began where the last one ended. -/
def Chain : Ledger → List Commit → Ledger → Prop
  | l, [], l' => l' = l
  | l, (_, b, made) :: rest, l' => b = l ∧ Chain made rest l'

/-- The transactions that a visit published. -/
def publishedBy (log : List Commit) (n : Nat) : List (Ledger × Ledger) :=
  (log.filter (·.1 = n)).map (·.2)

variable {ν : Type} {log : List Commit} {l l' b made : Ledger} {n m : Nat}

theorem Chain.append (chain : Chain l log l') (n : Nat) (made : Ledger) :
    Chain l (log ++ [(n, l', made)]) made := by
  induction log generalizing l with
  | nil =>
    cases chain
    exact ⟨rfl, rfl⟩
  | cons c rest ih =>
    obtain ⟨start, chain⟩ := chain
    exact ⟨start, ih chain⟩

theorem chain_append {more : List Commit} :
    Chain l (log ++ more) l' ↔ ∃ between, Chain l log between ∧ Chain between more l' := by
  induction log generalizing l with
  | nil => simp [Chain]
  | cons c rest ih =>
    simp only [List.cons_append, Chain, ih]
    exact ⟨fun ⟨start, between, first, later⟩ => ⟨between, ⟨start, first⟩, later⟩,
      fun ⟨between, ⟨start, first⟩, later⟩ => ⟨start, between, first, later⟩⟩

/-- A chain ends at one ledger only. -/
theorem Chain.unique {l'' : Ledger} (chain : Chain l log l') (chain' : Chain l log l'') :
    l' = l'' := by
  induction log generalizing l with
  | nil => exact Eq.trans chain (Eq.symm chain')
  | cons c rest ih => exact ih chain.2 chain'.2

/-- What holds from one ledger to the next holds from the first ledger of a chain to the last. -/
theorem Chain.relates {R : Ledger → Ledger → Prop} (refl : ∀ l, R l l)
    (trans : ∀ {l l' l''}, R l l' → R l' l'' → R l l'') (each : ∀ c ∈ log, R c.2.1 c.2.2)
    (chain : Chain l log l') : R l l' := by
  induction log generalizing l with
  | nil =>
    cases chain
    exact refl l'
  | cons c rest ih =>
    obtain ⟨rfl, chain⟩ := chain
    exact trans (each c (.head _)) (ih (fun c mem => each c (.tail _ mem)) chain)

theorem mem_publishedBy : (b, made) ∈ publishedBy log n ↔ (n, b, made) ∈ log := by
  simp [publishedBy]

theorem publishedBy_cons_self :
    publishedBy ((n, b, made) :: log) n = (b, made) :: publishedBy log n := by
  simp [publishedBy]

theorem publishedBy_cons_other (other : n ≠ m) :
    publishedBy ((n, b, made) :: log) m = publishedBy log m := by
  simp [publishedBy, other]

theorem publishedBy_append (log more : List Commit) (n : Nat) :
    publishedBy (log ++ more) n = publishedBy log n ++ publishedBy more n := by
  simp [publishedBy]

theorem publishedBy_eq_nil : publishedBy log n = [] ↔ n ∉ log.map (·.1) := by
  simp only [publishedBy, List.map_eq_nil_iff, List.filter_eq_nil_iff, decide_eq_true_eq,
    List.mem_map, not_exists, not_and]

/-- The transactions of a visit in the light of what came of it: all but the last one of a success
changed nothing, and the last one served the order. -/
def Amounts (published : List (Ledger × Ledger)) : Option ((_ : Order ν) × Receipt) → Prop
  | some e => ∃ idle b made, published = idle ++ [(b, made)] ∧ (∀ p ∈ idle, p.2 = p.1) ∧
    Order.Serves b e.1 e.2 made
  | none => ∀ p ∈ published, p.2 = p.1

theorem Amounts.tail {rest : List (Ledger × Ledger)}
    {success : Option ((_ : Order ν) × Receipt)} (amounts : Amounts ((b, made) :: rest) success)
    (more : rest ≠ []) : made = b ∧ Amounts rest success := by
  cases success with
  | none => exact List.forall_mem_cons.1 amounts
  | some e =>
    obtain ⟨idle, b, made, same, still, serves⟩ := amounts
    cases idle with
    | nil =>
      cases same
      exact absurd rfl more
    | cons first idle =>
      cases same
      obtain ⟨first, still⟩ := List.forall_mem_cons.1 still
      exact ⟨first, idle, b, made, rfl, still, serves⟩

/-- The last commit of a visit. -/
theorem Amounts.last {success : Option ((_ : Order ν) × Receipt)}
    (amounts : Amounts [(b, made)] success) :
    (success = none ∧ made = b) ∨ ∃ e, success = some e ∧ Order.Serves b e.1 e.2 made := by
  cases success with
  | none => exact .inl ⟨rfl, amounts _ (List.mem_singleton.2 rfl)⟩
  | some e =>
    obtain ⟨idle, b, made, same, -, serves⟩ := amounts
    cases idle with
    | nil =>
      cases same
      exact .inr ⟨e, rfl, serves⟩
    | cons p idle => simp at same

/-- A chain of commits serves the successful orders one after the other. -/
theorem serves_of_chain {success : Nat → Option ((_ : Order ν) × Receipt)} (chain : Chain l log l')
    (each : ∀ n ∈ log.map (·.1), Amounts (publishedBy log n) (success n)) :
    Along Order.Serves l ((log.map (·.1)).dedup.filterMap success) l' := by
  induction log generalizing l with
  | nil => exact chain
  | cons c rest ih =>
    obtain ⟨n, b, made⟩ := c
    obtain ⟨rfl, chain⟩ := chain
    have first := each n (List.mem_cons_self ..)
    rw [publishedBy_cons_self] at first
    have later (m : Nat) (other : n ≠ m) (mem : m ∈ rest.map (·.1)) :
        Amounts (publishedBy rest m) (success m) := by
      rw [← publishedBy_cons_other other]
      exact each m (List.mem_cons_of_mem _ mem)
    by_cases again : n ∈ rest.map (·.1)
    · -- A later commit of the same visit counts.
      obtain ⟨rfl, amounts⟩ := first.tail (mt publishedBy_eq_nil.1 (not_not.2 again))
      rw [List.map_cons, List.dedup_cons_of_mem again]
      refine ih chain fun m mem => ?_
      by_cases same : n = m
      · exact same ▸ amounts
      · exact later m same mem
    · rw [publishedBy_eq_nil.2 again] at first
      have served := ih chain fun m mem => later m (fun same => again (same ▸ mem)) mem
      rw [List.map_cons, List.dedup_cons_of_notMem again]
      obtain ⟨failed, rfl⟩ | ⟨e, ok, serves⟩ := first.last
      · rwa [List.filterMap_cons_none failed]
      · rw [List.filterMap_cons_some ok]
        exact ⟨made, serves, served⟩

end DoubleEntry.Traffic
