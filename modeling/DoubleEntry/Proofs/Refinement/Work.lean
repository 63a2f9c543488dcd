import DoubleEntry.Account.Requests
import DoubleEntry.Proofs.Refinement.Calls
import DoubleEntry.Proofs.Transfer.Procedure

/-!
# Units of work that are alike

Two units of work are alike if they make corresponding calls one after the other, as long as they
get outcomes that agree (`Work.Alike`).  This says nothing yet about a store: it is a relation
between two programs, which goes along their branches.  `Work.Alike.bind` puts it together from
parts, and so do its versions for tasks and for attempts at a transfer.

The units of work behind the requests of clients are alike if the ids in the requests belong to each
other; the last one is that of a transfer, `TransferRequest.alike_job`.
-/

namespace DoubleEntry

open Relational

variable {ν α β α' β' : Type} {p₀ p : Register} {l : Ledger}

/-! ## Work -/

/-- Two units of work make corresponding calls, whatever outcomes that agree they get, and end with
values that are related under the register and the ledger at their end.  On the way they register as
many notices. -/
inductive Work.Alike (p₀ : Register) (good : Register → Ledger → α → β → Prop) :
    Register → Ledger → Work ν α → Work ν β → Prop where
  | done {p : Register} {l : Ledger} {a : α} {b : β} (values : good p l a b) :
      Alike p₀ good p l (.done a) (.done b)
  | call {p : Register} {l : Ledger} {c c' : Call}
      {R : Register → Ledger → c.Answer → c'.Answer → Prop}
      {next : c.Outcome → Work ν α} {next' : c'.Outcome → Work ν β}
      (corresponds : c.Corresponds p₀ p l c' R)
      (later : ∀ p' l' o o', p ≤ p' → Outcome.Agrees p₀.pairing (R p' l') o o' →
        Alike p₀ good p' l' (next o) (next' o')) :
      Alike p₀ good p l (.ask (.call c) next) (.ask (.call c') next')
  | onCommit {p : Register} {l : Ledger} (notice notice' : ν) {next : Unit → Work ν α}
      {next' : Unit → Work ν β} (later : Alike p₀ good p l (next ()) (next' ())) :
      Alike p₀ good p l (.ask (.onCommit notice) next) (.ask (.onCommit notice') next')

namespace Work.Alike

variable {good : Register → Ledger → α → β → Prop} {good' : Register → Ledger → α' → β' → Prop}
  {w : Work ν α} {w' : Work ν β} {f : α → Work ν α'} {f' : β → Work ν β'}

theorem bind (alike : Alike p₀ good p l w w')
    (later : ∀ p' l' a b, p ≤ p' → good p' l' a b → Alike p₀ good' p' l' (f a) (f' b)) :
    Alike p₀ good' p l (w >>= f) (w' >>= f') := by
  induction alike with
  | done values => exact later _ _ _ _ (Register.le_refl _) values
  | call corresponds _ ih =>
    refine .call corresponds fun p' l' o o' part agree => ?_
    exact ih p' l' o o' part agree fun p'' l'' a b more values =>
      later p'' l'' a b (Register.le_trans part more) values
  | onCommit notice notice' _ ih => exact .onCommit notice notice' (ih later)

end Work.Alike

/-! ## Tasks -/

/-- Two tasks are alike, and their outcomes agree. -/
def Task.Alike (p₀ : Register) (R : Register → Ledger → α → β → Prop) (p : Register) (l : Ledger)
    (x : Task ν α) (x' : Task ν β) : Prop :=
  Work.Alike p₀ (fun p' l' => Outcome.Agrees p₀.pairing (R p' l')) p l x.run x'.run

namespace Task

variable {R : Register → Ledger → α → β → Prop} {R' : Register → Ledger → α' → β' → Prop}
  {x : Task ν α} {x' : Task ν β} {f : α → Task ν α'} {f' : β → Task ν β'}

theorem alike_pure {a : α} {b : β} (values : R p l a b) :
    Alike p₀ R p l (pure a : Task ν α) (pure b) :=
  .done (.ok values)

theorem alike_throw {e e' : Error} (failures : e.Agrees p₀.pairing e') :
    Alike p₀ R p l (throw e : Task ν α) (throw e') :=
  .done (.error failures)

theorem alike_call {c c' : Call} {R : Register → Ledger → c.Answer → c'.Answer → Prop}
    (corresponds : c.Corresponds p₀ p l c' R) :
    Alike p₀ R p l (call c : Task ν c.Answer) (call c') :=
  .call corresponds fun _ _ _ _ _ agree => .done agree

theorem Alike.bind (alike : Alike p₀ R p l x x')
    (later : ∀ p' l' a b, p ≤ p' → R p' l' a b → Alike p₀ R' p' l' (f a) (f' b)) :
    Alike p₀ R' p l (x >>= f) (x' >>= f') := by
  show Work.Alike _ _ p l (x.run >>= ExceptT.bindCont f) (x'.run >>= ExceptT.bindCont f')
  refine Work.Alike.bind alike fun p' l' o o' part agree => ?_
  cases agree with
  | ok values => exact later p' l' _ _ part values
  | error failures => exact .done (.error failures)

/-! ### The tasks of requests -/

variable {id id' first first' second second' : Int} {ctx : Context}

/-- An account is shown to its owner on both sides, or to nobody. -/
theorem alike_ownedAccount (meets : Meets p id id') :
    Alike p₀ (Unmoved p l fun a b => a.Agrees p.pairing b ∧ (id, id') ∈ p.accounts) p l
      (Coordinator.ownedAccount ctx id : Task ν Account) (Coordinator.ownedAccount ctx id') := by
  unfold Coordinator.ownedAccount
  refine (alike_call (.getAccount meets)).bind ?_
  rintro _ _ a b - ⟨rfl, rfl, agree, -, paired⟩
  rw [agree.owner]
  cases ctx.authorize a.owner with
  | error e => exact alike_throw (.same e)
  | ok u => exact alike_pure ⟨rfl, rfl, agree, paired⟩

/-- The listing of what is booked on an account. -/
theorem alike_listing {c c' : Call} {agree : c.Answer → c'.Answer → Prop} (meets : Meets p id id')
    (corresponds : (id, id') ∈ p.accounts → c.Corresponds p₀ p l c' (Unmoved p l agree)) :
    Alike p₀ (Unmoved p l agree) p l
      (Coordinator.ownedAccount ctx id >>= fun _ => call c : Task ν c.Answer)
      (Coordinator.ownedAccount ctx id' >>= fun _ => call c') := by
  refine (alike_ownedAccount meets).bind ?_
  rintro _ _ a b - ⟨rfl, rfl, -, paired⟩
  exact alike_call (corresponds paired)

/-- Two accounts are claimed in the same order, since the ids are in the same order. -/
theorem alike_lockPair (pairedFirst : (first, first') ∈ p.accounts)
    (pairedSecond : (second, second') ∈ p.accounts) (below : first < second ↔ first' < second')
    (above : second < first ↔ second' < first') :
    Alike p₀ (Unmoved p l fun x y => x.1.Agrees p.pairing y.1 ∧ x.2.Agrees p.pairing y.2) p l
      (lockPair first second : Task ν (Account × Account)) (lockPair first' second') := by
  by_cases same : first = second
  · have same' : first' = second' := by omega
    rw [lockPair_of_eq same, lockPair_of_eq same']
    exact alike_throw (.same _)
  · have apart' : first' ≠ second' := by omega
    rw [lockPair_of_ne same, lockPair_of_ne apart']
    by_cases low : first < second
    · have low' := below.1 low
      rw [Int.min_eq_left low.le, Int.max_eq_right low.le, Int.min_eq_left low'.le,
        Int.max_eq_right low'.le]
      refine (alike_call (.claim pairedFirst)).bind ?_
      rintro _ _ a b - ⟨rfl, rfl, agree, -⟩
      refine (alike_call (.claim pairedSecond)).bind ?_
      rintro _ _ c d - ⟨rfl, rfl, agree', -⟩
      rw [if_pos low, if_pos low']
      exact alike_pure ⟨rfl, rfl, agree, agree'⟩
    · have high : second ≤ first := Int.not_lt.1 low
      have high' : second' ≤ first' := Int.not_lt.1 (mt below.2 low)
      rw [Int.min_eq_right high, Int.max_eq_left high, Int.min_eq_right high',
        Int.max_eq_left high']
      refine (alike_call (.claim pairedSecond)).bind ?_
      rintro _ _ a b - ⟨rfl, rfl, agree, -⟩
      refine (alike_call (.claim pairedFirst)).bind ?_
      rintro _ _ c d - ⟨rfl, rfl, agree', -⟩
      rw [if_neg low, if_neg (Int.not_lt.2 high')]
      exact alike_pure ⟨rfl, rfl, agree', agree⟩

end Task

/-! ## Attempts at a transfer -/

/-- Two attempts are alike, whatever states they have gone through, and their outcomes agree. -/
def TransferAttempt.Alike (p₀ : Register) (R : Register → Ledger → α → β → Prop) (p : Register)
    (l : Ledger) (x : TransferAttempt ν α) (x' : TransferAttempt ν β) : Prop :=
  ∀ visited visited', Work.Alike p₀
    (fun p' l' o o' => Outcome.Agrees p₀.pairing (R p' l') o.1 o'.1) p l
    (x.run.run visited) (x'.run.run visited')

namespace TransferAttempt

variable {R : Register → Ledger → α → β → Prop} {R' : Register → Ledger → α' → β' → Prop}
  {x : TransferAttempt ν α} {x' : TransferAttempt ν β} {f : α → TransferAttempt ν α'}
  {f' : β → TransferAttempt ν β'}

theorem alike_pure {a : α} {b : β} (values : R p l a b) :
    Alike p₀ R p l (pure a : TransferAttempt ν α) (pure b) :=
  fun _ _ => .done (.ok values)

theorem alike_throw {e e' : Error} (failures : e.Agrees p₀.pairing e') :
    Alike p₀ R p l (throw e : TransferAttempt ν α) (throw e') :=
  fun _ _ => .done (.error failures)

theorem alike_advance (next : TransferState) :
    Alike p₀ (Unmoved p l fun _ _ => True) p l (advance next : TransferAttempt ν Unit)
      (advance next) :=
  fun _ _ => .done (.ok ⟨rfl, rfl, trivial⟩)

theorem alike_perform {task : Task ν α} {task' : Task ν β} (alike : task.Alike p₀ R p l task') :
    Alike p₀ R p l (perform task) (perform task') := by
  intro visited visited'
  show Work.Alike _ _ p l (task.run >>= fun outcome => pure (outcome, visited))
    (task'.run >>= fun outcome => pure (outcome, visited'))
  exact Work.Alike.bind alike fun p' l' o o' _ agree => .done agree

theorem alike_call {c c' : Call} {R : Register → Ledger → c.Answer → c'.Answer → Prop}
    (corresponds : c.Corresponds p₀ p l c' R) :
    Alike p₀ R p l (call c : TransferAttempt ν c.Answer) (call c') :=
  alike_perform (Task.alike_call corresponds)

theorem Alike.bind (alike : Alike p₀ R p l x x')
    (later : ∀ p' l' a b, p ≤ p' → R p' l' a b → Alike p₀ R' p' l' (f a) (f' b)) :
    Alike p₀ R' p l (x >>= f) (x' >>= f') := by
  intro visited visited'
  show Work.Alike _ _ p l (x.run.run visited >>= fun s => (ExceptT.bindCont f s.1).run s.2)
    (x'.run.run visited' >>= fun s => (ExceptT.bindCont f' s.1).run s.2)
  refine Work.Alike.bind (alike visited visited') ?_
  rintro p' l' ⟨o, visited₁⟩ ⟨o', visited₁'⟩ part agree
  cases agree with
  | ok values => exact later p' l' _ _ part values visited₁ visited₁'
  | error failures => exact .done (.error failures)

end TransferAttempt

/-! ## The unit of work of a transfer -/

namespace TransferRequest

open TransferAttempt

variable {r r' : TransferRequest}

/-- Two requests move the same amount between accounts that belong to each other. -/
structure Pairs (p : Register) (r r' : TransferRequest) : Prop where
  source : (r.source, r'.source) ∈ p.accounts
  destination : (r.destination, r'.destination) ∈ p.accounts
  amount : r'.amount = r.amount

theorem alike_lookup (source : Meets p r.source r'.source)
    (destination : Meets p r.destination r'.destination) :
    Task.Alike p₀ (Unmoved p l fun x y => x.1.Agrees p.pairing y.1 ∧ x.2.Agrees p.pairing y.2 ∧
        (r.source, r'.source) ∈ p.accounts ∧ (r.destination, r'.destination) ∈ p.accounts) p l
      (r.lookup : Task ν (Account × Account)) r'.lookup := by
  unfold lookup
  refine (Task.alike_call (.getAccount source)).bind ?_
  rintro _ _ a b - ⟨rfl, rfl, agree, -, paired⟩
  refine (Task.alike_call (.getAccount destination)).bind ?_
  rintro _ _ c d - ⟨rfl, rfl, agree', -, paired'⟩
  exact Task.alike_pure ⟨rfl, rfl, agree, agree', paired, paired'⟩

/-- The changes of a transfer, each of which adds to the register what it gives out. -/
theorem alike_book (pairs : r.Pairs p₀ r') (part : p₀ ≤ p) :
    Alike p₀ (fun p' _ s s' => s.Agrees p'.pairing s') p l
      (r.book : TransferAttempt ν TransferResult) r'.book := by
  unfold book
  rw [pairs.amount]
  refine (alike_advance _).bind ?_
  rintro _ _ _ _ - ⟨rfl, rfl, -⟩
  refine (alike_call (.adjust pairs.source _)).bind fun p₁ l₁ a b part₁ sources => ?_
  refine (alike_call (.adjust pairs.destination _)).bind fun p₂ l₂ c d part₂ destinations => ?_
  have until₂ := Register.le_trans part (Register.le_trans part₁ part₂)
  refine (alike_call (.createEntry (until₂.1 pairs.source) _)).bind fun p₃ l₃ e f part₃ debits => ?_
  have until₃ := Register.le_trans until₂ part₃
  refine (alike_call (.createEntry (until₃.1 pairs.destination) _)).bind
    fun p₄ l₄ g h part₄ credits => ?_
  have until₄ := Register.le_trans until₃ part₄
  refine (alike_call (.createTransfer (until₄.1 pairs.source) (until₄.1 pairs.destination) _)).bind
    fun p₅ l₅ t u part₅ transfers => ?_
  refine (alike_advance _).bind ?_
  rintro _ _ _ _ - ⟨rfl, rfl, -⟩
  have from₃ := Register.le_trans part₄ part₅
  have from₂ := Register.le_trans part₃ from₃
  exact alike_pure ⟨transfers, sources.mono (Register.le_trans part₂ from₂),
    destinations.mono from₂, debits.mono from₃, credits.mono part₅⟩

theorem alike_carryOut (pairs : r.Pairs p r')
    (below : r.source < r.destination ↔ r'.source < r'.destination)
    (above : r.destination < r.source ↔ r'.destination < r'.source) :
    Alike p (fun p' _ s s' => s.Agrees p'.pairing s') p l
      (r.carryOut : TransferAttempt ν TransferResult) r'.carryOut := by
  rw [carryOut_eq, carryOut_eq]
  refine (alike_perform (Task.alike_lockPair pairs.source pairs.destination below above)).bind ?_
  rintro _ _ x y - ⟨rfl, rfl, source, -⟩
  refine (alike_advance _).bind ?_
  rintro _ _ _ _ - ⟨rfl, rfl, -⟩
  rw [source.balance, pairs.amount]
  by_cases short : x.1.balance < r.amount
  · rw [if_pos short, if_pos short]
    exact alike_throw (.short source.id _ _)
  · rw [if_neg short, if_neg short]
    exact alike_book pairs (Register.le_refl _)

end TransferRequest

/-! ## Jobs -/

/-- Two jobs are alike, whatever their states, and their outcomes agree. -/
def Job.Alike {κ κ' : Type} (R : Register → Ledger → α → β → Prop) (p : Register) (l : Ledger)
    (job : Job κ ν α) (job' : Job κ' ν β) : Prop :=
  ∀ state state', Work.Alike p (fun p' l' o o' => Outcome.Agrees p.pairing (R p' l') o.1 o'.1) p l
    (job state) (job' state')

theorem Job.alike_ofTask {R : Register → Ledger → α → β → Prop} {task : Task ν α}
    {task' : Task ν β} (alike : task.Alike p R p l task') :
    Job.Alike R p l (.ofTask task) (.ofTask task') :=
  fun _ _ => Work.Alike.bind alike fun _ _ _ _ _ agree => .done agree

namespace TransferRequest

variable {r r' : TransferRequest}

theorem alike_onCommitAll {notices notices' : List ν} (many : notices.length = notices'.length) :
    Work.Alike p₀ (Unmoved p l fun _ _ => True) p l (onCommitAll notices)
      (onCommitAll notices') := by
  induction notices generalizing notices' with
  | nil =>
    obtain rfl := List.length_eq_zero_iff.1 many.symm
    exact .done ⟨rfl, rfl, trivial⟩
  | cons notice rest ih =>
    obtain ⟨notice', rest', rfl⟩ := List.exists_cons_of_length_eq_add_one many.symm
    exact .onCommit notice notice' (ih (Nat.succ.inj many))

theorem alike_execute (pairs : r.Pairs p r')
    (below : r.source < r.destination ↔ r'.source < r'.destination)
    (above : r.destination < r.source ↔ r'.destination < r'.source) :
    Work.Alike p (fun p' _ o o' =>
        Outcome.Agrees p.pairing (fun s s' => s.Agrees p'.pairing s') o.1 o'.1) p l
      (r.execute : Work ν _) r'.execute := by
  unfold execute
  refine Work.Alike.bind (alike_carryOut pairs below above _ _) ?_
  rintro p' l' ⟨o, visited⟩ ⟨o', visited'⟩ - agree
  cases agree with
  | ok values => exact .done (.ok values)
  | error failures => exact .done (.error failures)

/-- **The units of work of two transfers are alike** if the accounts belong to each other, whoever
listens. -/
theorem alike_job (pairs : r.Pairs p r')
    (below : r.source < r.destination ↔ r'.source < r'.destination)
    (above : r.destination < r.source ↔ r'.destination < r'.source)
    (listeners : List (TransferResult → ν)) :
    Job.Alike (fun p' _ s s' => s.Agrees p'.pairing s') p l
      (r.job fun result => listeners.map (· result))
      (r'.job fun result => listeners.map (· result)) := by
  intro state state'
  unfold job
  refine Work.Alike.bind (alike_execute pairs below above) ?_
  rintro p' l' ⟨o, visited⟩ ⟨o', visited'⟩ - agree
  cases agree with
  | ok values =>
    refine Work.Alike.bind (alike_onCommitAll (by simp)) ?_
    rintro _ _ _ _ - ⟨rfl, rfl, -⟩
    exact .done (.ok values)
  | error failures => exact .done (.error failures)

end TransferRequest
end DoubleEntry
