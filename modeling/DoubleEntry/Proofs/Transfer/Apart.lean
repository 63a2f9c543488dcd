import DoubleEntry.Proofs.Coordinator.SideBySide
import DoubleEntry.Proofs.Ledger.Accounts
import DoubleEntry.Proofs.Transfer.Procedure

/-!
# What a transfer depends on

A transfer looks at nothing but its two accounts.  On ledgers that agree on them it goes the same
way and comes to the same, except for the ids of what it records: `TransferRequest.beside_transfer`.
-/

namespace DoubleEntry

open Program

variable {ν α β α' β' : Type}

/-! ## Records without their ids -/

/-- An entry, whatever its id. -/
def Entry.unnumbered (e : Entry) : Entry := { e with id := 0 }

/-- A transfer, whatever its id. -/
def Transfer.unnumbered (t : Transfer) : Transfer := { t with id := 0 }

/-- The result of a transfer, whatever the ids of the new records. -/
def TransferResult.unnumbered (s : TransferResult) : TransferResult :=
  { s with transfer := s.transfer.unnumbered, debit := s.debit.unnumbered,
           credit := s.credit.unnumbered }

/-! ## Ledgers that agree on two accounts -/

namespace TransferRequest

variable {r : TransferRequest} {l l' : Ledger}

/-- Whether an account is one of the two sides. -/
def Names (r : TransferRequest) (id : Int) : Prop := id = r.source ∨ id = r.destination

/-- The calls that have to do with the two accounts only.  The same call is answered alike if the
answers differ at most in the id of a new record. -/
def likeness (r : TransferRequest) : Call.Likeness where
  made
    | .getAccount id | .claim id | .adjust id _ | .createEntry id _ => r.Names id
    | .createTransfer source destination _ => r.Names source ∧ r.Names destination
    | _ => False
  answers
    | .createEntry .. => Outcome.Alike fun e e' => e'.unnumbered = e.unnumbered
    | .createTransfer .. => Outcome.Alike fun t t' => t'.unnumbered = t.unnumbered
    | _ => fun o o' => o' = o

theorem likeness_error (c : Call) (e : Error) :
    r.likeness.answers c (.error e) (.error e) := by
  cases c <;> first
    | exact rfl
    | exact .error e

/-- Two ledgers agree on the accounts of a transfer. -/
def SameSides (r : TransferRequest) (l l' : Ledger) : Prop :=
  ∀ id, r.Names id → l'.account? id = l.account? id

theorem SameSides.getAccount (same : r.SameSides l l') {id : Int} (named : r.Names id) :
    l'.getAccount id = l.getAccount id := by
  unfold Ledger.getAccount
  rw [same id named]

theorem SameSides.requireAccount (same : r.SameSides l l') {id : Int} (named : r.Names id) :
    l'.requireAccount id = l.requireAccount id := by
  unfold Ledger.requireAccount Ledger.hasAccount
  rw [same id named]

theorem SameSides.setBalance (same : r.SameSides l l') {id : Int} (balance : Int) :
    r.SameSides (l.setBalance id balance) (l'.setBalance id balance) := by
  intro other named
  rw [Ledger.account?_setBalance, Ledger.account?_setBalance, same other named]

/-- Ledgers that agree on the accounts answer the calls alike, and still agree after them. -/
theorem SameSides.onLedger (same : r.SameSides l l') {c : Call} (made : r.likeness.made c)
    (now : Timestamp) :
    r.likeness.answers c (Memory.onLedger now l c).1 (Memory.onLedger now l' c).1 ∧
      r.SameSides (Memory.onLedger now l c).2 (Memory.onLedger now l' c).2 := by
  cases c with
  | createAccount | listAccounts | listEntries | listTransfers | totals | audit => exact made.elim
  | getAccount id | claim id => exact ⟨same.getAccount made, same⟩
  | adjust id delta =>
    have found := same.getAccount made
    simp only [Memory.onLedger, Ledger.adjust, bind, Except.bind, found]
    cases l.getAccount id with
    | error e => exact ⟨rfl, same⟩
    | ok a =>
      dsimp only
      cases Amount.fit? (a.balance + delta) with
      | none => exact ⟨rfl, same⟩
      | some balance =>
        dsimp only
        split
        · exact ⟨rfl, same⟩
        · exact ⟨rfl, same.setBalance balance⟩
  | createEntry id amount =>
    have known := same.requireAccount made
    simp only [Memory.onLedger, Ledger.createEntry, known]
    cases l.requireAccount id with
    | error e => exact ⟨.error e, same⟩
    | ok u => exact ⟨.ok rfl, same⟩
  | createTransfer source destination amount =>
    have known := same.requireAccount made.1
    have known' := same.requireAccount made.2
    simp only [Memory.onLedger, Ledger.createTransfer, known, known']
    cases l.requireAccount source with
    | error e => exact ⟨.error e, same⟩
    | ok u =>
      cases l.requireAccount destination with
      | error e => exact ⟨.error e, same⟩
      | ok u =>
        simp only [Except.bind, bind]
        split
        · exact ⟨.error _, same⟩
        · exact ⟨.ok rfl, same⟩

end TransferRequest

/-! ## Attempts -/

/-- Two attempts go side by side, and leave the same states. -/
def TransferAttempt.Beside (k : Call.Likeness) (R : α → β → Prop) (x : TransferAttempt ν α)
    (x' : TransferAttempt ν β) : Prop :=
  ∀ visited, Work.Beside k (BothDone (Outcome.AlikeWith R)) (x.run.run visited) (x'.run.run visited)

namespace TransferAttempt

variable {k : Call.Likeness} {R : α → β → Prop} {R' : α' → β' → Prop} {x : TransferAttempt ν α}
  {x' : TransferAttempt ν β} {f : α → TransferAttempt ν α'} {f' : β → TransferAttempt ν β'}

theorem beside_pure {a : α} {b : β} (related : R a b) :
    Beside k R (pure a : TransferAttempt ν α) (pure b) :=
  fun _ => .done ⟨.ok related, rfl⟩

theorem beside_throw (e : Error) : Beside k R (throw e : TransferAttempt ν α) (throw e) :=
  fun _ => .done ⟨.error e, rfl⟩

theorem beside_advance (next : TransferState) :
    Beside k Eq (advance next : TransferAttempt ν Unit) (advance next) :=
  fun _ => .done ⟨.ok rfl, rfl⟩

theorem beside_perform {task : Task ν α} {task' : Task ν β}
    (both : Work.Beside k (BothDone (Outcome.Alike R)) task.run task'.run) :
    Beside k R (perform task) (perform task') :=
  fun visited => both.bind (f := fun outcome => .done (outcome, visited))
    (g := fun outcome => .done (outcome, visited)) fun _ _ alike => .done ⟨alike, rfl⟩

theorem beside_call {c : Call} (made : k.made c) {R : c.Answer → c.Answer → Prop}
    (alike : ∀ o o', k.answers c o o' → Outcome.Alike R o o') :
    Beside k R (call c : TransferAttempt ν c.Answer) (call c) :=
  beside_perform (.ask (q := WorkStep.call c) made fun o o' answered => .done (alike o o' answered))

theorem Beside.bind (first : Beside k R x x') (later : ∀ a b, R a b → Beside k R' (f a) (f' b)) :
    Beside k R' (x >>= f) (x' >>= f') := by
  intro visited
  refine (first visited).bind (f := fun s => (ExceptT.bindCont f s.1).run s.2)
    (g := fun s => (ExceptT.bindCont f' s.1).run s.2) ?_
  rintro ⟨_, _⟩ ⟨_, left⟩ ⟨alike, rfl⟩
  cases alike with
  | ok related => exact later _ _ related left
  | error e => exact .done ⟨.error e, rfl⟩

end TransferAttempt

namespace TransferRequest

open TransferAttempt

variable {r : TransferRequest}

theorem names_source : r.Names r.source := .inl rfl

theorem names_destination : r.Names r.destination := .inr rfl

/-- Looking at the two accounts, or claiming them. -/
def Inspects (r : TransferRequest) : WorkStep ν → Prop
  | .call (.getAccount id) | .call (.claim id) => r.Names id
  | _ => False

theorem inspects_lookup (r : TransferRequest) :
    (r.lookup : Task ν (Account × Account)).run.AsksOnly r.Inspects :=
  AsksOnly.exceptBind ⟨names_source, fun _ => trivial⟩ fun _ =>
    AsksOnly.exceptBind ⟨names_destination, fun _ => trivial⟩ fun _ => trivial

theorem inspects_lockPair (r : TransferRequest) :
    (Task.lockPair r.source r.destination : Task ν (Account × Account)).run.AsksOnly
      r.Inspects := by
  have low : r.Names (min r.source r.destination) := by unfold Names; omega
  have high : r.Names (max r.source r.destination) := by unfold Names; omega
  by_cases same : r.source = r.destination
  · rw [Task.lockPair_of_eq same]
    exact trivial
  · rw [Task.lockPair_of_ne same]
    exact AsksOnly.exceptBind ⟨low, fun _ => trivial⟩ fun _ =>
      AsksOnly.exceptBind ⟨high, fun _ => trivial⟩ fun _ => trivial

/-- What only inspects the accounts comes to the same. -/
theorem beside_of_inspects {task : Task ν α} (inspects : task.run.AsksOnly r.Inspects) :
    Work.Beside r.likeness (BothDone (Outcome.Alike Eq)) task.run task.run := by
  have both : Work.Beside r.likeness (BothDone Eq) task.run task.run := by
    refine .of_asksOnly inspects fun s inspects => ?_
    cases s with
    | onCommit notice | wait d | cancel token => exact inspects.elim
    | call c =>
      cases c <;> first
        | exact inspects.elim
        | exact ⟨inspects, fun _ _ same => same⟩
  have outcomes : Work.Beside r.likeness (BothDone (Outcome.Alike Eq)) (task.run >>= .done)
      (task.run >>= .done) := both.bind fun o _ same => .done (same ▸ Outcome.alike_refl o)
  rwa [bind_done] at outcomes

/-- The answers to a call that records nothing are the same. -/
theorem beside_same {c : Call} (made : r.likeness.made c)
    (same : ∀ o o', r.likeness.answers c o o' → o' = o) :
    TransferAttempt.Beside r.likeness Eq (call c : TransferAttempt ν c.Answer) (call c) :=
  beside_call made fun o o' answered => same o o' answered ▸ Outcome.alike_refl o

theorem beside_book (r : TransferRequest) :
    TransferAttempt.Beside r.likeness (fun s s' => s'.unnumbered = s.unnumbered)
      (r.book : TransferAttempt ν TransferResult) r.book := by
  refine (beside_advance _).bind ?_
  rintro ⟨⟩ _ rfl
  refine (beside_same (c := .adjust r.source _) names_source fun _ _ same => same).bind ?_
  rintro source _ rfl
  refine (beside_same (c := .adjust r.destination _) names_destination fun _ _ same => same).bind ?_
  rintro destination _ rfl
  refine (beside_call (c := .createEntry r.source _) names_source fun _ _ alike => alike).bind ?_
  intro debit debit' debits
  refine (beside_call (c := .createEntry r.destination _) names_destination
    fun _ _ alike => alike).bind ?_
  intro credit credit' credits
  refine (beside_call (k := r.likeness) (c := .createTransfer r.source r.destination _)
    ⟨names_source, names_destination⟩ fun _ _ alike => alike).bind ?_
  intro transfer transfer' transfers
  refine (beside_advance _).bind ?_
  rintro ⟨⟩ _ rfl
  refine beside_pure ?_
  simp only [TransferResult.unnumbered, debits, credits, transfers]

theorem beside_carryOut (r : TransferRequest) :
    TransferAttempt.Beside r.likeness (fun s s' => s'.unnumbered = s.unnumbered)
      (r.carryOut : TransferAttempt ν TransferResult) r.carryOut := by
  rw [carryOut_eq]
  refine (beside_perform (beside_of_inspects (inspects_lockPair r))).bind ?_
  rintro accounts _ rfl
  refine (beside_advance _).bind ?_
  rintro ⟨⟩ _ rfl
  split
  · exact beside_throw _
  · exact beside_book r

theorem beside_job (r : TransferRequest) (inform : TransferResult → List ν)
    (visited : List TransferState) :
    Work.Beside r.likeness
      (Registering (fun _ _ => True) (Outcome.AlikeWith fun s s' => s'.unnumbered = s.unnumbered))
      (r.job inform visited) (r.job inform visited) := by
  have executed : Work.Beside r.likeness
      (BothDone (Outcome.AlikeWith fun s s' => s'.unnumbered = s.unnumbered))
      (r.execute : Work ν _) r.execute := by
    refine (beside_carryOut r [.validated]).bind ?_
    rintro ⟨_, _⟩ ⟨_, left⟩ ⟨alike, rfl⟩
    cases alike with
    | ok related => exact .done ⟨.ok related, rfl⟩
    | error e => exact .done ⟨.error e, rfl⟩
  refine executed.bind ?_
  rintro ⟨_, _⟩ ⟨_, left⟩ ⟨alike, rfl⟩
  cases alike with
  | ok related =>
    exact .place ⟨_, _, (.ok _, left), (.ok _, left), rfl, rfl, trivial, .ok related, rfl⟩
  | error e =>
    exact .place ⟨[], [], (.error e, left), (.error e, left), rfl, rfl, trivial, .error e, rfl⟩

end TransferRequest

/-! ## The operation -/

namespace Coordinator

open TransferRequest

/-- **A transfer goes the same way on ledgers that agree on its accounts**, until it tells of its
result. -/
theorem beside_transfer (c : Coordinator) (inform : TransferResult → List ν) (ctx : Context)
    (r : TransferRequest) :
    Procedure.Beside r.likeness
      (Telling (fun _ _ => True) (Outcome.Alike fun s s' => s'.unnumbered = s.unnumbered))
      (c.transfer inform ctx r).run (c.transfer inform ctx r).run := by
  have failed (e : Error) : Telling (ν := ν) (fun _ _ => True)
      (Outcome.Alike fun s s' : TransferResult => s'.unnumbered = s.unnumbered)
      (.done (.error e)) (.done (.error e)) :=
    ⟨[], [], _, _, rfl, rfl, trivial, .error e⟩
  have checked : Procedure.Beside r.likeness (BothDone (Outcome.Alike Eq))
      (Operation.require r.check : Operation ν Unit).run (Operation.require r.check).run :=
    .done (Outcome.alike_refl _)
  refine checked.exceptBind failed fun _ _ _ => ?_
  have prechecked : Procedure.Beside r.likeness (BothDone (Outcome.Alike Eq))
      (c.precheck ctx r : Operation ν Unit).run (c.precheck ctx r).run := by
    rw [precheck_eq]
    refine (beside_run (beside_of_inspects (inspects_lookup r)) c ctx).exceptBind
      Outcome.bothDone_error ?_
    rintro accounts _ rfl
    exact .done (Outcome.alike_refl _)
  refine prechecked.exceptBind failed fun _ _ _ => ?_
  refine (beside_runJob (beside_job r inform) trivial c ctx [.validated]).bind_places
    (f := fun s => .done s.1) (g := fun s => .done s.1) ?_
  rintro _ _ ⟨notices, notices', ⟨o, left⟩, ⟨o', _⟩, rfl, rfl, -, alike, rfl⟩
  refine .place ⟨notices, notices', o, o', ?_, ?_, trivial, alike⟩
  · rw [bind_assoc]
    rfl
  · rw [bind_assoc]
    rfl

end Coordinator
end DoubleEntry
