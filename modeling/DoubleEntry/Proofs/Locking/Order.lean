import DoubleEntry.Proofs.Transfer.Procedure

/-!
# The order of claims

A unit of work that locks accounts by `Task.lockPair` claims the one with the lower id first.

* `Task.runs_lockPair` — the ways of locking a pair: in which order the accounts are claimed, what
  happens if one of them cannot be, and in which order they are given back.
* `Work.LocksOnce` — work that claims accounts by locking one pair at most.  Every attempt at a
  transfer is such work (`TransferRequest.locksOnce_job`).
* `Procedure.Ascends` — whatever the answers, every account that is claimed lies above all that the
  transaction holds already.  What a coordinator does for work that locks once ascends, and holds
  nothing at the end (`Procedure.LocksInTurn.ascends`).
-/

namespace DoubleEntry

open Program

/-! ## Locking a pair -/

namespace Task

variable {ν : Type}

/-- The ways of locking a pair: the claims that are made, with their answers, and the outcome. -/
inductive LocksPair (first second : Int) :
    Work.Record ν → Except Error (Account × Account) → Prop
  /-- A single account is no pair, and nothing is claimed. -/
  | same (eq : first = second) :
      LocksPair first second [] (.error (.validation "cannot lock the same account twice"))
  /-- The lower account cannot be claimed, and the other is left alone. -/
  | low (apart : first ≠ second) (e : Error) :
      LocksPair first second [⟨.call (.claim (min first second)), .error e⟩] (.error e)
  /-- The lower account is claimed and the higher one cannot be. -/
  | high (apart : first ≠ second) (claimed : Account) (e : Error) :
      LocksPair first second
        [⟨.call (.claim (min first second)), .ok claimed⟩,
          ⟨.call (.claim (max first second)), .error e⟩] (.error e)
  /-- Both are claimed, the first one first. -/
  | ascending (below : first < second) (a b : Account) :
      LocksPair first second
        [⟨.call (.claim first), .ok a⟩, ⟨.call (.claim second), .ok b⟩] (.ok (a, b))
  /-- Both are claimed, the second one first. -/
  | descending (above : second < first) (a b : Account) :
      LocksPair first second
        [⟨.call (.claim second), .ok b⟩, ⟨.call (.claim first), .ok a⟩] (.ok (a, b))

/-- There are these ways of locking a pair and no others. -/
theorem runs_lockPair {first second : Int} {steps : Work.Record ν}
    {outcome : Except Error (Account × Account)} :
    (lockPair first second : Task ν (Account × Account)).run.Runs steps outcome ↔
      LocksPair first second steps outcome := by
  by_cases same : first = second
  · rw [lockPair_of_eq same]
    constructor
    · rintro ⟨rfl, rfl⟩
      exact .same same
    · intro locked
      cases locked with
      | same eq => exact ⟨rfl, rfl⟩
      | low apart e | high apart a e => exact absurd same apart
      | ascending below a b => exact absurd same (Int.ne_of_lt below)
      | descending above a b => exact absurd same (Int.ne_of_gt above)
  · rw [lockPair_of_ne same]
    constructor
    · intro run
      obtain ⟨e, failed, rfl⟩ | ⟨_, a, _, rfl, low, later⟩ := runs_exceptBind run
      · obtain rfl := runs_question.1 failed
        exact .low same e
      obtain rfl := runs_question.1 low
      obtain ⟨e, failed, rfl⟩ | ⟨_, b, _, rfl, high, rfl, rfl⟩ := runs_exceptBind later
      · obtain rfl := runs_question.1 failed
        exact .high same a e
      obtain rfl := runs_question.1 high
      rcases Int.lt_or_gt_of_ne same with below | above
      · rw [if_pos below, Int.min_eq_left (Int.le_of_lt below),
          Int.max_eq_right (Int.le_of_lt below)]
        exact .ascending below a b
      · rw [if_neg (Int.not_lt.2 (Int.le_of_lt above)), Int.min_eq_right (Int.le_of_lt above),
          Int.max_eq_left (Int.le_of_lt above)]
        exact .descending above b a
    · intro locked
      cases locked with
      | same eq => exact absurd eq same
      | low apart e => exact ⟨.error e, [], rfl, rfl, rfl⟩
      | high apart a e => exact ⟨.ok a, _, rfl, .error e, [], rfl, rfl, rfl⟩
      | ascending below a b =>
        rw [Int.min_eq_left (Int.le_of_lt below), Int.max_eq_right (Int.le_of_lt below)]
        refine ⟨.ok a, _, rfl, .ok b, [], rfl, rfl, ?_⟩
        rw [if_pos below]
      | descending above a b =>
        rw [Int.min_eq_right (Int.le_of_lt above), Int.max_eq_left (Int.le_of_lt above)]
        refine ⟨.ok b, _, rfl, .ok a, [], rfl, rfl, ?_⟩
        rw [if_neg (Int.not_lt.2 (Int.le_of_lt above))]

end Task

/-! ## Work that locks one pair at most -/

section Locking

variable {ν α β : Type}

/-- A step that claims no account. -/
def WorkStep.Unclaiming : WorkStep ν → Prop
  | .call (.claim _) => False
  | _ => True

/-- Work that claims accounts by locking one pair at most. -/
inductive Work.LocksOnce : Work ν α → Prop
  | never {work : Work ν α} (unclaiming : work.AsksOnly WorkStep.Unclaiming) : LocksOnce work
  | pair (first second : Int) {next : Except Error (Account × Account) → Work ν α}
      (unclaiming : ∀ locked, (next locked).AsksOnly WorkStep.Unclaiming) :
      LocksOnce ((Task.lockPair first second : Task ν (Account × Account)).run >>= next)
  | ask {s : WorkStep ν} {next : s.Answer → Work ν α} (unclaiming : s.Unclaiming)
      (later : ∀ answer, LocksOnce (next answer)) : LocksOnce (.ask s next)

theorem Work.LocksOnce.bind {work : Work ν α} {f : α → Work ν β} (locks : work.LocksOnce)
    (unclaiming : ∀ a, (f a).AsksOnly WorkStep.Unclaiming) : (work >>= f).LocksOnce := by
  induction locks with
  | never only => exact .never (only.bind unclaiming)
  | pair first second only =>
    rw [bind_assoc]
    exact .pair first second fun locked => (only locked).bind unclaiming
  | ask plain _ ih => exact .ask plain fun answer => ih answer

namespace TransferAttempt

/-- An attempt that claims nothing, whatever states it has gone through. -/
def Unclaiming (x : TransferAttempt ν α) : Prop :=
  ∀ visited, (x.run.run visited).AsksOnly WorkStep.Unclaiming

theorem unclaiming_call {c : Call} (unclaiming : (WorkStep.call c : WorkStep ν).Unclaiming) :
    (call c : TransferAttempt ν c.Answer).Unclaiming :=
  fun _ => ⟨unclaiming, fun _ => trivial⟩

theorem unclaiming_bind {x : TransferAttempt ν α} {f : α → TransferAttempt ν β}
    (first : x.Unclaiming) (later : ∀ a, (f a).Unclaiming) : (x >>= f).Unclaiming := by
  intro visited
  show (x.run.run visited >>= fun s => (ExceptT.bindCont f s.1).run s.2).AsksOnly _
  refine (first visited).bind fun ⟨outcome, visited⟩ => ?_
  cases outcome with
  | error e => exact trivial
  | ok a => exact later a visited

end TransferAttempt

namespace TransferRequest

open TransferAttempt

theorem unclaiming_book (r : TransferRequest) :
    (r.book : TransferAttempt ν TransferResult).Unclaiming :=
  unclaiming_bind (fun _ => trivial) fun _ =>
  unclaiming_bind (unclaiming_call trivial) fun _ =>
  unclaiming_bind (unclaiming_call trivial) fun _ =>
  unclaiming_bind (unclaiming_call trivial) fun _ =>
  unclaiming_bind (unclaiming_call trivial) fun _ =>
  unclaiming_bind (unclaiming_call trivial) fun _ =>
  unclaiming_bind (fun _ => trivial) fun _ _ => trivial

theorem unclaiming_onCommitAll (notices : List ν) :
    (onCommitAll notices).AsksOnly WorkStep.Unclaiming := by
  induction notices with
  | nil => exact trivial
  | cons notice rest ih => exact ⟨trivial, fun _ => ih⟩

/-- An attempt at a transfer locks its two accounts and claims no others. -/
theorem locksOnce_job (r : TransferRequest) (notices : TransferResult → List ν)
    (visited : List TransferState) : (r.job notices visited).LocksOnce := by
  have locked (visited : List TransferState) :
      ((perform (Task.lockPair r.source r.destination) :
        TransferAttempt ν (Account × Account)).run.run visited).LocksOnce :=
    .pair r.source r.destination fun _ => trivial
  have carried (visited : List TransferState) :
      ((r.carryOut : TransferAttempt ν TransferResult).run.run visited).LocksOnce := by
    rw [carryOut_eq]
    refine (locked visited).bind fun ⟨outcome, visited⟩ => ?_
    cases outcome with
    | error e => exact trivial
    | ok accounts =>
      refine unclaiming_bind (x := advance .locked) (fun _ => trivial) (fun _ => ?_) visited
      split
      · exact fun _ => trivial
      · exact r.unclaiming_book
  have executed : (r.execute : Work ν _).LocksOnce := by
    refine (carried _).bind fun ⟨outcome, visited⟩ => ?_
    cases outcome <;> exact trivial
  refine executed.bind fun ⟨outcome, visited⟩ => ?_
  cases outcome with
  | error e => exact trivial
  | ok result => exact (unclaiming_onCommitAll _).bind fun _ => trivial

end TransferRequest

/-! ## Claiming in order -/

/-- What a transaction holds after a call, if it held some accounts before. -/
def Call.holding (held : List Int) : (c : Call) → c.Outcome → List Int
  | .claim id, .ok _ => id :: held
  | _, _ => held

/-- A call claims nothing but an account above those that are held. -/
def Call.Ascends (held : List Int) : Call → Prop
  | .claim id => ∀ h ∈ held, h < id
  | _ => True

/-- What is held after a step of some work. -/
def WorkStep.holding (held : List Int) : (s : WorkStep ν) → s.Answer → List Int
  | .call c, outcome => c.holding held outcome
  | .onCommit _, _ | .wait _, _ | .cancel _, _ => held

/-- What is held after a step on a store. -/
def Step.holding (held : List Int) : (q : Step ν) → q.Answer → List Int
  | .call _ c, outcome => c.holding held outcome
  | .begin _, .ok () => []
  | .commit, _ | .rollback, _ => []
  | _, _ => held

/-- Whatever the answers, the claims of some work ascend. -/
def Work.Ascends : Work ν α → List Int → Prop
  | .done _, _ => True
  | .ask s next, held =>
    (∀ c, s = .call c → c.Ascends held) ∧
      ∀ answer, Work.Ascends (next answer) (s.holding held answer)

/-- Whatever the answers, the claims of a procedure ascend, and it ends with such accounts held. -/
def Procedure.Ascends (ends : List Int → Prop) : Procedure ν α → List Int → Prop
  | .done _, held => ends held
  | .ask q next, held =>
    (∀ ctx c, q = .call ctx c → c.Ascends held) ∧
      ∀ answer, Procedure.Ascends ends (next answer) (q.holding held answer)

namespace Work

theorem ascends_ask {s : WorkStep ν} {next : s.Answer → Work ν α} {held : List Int}
    (unclaiming : s.Unclaiming) (later : ∀ answer, (next answer).Ascends held) :
    Ascends (.ask s next) held := by
  cases s with
  | onCommit notice | wait d | cancel token => exact ⟨by rintro _ ⟨⟩, later⟩
  | call c =>
    cases c with
    | claim id => exact unclaiming.elim
    | _ => exact ⟨by rintro _ ⟨⟩; exact trivial, later⟩

theorem ascends_of_unclaiming {work : Work ν α} (only : work.AsksOnly WorkStep.Unclaiming)
    (held : List Int) : work.Ascends held := by
  induction work with
  | done a => exact trivial
  | ask s next ih => exact ascends_ask only.1 fun answer => ih answer (only.2 answer)

/-- Work that locks once claims the lower account first. -/
theorem LocksOnce.ascends {work : Work ν α} (locks : work.LocksOnce) : work.Ascends [] := by
  induction locks with
  | never only => exact ascends_of_unclaiming only []
  | ask plain _ ih => exact ascends_ask plain ih
  | @pair first second next only =>
    by_cases same : first = second
    · rw [Task.lockPair_of_eq same]
      exact ascends_of_unclaiming (only _) []
    · rw [Task.lockPair_of_ne same]
      refine ⟨by rintro _ ⟨⟩; exact List.forall_mem_nil _, fun low => ?_⟩
      cases low with
      | error e => exact ascends_of_unclaiming (only _) _
      | ok a =>
        refine ⟨?_, fun high => ?_⟩
        · rintro _ ⟨⟩
          show ∀ h ∈ [min first second], h < max first second
          rw [List.forall_mem_singleton]
          omega
        · cases high <;> exact ascends_of_unclaiming (only _) _

end Work

namespace Procedure

variable {ends between : List Int → Prop} {held : List Int}

theorem Ascends.bind {p : Procedure ν α} {f : α → Procedure ν β} (first : p.Ascends between held)
    (later : ∀ a held, between held → (f a).Ascends ends held) : (p >>= f).Ascends ends held := by
  induction p generalizing held with
  | done a => exact later a held first
  | ask q next ih => exact ⟨first.1, fun answer => ih answer (first.2 answer)⟩

/-- What comes after a procedure that holds nothing at its end starts with nothing held. -/
theorem Ascends.andThen {p : Procedure ν α} {f : α → Procedure ν β}
    (first : p.Ascends (· = []) held) (later : ∀ a, (f a).Ascends ends []) :
    (p >>= f).Ascends ends held := by
  refine first.bind fun a held none => ?_
  subst none
  exact later a

/-- Nothing is claimed in passing. -/
theorem ascends_of_aside {p : Procedure ν α} (aside : p.AsksOnly Step.Aside) :
    p.Ascends (· = []) [] := by
  induction p with
  | done a => exact rfl
  | ask q next ih =>
    refine ⟨?_, fun answer => ?_⟩
    · rintro _ _ rfl
      exact aside.1.elim
    · have still : q.holding [] answer = [] := by
        cases q <;> first | rfl | exact aside.1.elim
      rw [still]
      exact ih answer (aside.2 answer)

end Procedure

namespace Coordinator

variable {κ : Type} {ctx : Context}

theorem ascends_carryOut {work : Work ν α} {held : List Int} (ascends : work.Ascends held)
    (notices : List ν) : (carryOut ctx notices work).Ascends (fun _ => True) held := by
  induction work generalizing held notices with
  | done a => exact trivial
  | ask s next ih =>
    obtain ⟨above, later⟩ := ascends
    cases s with
    | call c =>
      refine ⟨?_, fun outcome => ih outcome (later outcome) notices⟩
      rintro _ _ ⟨⟩
      exact above c rfl
    | onCommit notice => exact ih () (later ()) _
    | wait d | cancel token => exact ⟨by rintro _ _ ⟨⟩, fun _ => ih () (later ()) notices⟩

theorem ascends_abandon (cause : Error) (held : List Int) :
    (abandon cause : Procedure ν Error).Ascends (· = []) held := by
  refine ⟨by rintro _ _ ⟨⟩, fun ended => ?_⟩
  cases ended <;> exact rfl

/-- A transaction holds nothing when it is over. -/
theorem ascends_conclude (outcome : Except Error α) (notices : List ν) (held : List Int) :
    (conclude ctx outcome notices).Ascends (· = []) held := by
  cases outcome with
  | error cause => exact (ascends_abandon cause held).andThen fun _ => rfl
  | ok value =>
    refine ⟨by rintro _ _ ⟨⟩, fun checked => ?_⟩
    cases checked with
    | error cause => exact (ascends_abandon cause held).andThen fun _ => rfl
    | ok u =>
      refine ⟨by rintro _ _ ⟨⟩, fun ended => ?_⟩
      cases ended <;> exact rfl

section Jobs

variable {job : Job κ ν α} (locks : ∀ state, (job state).LocksOnce)

include locks

theorem ascends_attempt (state : κ) : (attempt ctx job state).Ascends (· = []) [] := by
  refine ⟨by rintro _ _ ⟨⟩, fun begun => ?_⟩
  cases begun with
  | error e => exact rfl
  | ok u =>
    refine (ascends_carryOut (locks state).ascends []).bind fun ⟨⟨outcome, _⟩, notices⟩ held _ => ?_
    exact (ascends_conclude outcome notices held).andThen fun _ => rfl

theorem ascends_attempts (c : Coordinator) (retries n : Nat) (state : κ) :
    (c.attempts ctx job retries n state).Ascends (· = []) [] := by
  have told (notices : List ν) (value : α) (left : κ) :
      (notifyAll notices >>= fun _ => pure (.ok value, left) :
        Procedure ν (Except Error α × κ)).Ascends (· = []) [] :=
    Procedure.ascends_of_aside ((aside_notifyAll notices).bind fun _ => trivial)
  induction retries generalizing n state with
  | zero =>
    rw [attempts]
    refine (ascends_attempt locks state).andThen ?_
    rintro ⟨outcome, left⟩
    cases outcome with
    | error e => exact rfl
    | ok value => exact told value.2 value.1 left
  | succ more ih =>
    rw [attempts]
    refine (ascends_attempt locks state).andThen ?_
    rintro ⟨outcome, left⟩
    cases outcome with
    | ok value => exact told value.2 value.1 left
    | error e =>
      dsimp only
      split
      · refine (Procedure.ascends_of_aside (aside_pause _)).andThen fun answer => ?_
        cases answer with
        | error late => exact rfl
        | ok u => exact ih (n + 1) left
      · exact rfl

/-- What a coordinator does for work that locks once ascends, and holds nothing at the end. -/
theorem ascends_runJob (c : Coordinator) (ctx : Context) (state : κ) :
    (c.runJob ctx job state).Ascends (· = []) [] :=
  (Procedure.ascends_of_aside (aside_limited c ctx)).andThen fun _ =>
    ascends_attempts locks c _ _ state

end Jobs

end Coordinator

/-! ## Clients -/

namespace Procedure

/-- A client has a coordinator carry out jobs one after another, and every attempt at one of them
locks once. -/
inductive LocksInTurn : Procedure ν α → Prop
  | done (a : α) : LocksInTurn (.done a)
  | job {κ β : Type} (c : Coordinator) (ctx : Context) {job : Job κ ν β} (state : κ)
      {next : Except Error β × κ → Procedure ν α} (locks : ∀ state, (job state).LocksOnce)
      (later : ∀ result, LocksInTurn (next result)) :
      LocksInTurn (c.runJob ctx job state >>= next)

namespace LocksInTurn

theorem ascends {p : Procedure ν α} (locks : p.LocksInTurn) : p.Ascends (· = []) [] := by
  induction locks with
  | done a => exact rfl
  | job c ctx state locks _ ih =>
    exact (Coordinator.ascends_runJob locks c ctx state).andThen ih

theorem bind {p : Procedure ν α} {f : α → Procedure ν β} (first : p.LocksInTurn)
    (later : ∀ a, (f a).LocksInTurn) : (p >>= f).LocksInTurn := by
  induction first with
  | done a => exact later a
  | job c ctx state locks _ ih =>
    rw [bind_assoc]
    exact .job c ctx state locks ih

end LocksInTurn
end Procedure

namespace Coordinator

theorem locksInTurn_exceptBind {ε : Type} {x : ExceptT ε (Procedure ν) α}
    {f : α → ExceptT ε (Procedure ν) β} (first : x.run.LocksInTurn)
    (later : ∀ a, (f a).run.LocksInTurn) : (x >>= f).run.LocksInTurn := by
  show (x.run >>= ExceptT.bindCont f).LocksInTurn
  refine first.bind fun outcome => ?_
  cases outcome with
  | error e => exact .done _
  | ok a => exact later a

/-- A client that asks for a transfer locks in turn. -/
theorem locksInTurn_transfer (c : Coordinator) (notices : TransferResult → List ν) (ctx : Context)
    (r : TransferRequest) : (c.transfer notices ctx r).run.LocksInTurn := by
  have looked : (c.run ctx r.lookup : Operation ν (Account × Account)).run.LocksInTurn :=
    .job c ctx () (fun _ => .never ⟨trivial, fun source => by
      cases source with
      | error e => exact trivial
      | ok a => exact ⟨trivial, fun destination => by cases destination <;> exact trivial⟩⟩)
      fun _ => .done _
  have checked : (c.precheck ctx r : Operation ν Unit).run.LocksInTurn := by
    rw [precheck_eq]
    exact locksInTurn_exceptBind looked fun _ => .done _
  have moved : (c.runJob ctx (r.job notices) [.validated] >>= fun result =>
      pure result.1).LocksInTurn :=
    .job c ctx [.validated] (r.locksOnce_job notices) fun _ => .done _
  exact locksInTurn_exceptBind (.done _) fun _ => locksInTurn_exceptBind checked fun _ => moved

end Coordinator

end Locking
end DoubleEntry
