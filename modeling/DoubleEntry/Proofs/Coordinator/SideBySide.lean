import DoubleEntry.Proofs.Coordinator.Attempts
import DoubleEntry.Proofs.Program.SideBySide
import DoubleEntry.Transfer.Execution

/-!
# Coordinators side by side

A coordinator does two jobs that go side by side: both begin, commit, give up and try again at the
same steps, as long as the store answers the calls of both alike.  What alike means is a
`Call.Likeness`, and depends on what is to be shown.

The two may register different notices.  These are sent after everything else, so the two part only
when they send them: `beside_runJob`.
-/

namespace DoubleEntry

open Program

/-! ## Likeness -/

/-- Which calls are made on both sides, and which answers to a call count as alike. -/
structure Call.Likeness where
  made : Call → Prop
  answers : (c : Call) → c.Outcome → c.Outcome → Prop

variable {κ ν α β α' β' : Type} {k : Call.Likeness}

namespace Call.Likeness

/-- The steps of a unit of work on both sides. -/
def InWork (k : Likeness) : WorkStep ν → Prop
  | .call c => k.made c
  | _ => False

/-- The answers to the steps of a unit of work. -/
def worked (k : Likeness) : (s : WorkStep ν) → s.Answer → s.Answer → Prop
  | .call c => k.answers c
  | .onCommit _ | .wait _ | .cancel _ => fun a a' => a' = a

/-- The steps of a procedure on both sides. -/
def InSteps (k : Likeness) : Step ν → Prop
  | .call _ c => k.made c
  | _ => True

/-- The answers to the steps of a procedure: those to calls are alike, and all others the same. -/
def stepped (k : Likeness) : (q : Step ν) → q.Answer → q.Answer → Prop
  | .call _ c => k.answers c
  | .now | .check _ | .begin _ | .commit | .rollback | .wait _ | .cancel _ | .notify _ =>
    fun a a' => a' = a

end Call.Likeness

/-- Two units of work side by side. -/
abbrev Work.Beside (k : Call.Likeness) (place : Work ν α → Work ν β → Prop) :
    Work ν α → Work ν β → Prop :=
  SideBySide k.InWork k.worked place

/-- Two procedures side by side. -/
abbrev Procedure.Beside (k : Call.Likeness) (place : Procedure ν α → Procedure ν β → Prop) :
    Procedure ν α → Procedure ν β → Prop :=
  SideBySide k.InSteps k.stepped place

theorem Procedure.beside_of_aside {p : Procedure ν α} (aside : p.AsksOnly Step.Aside) :
    Beside k (BothDone Eq) p p := by
  refine .of_asksOnly aside fun q aside => ?_
  cases q with
  | begin ctx | call ctx c | commit | rollback => exact aside.elim
  | now | check ctx | wait d | cancel token | notify notice =>
    exact ⟨trivial, fun _ _ same => same⟩

/-- Two outcomes are successes that are related, or the same failure. -/
inductive Outcome.Alike (R : α → β → Prop) : Except Error α → Except Error β → Prop
  | ok {a : α} {b : β} (related : R a b) : Alike R (.ok a) (.ok b)
  | error (e : Error) : Alike R (.error e) (.error e)

/-- What fails on one side fails on the other; what succeeds goes on from there. -/
theorem Program.SideBySide.exceptBind {Q : Type} {A : Q → Type} {asked : Q → Prop}
    {alike : (q : Q) → A q → A q → Prop} {R : α → β → Prop}
    {place : Program A (Except Error α') → Program A (Except Error β') → Prop}
    {x : ExceptT Error (Program A) α} {x' : ExceptT Error (Program A) β}
    {f : α → ExceptT Error (Program A) α'} {f' : β → ExceptT Error (Program A) β'}
    (first : SideBySide asked alike (BothDone (Outcome.Alike R)) x.run x'.run)
    (failed : ∀ e, place (.done (.error e)) (.done (.error e)))
    (later : ∀ a b, R a b → SideBySide asked alike place (f a).run (f' b).run) :
    SideBySide asked alike place (x >>= f).run (x' >>= f').run := by
  refine first.bind (f := ExceptT.bindCont f) (g := ExceptT.bindCont f') fun o o' outcomes => ?_
  cases outcomes with
  | ok related => exact later _ _ related
  | error e => exact .place (failed e)

theorem Outcome.bothDone_error {Q : Type} {A : Q → Type} {R : α → β → Prop} (e : Error) :
    BothDone (A := A) (Alike R) (.done (.error e)) (.done (.error e)) :=
  ⟨_, _, rfl, rfl, .error e⟩

theorem Outcome.alike_refl (o : Except Error α) : Alike Eq o o := by
  cases o with
  | error e => exact .error e
  | ok a => exact .ok rfl

/-- Two outcomes of a job, with the state that it leaves. -/
def Outcome.AlikeWith (R : α → β → Prop) (r : Except Error α × κ) (r' : Except Error β × κ) :
    Prop :=
  Alike R r.1 r'.1 ∧ r'.2 = r.2

/-! ## Notices -/

section Notices

variable (among : List ν → List ν → Prop) (R : α → β → Prop)

/-- Both units of work only have to register such notices, and are done then. -/
def Registering (w : Work ν α) (w' : Work ν β) : Prop :=
  ∃ notices notices' a b, w = (TransferRequest.onCommitAll notices >>= fun _ => .done a) ∧
    w' = (TransferRequest.onCommitAll notices' >>= fun _ => .done b) ∧
    among notices notices' ∧ R a b

/-- Both procedures only have to send such notices, and are done then. -/
def Telling (p : Procedure ν α) (p' : Procedure ν β) : Prop :=
  ∃ notices notices' a b, p = (Coordinator.notifyAll notices >>= fun _ => .done a) ∧
    p' = (Coordinator.notifyAll notices' >>= fun _ => .done b) ∧ among notices notices' ∧ R a b

end Notices

namespace Coordinator

variable {among : List ν → List ν → Prop} {R : α → β → Prop} {ctx : Context}

theorem carryOut_registering (earlier notices : List ν) (a : α) :
    carryOut ctx earlier (TransferRequest.onCommitAll notices >>= fun _ => .done a) =
      .done (a, earlier ++ notices) := by
  induction notices generalizing earlier with
  | nil =>
    rw [List.append_nil]
    rfl
  | cons notice rest ih =>
    rw [List.append_cons]
    exact ih _

/-- With the same notices, the two can send them side by side. -/
theorem beside_of_telling {p : Procedure ν α} {p' : Procedure ν β}
    (telling : Telling (fun notices notices' => notices' = notices) R p p') :
    Procedure.Beside k (BothDone R) p p' := by
  obtain ⟨notices, notices', a, b, rfl, rfl, same, related⟩ := telling
  rw [same]
  exact (Procedure.beside_of_aside (aside_notifyAll notices)).bind fun _ _ _ => .done related

/-! ## One attempt -/

theorem beside_carryOut {w : Work ν α} {w' : Work ν β}
    (both : Work.Beside k (Registering among R) w w') :
    Procedure.Beside k (BothDone fun r r' => R r.1 r'.1 ∧ among r.2 r'.2) (carryOut ctx [] w)
      (carryOut ctx [] w') := by
  induction both with
  | place there =>
    obtain ⟨notices, notices', a, b, rfl, rfl, such, related⟩ := there
    rw [carryOut_registering, carryOut_registering]
    exact .done ⟨related, such⟩
  | @ask s kind _ _ _ ih =>
    cases s with
    | call c => exact .ask (q := Step.call ctx c) kind ih
    | onCommit notice | wait d | cancel token => exact kind.elim

theorem beside_abandon {R : α → β → Prop} (cause : Error) :
    Procedure.Beside k (BothDone (Outcome.Alike R))
      ((abandon cause : Procedure ν Error) >>= fun e => .done (.error e))
      ((abandon cause : Procedure ν Error) >>= fun e => .done (.error e)) := by
  refine .ask (q := Step.rollback) trivial ?_
  rintro _ ended rfl
  cases ended with
  | error e => exact .done (.error _)
  | ok u => exact .done (.error _)

theorem beside_conclude {o : Except Error α} {o' : Except Error β} (alike : Outcome.Alike R o o')
    {notices notices' : List ν} (such : among notices notices') :
    Procedure.Beside k
      (BothDone (Outcome.Alike fun r r' => R r.1 r'.1 ∧ among r.2 r'.2))
      (conclude ctx o notices) (conclude ctx o' notices') := by
  cases alike with
  | error cause => exact beside_abandon cause
  | ok related =>
    refine .ask (q := Step.check ctx) trivial ?_
    rintro _ checked rfl
    cases checked with
    | error cause => exact beside_abandon cause
    | ok u =>
      refine .ask (q := Step.commit) trivial ?_
      rintro _ ended rfl
      cases ended with
      | error e => exact .done (.error e)
      | ok u => exact .done (.ok ⟨related, such⟩)

section Jobs

variable {job : Job κ ν α} {job' : Job κ ν β} (both : ∀ state,
  Work.Beside k (Registering among (Outcome.AlikeWith R)) (job state) (job' state))

include both

theorem beside_attempt (state : κ) :
    Procedure.Beside k
      (BothDone (Outcome.AlikeWith fun r r' => R r.1 r'.1 ∧ among r.2 r'.2))
      (attempt ctx job state) (attempt ctx job' state) := by
  refine .ask (q := Step.begin ctx) trivial ?_
  rintro _ begun rfl
  cases begun with
  | error e => exact .done ⟨.error e, rfl⟩
  | ok u =>
    refine (beside_carryOut (both state)).bind ?_
    rintro ⟨⟨_, _⟩, _⟩ ⟨⟨_, left⟩, _⟩ ⟨⟨alike, rfl⟩, such⟩
    exact (beside_conclude alike such).bind fun _ _ alike => .done ⟨alike, rfl⟩

/-! ## All attempts -/

theorem beside_attempts (none : among [] []) (c : Coordinator) (retries n : Nat) (state : κ) :
    Procedure.Beside k (Telling among (Outcome.AlikeWith R)) (c.attempts ctx job retries n state)
      (c.attempts ctx job' retries n state) := by
  have failed (e : Error) (left : κ) : Procedure.Beside k
      (Telling among (Outcome.AlikeWith R)) (.done (.error e, left)) (.done (.error e, left)) :=
    .place ⟨[], [], _, _, rfl, rfl, none, .error e, rfl⟩
  induction retries generalizing n state with
  | zero =>
    rw [attempts, attempts]
    refine (beside_attempt both state).bind ?_
    rintro ⟨_, _⟩ ⟨_, left⟩ ⟨alike, rfl⟩
    cases alike with
    | error e => exact failed e left
    | ok related =>
      exact .place ⟨_, _, (.ok _, left), (.ok _, left), rfl, rfl, related.2, .ok related.1, rfl⟩
  | succ more ih =>
    rw [attempts, attempts]
    refine (beside_attempt both state).bind ?_
    rintro ⟨_, _⟩ ⟨_, left⟩ ⟨alike, rfl⟩
    cases alike with
    | ok related =>
      exact .place ⟨_, _, (.ok _, left), (.ok _, left), rfl, rfl, related.2, .ok related.1, rfl⟩
    | error e =>
      dsimp only
      split
      · refine (Procedure.beside_of_aside (aside_pause _)).bind ?_
        rintro answer _ rfl
        cases answer with
        | error late => exact failed late left
        | ok u => exact ih (n + 1) left
      · exact failed e left

/-- The two run side by side until they send their notices. -/
theorem beside_runJob (none : among [] []) (c : Coordinator) (ctx : Context) (state : κ) :
    Procedure.Beside k (Telling among (Outcome.AlikeWith R)) (c.runJob ctx job state)
      (c.runJob ctx job' state) := by
  refine (Procedure.beside_of_aside (aside_limited c ctx)).bind ?_
  rintro limited _ rfl
  exact beside_attempts both none c _ _ state

end Jobs

/-- Tasks that go side by side and register nothing are carried out side by side. -/
theorem beside_run {task : Task ν α} {task' : Task ν β}
    (both : Work.Beside k (BothDone (Outcome.Alike R)) task.run task'.run) (c : Coordinator)
    (ctx : Context) :
    Procedure.Beside k (BothDone (Outcome.Alike R)) (c.run ctx task : Operation ν α).run
      (c.run ctx task' : Operation ν β).run := by
  have jobs (state : Unit) : Work.Beside k
      (Registering (fun notices notices' => notices' = notices) (Outcome.AlikeWith R))
      (Job.ofTask task state) (Job.ofTask task' state) :=
    both.bind fun o o' alike => .place ⟨[], [], (o, ()), (o', ()), rfl, rfl, rfl, alike, rfl⟩
  exact (beside_runJob jobs rfl c ctx ()).bind_places fun p p' telling =>
    (beside_of_telling telling).bind fun r r' alike => .done alike.1

end Coordinator
end DoubleEntry
