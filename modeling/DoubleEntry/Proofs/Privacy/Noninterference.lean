import DoubleEntry.Account.Requests
import DoubleEntry.Proofs.Coordinator.SideBySide
import DoubleEntry.Proofs.Privacy.Views
import DoubleEntry.Proofs.Refinement.Requests
import DoubleEntry.Store.Memory

/-!
# What a user is told

A user who asks for accounts, entries and transfers is told nothing that depends on what belongs to
others.  Such a request runs twice, on two ledgers that look alike to the user:

* `Twins` relates the two runs while they go on.  They ask the same questions; only what they are
  answered by the ledger may differ, and then the difference must not reach the end.
* `Operation.tells_run` — a coordinator that does twin tasks side by side makes twins of them.
* `Twins.exec` — the two runs come to values that are related.
* `Ask.replies_alike` — **the two replies are the same, and everything in them is the user's own.**
-/

namespace DoubleEntry

open Program

section Twins

variable {ν α β α' β' : Type} {l l' : Ledger}

/-! ## Two ledgers -/

/-- The ways in which two stores with these ledgers answer a call. -/
inductive Ledger.AnswerBoth (l l' : Ledger) (c : Call) : c.Outcome → c.Outcome → Prop
  /-- The call fails on both sides before it reaches the ledger. -/
  | failed (e : Error) : AnswerBoth l l' c (.error e) (.error e)
  | read (now : Timestamp) :
      AnswerBoth l l' c (Memory.onLedger now l c).1 (Memory.onLedger now l' c).1

/-- Two units of work that make the same calls, which only look at the ledgers, and come to values
that are related. -/
inductive Work.Twins (l l' : Ledger) (R : α → β → Prop) : Work ν α → Work ν β → Prop
  | done {a : α} {b : β} (related : R a b) : Twins l l' R (.done a) (.done b)
  | call {c : Call} (looks : c.Looks) {next : c.Outcome → Work ν α} {next' : c.Outcome → Work ν β}
      (later : ∀ o o', l.AnswerBoth l' c o o' → Twins l l' R (next o) (next' o')) :
      Twins l l' R (.ask (.call c) next) (.ask (.call c) next')

/-- A step that is not a call. -/
def Step.Uncalling : Step ν → Prop
  | .call .. => False
  | _ => True

/-- Two procedures that take the same steps, as far as what the ledgers answer allows, and come to
values that are related. -/
inductive Procedure.Twins (l l' : Ledger) (R : α → β → Prop) :
    Procedure ν α → Procedure ν β → Prop
  | done {a : α} {b : β} (related : R a b) : Twins l l' R (.done a) (.done b)
  | call {ctx : Context} {c : Call} (looks : c.Looks) {next : c.Outcome → Procedure ν α}
      {next' : c.Outcome → Procedure ν β}
      (later : ∀ o o', l.AnswerBoth l' c o o' → Twins l l' R (next o) (next' o')) :
      Twins l l' R (.ask (.call ctx c) next) (.ask (.call ctx c) next')
  | step {q : Step ν} (uncalling : q.Uncalling) {next : q.Answer → Procedure ν α}
      {next' : q.Answer → Procedure ν β}
      (later : ∀ answer, Twins l l' R (next answer) (next' answer)) :
      Twins l l' R (.ask q next) (.ask q next')

theorem Procedure.Twins.bind {R : α → β → Prop} {R' : α' → β' → Prop} {p : Procedure ν α}
    {p' : Procedure ν β} {f : α → Procedure ν α'} {f' : β → Procedure ν β'}
    (first : Twins l l' R p p') (later : ∀ a b, R a b → Twins l l' R' (f a) (f' b)) :
    Twins l l' R' (p >>= f) (p' >>= f') := by
  induction first with
  | done related => exact later _ _ related
  | call looks _ ih => exact .call looks ih
  | step uncalling _ ih => exact .step uncalling ih

/-! ## Twins that run side by side -/

/-- Two outcomes are the same, and a success is such. -/
def Told (P : α → Prop) (o o' : Except Error α) : Prop :=
  o' = o ∧ ∀ a, o = .ok a → P a

theorem told_error {P : α → Prop} (e : Error) : Told P (.error e) (.error e) :=
  ⟨rfl, nofun⟩

theorem told_ok {P : α → Prop} {a : α} (such : P a) : Told P (.ok a) (.ok a) :=
  ⟨rfl, fun _ same => Except.ok.inj same ▸ such⟩

theorem told_iff_alike {P : α → Prop} {o o' : Except Error α} :
    Told P o o' ↔ Outcome.Alike (fun a a' => a' = a ∧ P a) o o' := by
  constructor
  · rintro ⟨rfl, told⟩
    cases o' with
    | error e => exact .error e
    | ok a => exact .ok ⟨rfl, told a rfl⟩
  · rintro (⟨rfl, such⟩ | e)
    · exact told_ok such
    · exact told_error e

/-- Calls that only look at the ledgers, and are answered by both. -/
def Ledger.readings (l l' : Ledger) : Call.Likeness where
  made := Call.Looks
  answers := l.AnswerBoth l'

theorem Work.Twins.beside {R R' : α → β → Prop} {work : Work ν α} {work' : Work ν β}
    (twins : Twins l l' R work work') (weaker : ∀ a b, R a b → R' a b) :
    Beside (l.readings l') (BothDone R') work work' := by
  induction twins with
  | done related => exact .done (weaker _ _ related)
  | @call c looks _ _ _ ih => exact .ask (q := WorkStep.call c) looks ih

theorem Procedure.Beside.twins {R R' : α → β → Prop} {p : Procedure ν α} {p' : Procedure ν β}
    (both : Beside (l.readings l') (BothDone R) p p') (weaker : ∀ a b, R a b → R' a b) :
    Twins l l' R' p p' := by
  induction both with
  | place there =>
    obtain ⟨a, b, rfl, rfl, related⟩ := there
    exact .done (weaker a b related)
  | @ask q kind _ _ _ ih =>
    cases q with
    | call ctx c => exact .call kind ih
    | now | check ctx | begin ctx | commit | rollback | wait d | cancel token | notify notice =>
      exact .step (by trivial) fun answer => ih answer answer rfl

/-! ## Operations that tell such values -/

/-- On both ledgers the task comes to the same outcome, and a success is such. -/
def Task.Tells (l l' : Ledger) (P : α → Prop) (task : Task ν α) : Prop :=
  Work.Twins l l' (Told P) task.run task.run

/-- On both ledgers the operation comes to the same outcome, and a success is such. -/
def Operation.Tells (l l' : Ledger) (P : α → Prop) (x : Operation ν α) : Prop :=
  Procedure.Twins l l' (Told P) x.run x.run

namespace Operation

variable {P : α → Prop} {Q : β → Prop}

theorem tells_run {task : Task ν α} (tells : task.Tells l l' P) (c : Coordinator) (ctx : Context) :
    (c.run ctx task : Operation ν α).Tells l l' P := by
  have both := Work.Twins.beside tells fun _ _ => told_iff_alike.1
  exact Procedure.Beside.twins (Coordinator.beside_run both c ctx) fun _ _ => told_iff_alike.2

theorem Tells.map {x : Operation ν α} (tells : x.Tells l l' P) {f : α → β}
    (such : ∀ a, P a → Q (f a)) : (f <$> x).Tells l l' Q := by
  refine Procedure.Twins.bind tells ?_
  rintro _ outcome ⟨rfl, told⟩
  cases outcome with
  | error e => exact .done (told_error e)
  | ok a => exact .done (told_ok (such a (told a rfl)))

end Operation

/-! ## Reading what is one's own -/

section Reading

variable {p : Principal} {ctx : Context} {P : α → Prop}

theorem Task.ownedAccount_bind (ctx : Context) (id : Int) (f : Account → Task ν α) :
    (Coordinator.ownedAccount ctx id >>= f).run =
      .ask (.call (.getAccount id)) fun o =>
        match o with
        | .error e => .done (.error e)
        | .ok a =>
          match ctx.authorize a.owner with
          | .error e => .done (.error e)
          | .ok () => (f a).run := by
  refine congrArg (Program.ask _) (funext fun o => ?_)
  cases o with
  | error e => rfl
  | ok a =>
    show ((Task.require (ctx.authorize a.owner) >>= fun _ => pure a) >>= f).run =
      match ctx.authorize a.owner with
      | .error e => .done (.error e)
      | .ok () => (f a).run
    cases ctx.authorize a.owner <;> rfl

/-- What is done with an account that the principal may see comes to the same on both ledgers, if it
does where the account is the principal's own. -/
theorem Task.tells_ownedAccount {id : Int} (alike : l.LooksAlike p l')
    (acting : ctx.principal = some p) {f : Account → Task ν α}
    (later : ∀ a, l.account? id = some a → p.username = a.owner → (f a).Tells l l' P) :
    (Coordinator.ownedAccount ctx id >>= f).Tells l l' P := by
  unfold Tells
  rw [ownedAccount_bind]
  refine .call (c := .getAccount id) trivial fun o o' both => ?_
  cases both with
  | failed e => exact .done (told_error e)
  | read now =>
    simp only [Memory.onLedger, Ledger.getAccount, Context.authorize, acting]
    obtain ⟨here, there⟩ | ⟨a, here, there, owner⟩ | ⟨a, a', here, there, same, foreign⟩ :=
      alike.account?_cases id
    · simp only [here, there]
      exact .done (told_error _)
    · simp only [here, there, if_pos owner]
      exact later a here owner
    · simp only [here, there, same, if_neg foreign]
      exact .done (told_error _)

theorem Task.tells_call {c : Call} {P : c.Answer → Prop} (looks : c.Looks)
    (same : ∀ now, Told P (Memory.onLedger now l c).1 (Memory.onLedger now l' c).1) :
    (Task.call c : Task ν c.Answer).Tells l l' P := by
  refine .call looks fun o o' both => ?_
  cases both with
  | failed e => exact .done (told_error e)
  | read now => exact .done (same now)

end Reading

end Twins

/-! ## Runs on two ledgers -/

section Runs

open Store

variable {ν α β : Type} {l l' : Ledger}

/-- The same world with another committed ledger. -/
def World.holding (w : World Memory.State) (l : Ledger) : World Memory.State :=
  { w with data := { w.data with committed := l } }

/-- Anything that happens around a run and has nothing to do with the committed ledger. -/
def Blind (stir : Nat → World Memory.State → World Memory.State) : Prop :=
  ∀ n w l, stir n (w.holding l) = (stir n w).holding l

/-- Somebody who works on this ledger and has not changed it. -/
structure Seat.Sees (l : Ledger) (seat : Seat Memory.State Ledger ν) : Prop where
  committed : seat.world.data.committed = l
  staged : ∀ tx, seat.transaction = some tx → tx = l

/-- The same seat on another ledger. -/
def Seat.showing (seat : Seat Memory.State Ledger ν) (l : Ledger) : Seat Memory.State Ledger ν :=
  ⟨seat.world.holding l, seat.transaction.map fun _ => l, seat.sent⟩

theorem Blind.committed {stir : Nat → World Memory.State → World Memory.State} (blind : Blind stir)
    (n : Nat) (w : World Memory.State) :
    (stir n w).data.committed = w.data.committed := by
  have same := blind n w w.data.committed
  exact congrArg (fun w => w.data.committed) same

theorem perform_showing {seat : Seat Memory.State Ledger ν} (sees : seat.Sees l) {q : Step ν}
    (uncalling : q.Uncalling) (l' : Ledger) :
    Memory.store.perform q (seat.showing l') =
        ((Memory.store.perform q seat).1, (Memory.store.perform q seat).2.showing l') ∧
      (Memory.store.perform q seat).2.Sees l := by
  obtain ⟨⟨moment, data⟩, transaction, sent⟩ := seat
  obtain ⟨rfl, staged⟩ := sees
  cases q with
  | call ctx c => exact uncalling.elim
  | now | check ctx | wait d | cancel token | notify notice => exact ⟨rfl, rfl, staged⟩
  | begin ctx =>
    simp only [perform, Seat.showing, World.holding]
    cases ctx.check moment with
    | error e => exact ⟨rfl, rfl, staged⟩
    | ok u =>
      rcases transaction with _ | tx <;>
        exact ⟨rfl, rfl, fun _ same => (Option.some.inj same).symm⟩
  | commit =>
    rcases transaction with _ | tx
    · exact ⟨rfl, rfl, staged⟩
    · obtain rfl : tx = data.committed := staged tx rfl
      simp only [perform, Seat.showing, World.holding, Option.map, Memory.store, Memory.commit]
      cases data.commitConflicts <;> exact ⟨rfl, rfl, by rintro _ ⟨⟩⟩
  | rollback =>
    rcases transaction with _ | tx
    · exact ⟨rfl, rfl, staged⟩
    · exact ⟨rfl, rfl, by rintro _ ⟨⟩⟩

theorem perform_call_showing {seat : Seat Memory.State Ledger ν} (sees : seat.Sees l)
    (ctx : Context) {c : Call} (looks : c.Looks) (l' : Ledger) :
    l.AnswerBoth l' c (Memory.store.perform (.call ctx c) seat).1
        (Memory.store.perform (.call ctx c) (seat.showing l')).1 ∧
      (Memory.store.perform (.call ctx c) (seat.showing l')).2 =
        (Memory.store.perform (.call ctx c) seat).2.showing l' ∧
      (Memory.store.perform (.call ctx c) seat).2.Sees l := by
  obtain ⟨⟨moment, data⟩, transaction, sent⟩ := seat
  obtain ⟨rfl, staged⟩ := sees
  simp only [perform, Seat.showing, World.holding]
  cases ctx.check moment with
  | error e => exact ⟨.failed e, rfl, rfl, staged⟩
  | ok u =>
    rcases transaction with _ | tx
    · exact ⟨.failed notOpen, rfl, rfl, staged⟩
    · obtain rfl : tx = data.committed := staged tx rfl
      cases c <;> first
        | exact looks.elim
        | exact ⟨.read (.ofNanos moment.now), rfl, rfl, fun _ same => (Option.some.inj same).symm⟩

/-- Two runs of twins, on two ledgers, come to values that are related. -/
theorem Procedure.Twins.exec {R : α → β → Prop} {p : Procedure ν α} {p' : Procedure ν β}
    (twins : Procedure.Twins l l' R p p') {stir : Nat → World Memory.State → World Memory.State}
    (blind : Blind stir) (seat : Seat Memory.State Ledger ν) (sees : seat.Sees l) (n : Nat) :
    R (p.exec (Memory.store.performAmid stir) (seat, n)).1
      (p'.exec (Memory.store.performAmid stir) (seat.showing l', n)).1 := by
  have stirred {seat : Seat Memory.State Ledger ν} (sees : seat.Sees l) (n : Nat) :
      Seat.Sees l { seat with world := stir n seat.world } :=
    ⟨(blind.committed n seat.world).trans sees.committed, sees.staged⟩
  have same (seat : Seat Memory.State Ledger ν) (n : Nat) :
      ({ seat.showing l' with world := stir n (seat.showing l').world } : Seat _ _ ν) =
        Seat.showing { seat with world := stir n seat.world } l' := by
    rw [Seat.showing, blind]
    rfl
  induction twins generalizing seat n with
  | done related => exact related
  | @step q uncalling next next' later ih =>
    obtain ⟨performed, sees'⟩ := perform_showing (stirred sees n) uncalling l'
    simp only [Program.exec, performAmid, same, performed]
    exact ih _ _ sees' (n + 1)
  | @call ctx c looks next next' later ih =>
    obtain ⟨both, performed, sees'⟩ :=
      perform_call_showing (stirred sees n) ctx looks l'
    simp only [Program.exec, performAmid, same, performed]
    exact ih _ _ both _ sees' (n + 1)

end Runs

/-! ## Requests -/

section Requests

variable {ν : Type}

/-- Whether the request is for accounts, entries or transfers. -/
def Ask.Personal : Ask ν → Prop
  | .getAccount _ | .listAccounts .. | .listEntries .. | .listTransfers .. => True
  | _ => False

/-- All that is in a reply belongs to a user: accounts that the user owns, entries on them and
transfers that touch them. -/
def Reply.BelongsTo (p : Principal) (l : Ledger) : Reply → Prop
  | .account a => a.owner = p.username
  | .accounts listed => ∀ a ∈ listed, a.owner = p.username
  | .entries listed => ∀ e ∈ listed, l.owns p e.account = true
  | .transfers listed => ∀ t ∈ listed, l.owns p t.source = true ∨ l.owns p t.destination = true
  | _ => False

namespace Ask

theorem mem_window {α : Type} {page : Page} {records : List α} {a : α}
    (mem : a ∈ page.window records) : a ∈ records :=
  List.mem_of_mem_drop (List.mem_of_mem_take mem)

theorem tells_serve {p : Principal} {l l' : Ledger} (alike : l.LooksAlike p l') (c : Coordinator)
    {ctx : Context} (acting : ctx.principal = some p) (store : String) {ask : Ask ν}
    (personal : ask.Personal) : (ask.serve c store ctx).Tells l l' (Reply.BelongsTo p l) := by
  cases ask with
  | createAccount new fits | transfer r listeners | status | checkHealth => exact personal.elim
  | getAccount id =>
    have tells : (Coordinator.ownedAccount ctx id : Task ν Account).Tells l l'
        fun a => p.username = a.owner := by
      rw [← bind_pure (Coordinator.ownedAccount ctx id)]
      exact Task.tells_ownedAccount alike acting fun a _ owner => .done (told_ok owner)
    exact (Operation.tells_run tells c ctx).map fun a owner => owner.symm
  | listAccounts asked page =>
    have tells : (Task.call (.listAccounts (some p.username) page) : Task ν (List Account)).Tells
        l l' fun listed => ∀ a ∈ listed, a.owner = p.username := by
      refine Task.tells_call trivial fun now => ?_
      simp only [Memory.onLedger, alike.accounts]
      exact told_ok fun a mem => by simpa using (List.mem_filter.1 (mem_window mem)).2
    have ran := (Operation.tells_run tells c ctx).map (f := Reply.accounts)
      (Q := Reply.BelongsTo p l) fun _ own => own
    simp only [serve, Coordinator.listAccounts, Coordinator.listedOwner, acting]
    cases asked with
    | none => exact ran
    | some owner =>
      by_cases own : p.username = owner
      · simp only [if_pos own]
        exact own ▸ ran
      · simp only [if_neg own]
        exact .done (told_error _)
  | listEntries id page =>
    refine (Operation.tells_run (Task.tells_ownedAccount alike acting fun a found owner =>
      Task.tells_call (c := .listEntries id page) trivial fun now => ?_) c ctx).map fun _ own => own
    have owned := Ledger.owns_of_found found owner
    simp only [Memory.onLedger, alike.entriesOf owned]
    refine told_ok fun e mem => ?_
    obtain rfl : e.account = id := by simpa using (List.mem_filter.1 (mem_window mem)).2
    exact owned
  | listTransfers id page =>
    refine (Operation.tells_run (Task.tells_ownedAccount alike acting fun a found owner =>
      Task.tells_call (c := .listTransfers id page) trivial fun now => ?_) c ctx).map
        fun _ own => own
    have owned := Ledger.owns_of_found found owner
    simp only [Memory.onLedger, alike.transfersOf owned]
    refine told_ok fun t mem => ?_
    obtain rfl | rfl : t.source = id ∨ t.destination = id := by
      simpa [Transfer.touches] using (List.mem_filter.1 (mem_window mem)).2
    · exact .inl owned
    · exact .inr owned

/-- Two ledgers look alike to a user.  Whatever the user asks about accounts, entries and transfers,
the replies from the two ledgers are the same, and everything in them is the user's own. -/
theorem replies_alike {p : Principal} {l l' : Ledger} (alike : l.LooksAlike p l')
    (c : Coordinator) {ctx : Context} (acting : ctx.principal = some p) (store : String)
    {ask : Ask ν} (personal : ask.Personal) {stir : Nat → World Memory.State → World Memory.State}
    (blind : Blind stir) (world : World Memory.State) :
    let run (l : Ledger) := Memory.store.runAmid stir (ask.serve c store ctx).run (world.holding l)
    (run l').value = (run l).value ∧ ∀ reply, (run l).value = .ok reply → reply.BelongsTo p l :=
  (tells_serve alike c acting store personal).exec blind (Store.outside (world.holding l))
    ⟨rfl, nofun⟩ 0

/-- Alice has given something to Bob.  In one of the two ledgers, Bob has dealt with Carol
before. -/
def dealings (before : Bool) : Ledger where
  accounts := [⟨1, "alice", 70, .usd, .ofNanos 0⟩,
    ⟨2, "bob", if before then 0 else 80, .usd, .ofNanos 1⟩,
    ⟨3, "carol", if before then 130 else 50, .usd, .ofNanos 2⟩]
  entries := (if before then [⟨1, 2, -80, .ofNanos 3⟩, ⟨2, 3, 80, .ofNanos 3⟩] else []) ++
    [⟨3, 1, -30, .ofNanos 4⟩, ⟨4, 2, 30, .ofNanos 4⟩]
  transfers := (if before then [⟨1, 2, 3, 80, .ofNanos 3⟩] else []) ++ [⟨2, 1, 2, 30, .ofNanos 4⟩]
  lastAccount := 3
  lastEntry := 4
  lastTransfer := 2

/-- Alice asks for the first page of her transfers, and the first attempt runs into a conflict. -/
theorem replies_alike_dealings :
    let run (l : Ledger) := Memory.store.runAmid (fun n w => { w with moment := ⟨n, []⟩ })
      ((.listTransfers 1 ⟨0, 1⟩ : Ask Unit).serve ⟨.standard, none, fun _ => 7⟩ "memory"
        ((Context.background ⟨0⟩).actingAs "alice")).run
      (World.holding ⟨⟨0, []⟩, { Memory.State.empty with commitConflicts := 1 }⟩ l)
    (dealings true).transfers ≠ (dealings false).transfers ∧
      (run (dealings true)).value = (run (dealings false)).value ∧
      (run (dealings false)).value = .ok (.transfers [⟨2, 1, 2, 30, .ofNanos 4⟩]) := by
  intro run
  have alike : (dealings false).LooksAlike ⟨"alice"⟩ (dealings true) := by
    constructor
    case owners =>
      intro id
      simp only [dealings, Ledger.account?, List.find?]
      split <;> try rfl
      split <;> try rfl
      split <;> rfl
    all_goals decide +kernel
  have acting : ((Context.background ⟨0⟩).actingAs "alice").principal = some ⟨"alice"⟩ := rfl
  have personal : (.listTransfers 1 ⟨0, 1⟩ : Ask Unit).Personal := trivial
  have blind : Blind fun n w => { w with moment := ⟨n, []⟩ } := fun _ _ _ => rfl
  obtain ⟨same, -⟩ := replies_alike alike ⟨.standard, none, fun _ => 7⟩ acting "memory" personal
    blind ⟨⟨0, []⟩, { Memory.State.empty with commitConflicts := 1 }⟩
  exact ⟨by decide +kernel, same, by decide +kernel⟩

end Ask
end Requests
end DoubleEntry
