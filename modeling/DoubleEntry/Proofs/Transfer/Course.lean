import DoubleEntry.Proofs.Coordinator.Attempts
import DoubleEntry.Proofs.Locking.Order
import DoubleEntry.Proofs.Store.Onward

/-!
# The course of an attempt

An attempt at a transfer claims two accounts, looks at the balance of the source, makes five more
calls, and goes through the states of its life on the way.  Any of the calls may fail, and the
context may be over before any of them.

* `InTurn` — calls that are made one after another until one of them fails or the caller gives up.
* `Store.recording` — a store whose transactions remember which calls reached them.
* `TransferRequest.Course` — how the states of an attempt, its calls and its outcome keep in step.

The main result is `TransferRequest.attempt_keeps_course`: **whatever a store answers, and whatever
goes on around it, states, calls and outcome keep in step**.
-/

namespace DoubleEntry

open Program

/-! ## Calls in turn -/

/-- A call, and how it was answered. -/
structure MadeCall where
  call : Call
  outcome : call.Outcome

namespace MadeCall

variable {ν : Type}

/-- Whether the call succeeded. -/
def succeeded (e : MadeCall) : Bool := e.outcome.isOk

/-- The step of some work that makes the call. -/
def inWork (e : MadeCall) : (s : WorkStep ν) × s.Answer := ⟨.call e.call, e.outcome⟩

/-- The step on a store that makes the call under a context. -/
def under (ctx : Context) (e : MadeCall) : (q : Step ν) × q.Answer := ⟨.call ctx e.call, e.outcome⟩

theorem enacted_map_inWork (ctx : Context) (made : List MadeCall) :
    Work.Record.enacted ctx (made.map inWork) = (made.map (under ctx) : Procedure.Trace ν) := by
  induction made with
  | nil => rfl
  | cons e rest ih => exact congrArg (_ :: ·) ih

end MadeCall

/-- Calls that are made one after another, until one of them fails or the caller gives up, and
whether all of them were made and succeeded. -/
inductive InTurn : List Call → List MadeCall → Bool → Prop
  | done : InTurn [] [] true
  | gaveUp (c : Call) (rest : List Call) : InTurn (c :: rest) [] false
  | failed (c : Call) (rest : List Call) (e : Error) : InTurn (c :: rest) [⟨c, .error e⟩] false
  | next (c : Call) (a : c.Answer) {calls : List Call} {made : List MadeCall} {all : Bool}
      (later : InTurn calls made all) : InTurn (c :: calls) (⟨c, .ok a⟩ :: made) all

namespace InTurn

variable {calls more : List Call} {made made' : List MadeCall} {all : Bool}

theorem isPrefix (turn : InTurn calls made all) : made.map (·.call) <+: calls := by
  induction turn with
  | done => exact List.prefix_rfl
  | gaveUp c rest => exact List.nil_prefix
  | failed c rest e => exact List.cons_prefix_cons.2 ⟨rfl, List.nil_prefix⟩
  | next c a _ ih => exact List.cons_prefix_cons.2 ⟨rfl, ih⟩

theorem all_iff (turn : InTurn calls made all) :
    all = true ↔ made.map (·.call) = calls ∧ ∀ e ∈ made, e.succeeded = true := by
  induction turn with
  | done => simp
  | gaveUp c rest => simp
  | failed c rest e => simp [MadeCall.succeeded, Except.isOk, Except.toBool]
  | next c a _ ih => simp [ih, MadeCall.succeeded, Except.isOk, Except.toBool]

/-- Nothing is made after a failure. -/
theorem succeeded_of_mem_dropLast (turn : InTurn calls made all) :
    ∀ e ∈ made.dropLast, e.succeeded = true := by
  induction turn with
  | done | gaveUp c rest | failed c rest e => exact List.forall_mem_nil _
  | @next c a calls made all _ ih =>
    cases made with
    | nil => exact List.forall_mem_nil _
    | cons e rest => exact List.forall_mem_cons.2 ⟨rfl, ih⟩

theorem append (first : InTurn calls made true) (later : InTurn more made' all) :
    InTurn (calls ++ more) (made ++ made') all := by
  generalize whole : true = b at first
  induction first with
  | done => exact later
  | gaveUp c rest | failed c rest e => cases whole
  | next c a _ ih => exact .next c a (ih whole)

theorem append_of_not_all (first : InTurn calls made false) :
    InTurn (calls ++ more) made false := by
  generalize part : false = b at first
  induction first with
  | done => cases part
  | gaveUp c rest => exact .gaveUp c _
  | failed c rest e => exact .failed c _ e
  | next c a _ ih => exact .next c a (ih part)

/-- Without the failure at the end, it looks as if the caller had given up before it. -/
theorem of_concat {e : MadeCall} (turn : InTurn calls (made ++ [e]) all)
    (failure : e.succeeded = false) : InTurn calls made all := by
  generalize whole : made ++ [e] = made' at turn
  induction turn generalizing made with
  | done | gaveUp c rest => simp at whole
  | failed c rest e' =>
    obtain rfl : made = [] := by simpa using congrArg List.length whole
    exact .gaveUp c rest
  | next c a _ ih =>
    cases made with
    | nil =>
      cases whole
      cases failure
    | cons e' rest =>
      cases whole
      exact .next c a (ih rfl)

end InTurn

/-! ## Attempts call by call -/

namespace TransferAttempt

variable {ν α β : Type} {x : TransferAttempt ν α} {f : α → TransferAttempt ν β}
  {visited visited' : List TransferState} {record : Work.Record ν}

/-- A run of one part of an attempt after another: the first fails, or both run. -/
theorem runs_then {outcome : Except Error β}
    (run : ((x >>= f).run.run visited).Runs record (outcome, visited')) :
    (∃ e, (x.run.run visited).Runs record (.error e, visited') ∧ outcome = .error e) ∨
      ∃ before a between after, record = before ++ after ∧
        (x.run.run visited).Runs before (.ok a, between) ∧
        ((f a).run.run between).Runs after (outcome, visited') := by
  obtain ⟨before, ⟨first, between⟩, after, rfl, ran, rest⟩ := runs_bind.1
    (show (x.run.run visited >>= fun s => (ExceptT.bindCont f s.1).run s.2).Runs _ _ from run)
  cases first with
  | error e =>
    obtain ⟨rfl, ends⟩ := rest
    cases ends
    rw [List.append_nil]
    exact .inl ⟨e, ran, rfl⟩
  | ok a => exact .inr ⟨before, a, between, after, rfl, ran, rest⟩

theorem runs_perform {task : Task ν α} {outcome : Except Error α}
    (run : ((perform task).run.run visited).Runs record (outcome, visited')) :
    task.run.Runs record outcome ∧ visited' = visited := by
  obtain ⟨before, outcome', after, rfl, ran, rfl, ends⟩ :=
    runs_bind.1 (show (task.run >>= fun outcome => pure (outcome, visited)).Runs _ _ from run)
  cases ends
  rw [List.append_nil]
  exact ⟨ran, rfl⟩

/-- The rest of an attempt that makes some calls in turn and then enters a last state. -/
def Performs (x : TransferAttempt ν α) (calls : List Call) (last : TransferState) : Prop :=
  ∀ (visited : List TransferState) (record : Work.Record ν) (outcome : Except Error α)
    (visited' : List TransferState), (x.run.run visited).Runs record (outcome, visited') →
    ∃ made : List MadeCall, record = made.map MadeCall.inWork ∧ InTurn calls made outcome.isOk ∧
      visited' = if outcome.isOk then visited ++ [last] else visited

theorem performs_advance (last : TransferState) (a : α) :
    (advance last >>= fun _ => pure a : TransferAttempt ν α).Performs [] last := by
  rintro visited record outcome visited' ⟨rfl, ends⟩
  cases ends
  exact ⟨[], rfl, .done, rfl⟩

theorem performs_call {c : Call} {calls : List Call} {last : TransferState}
    {f : c.Answer → TransferAttempt ν β} (later : ∀ a, (f a).Performs calls last) :
    (call c >>= f).Performs (c :: calls) last := by
  intro visited record outcome visited' run
  obtain ⟨e, failed, rfl⟩ | ⟨before, a, between, after, rfl, called, rest⟩ := runs_then run
  · obtain ⟨asked, rfl⟩ := runs_perform failed
    obtain rfl := runs_question.1 asked
    exact ⟨[⟨c, .error e⟩], rfl, .failed c calls e, rfl⟩
  · obtain ⟨asked, rfl⟩ := runs_perform called
    obtain rfl := runs_question.1 asked
    obtain ⟨made, rfl, turn, entered⟩ := later a _ _ _ _ rest
    exact ⟨⟨c, .ok a⟩ :: made, rfl, .next c a turn, entered⟩

end TransferAttempt

namespace Task

variable {ν : Type} {first second : Int} {record : Work.Record ν}
  {outcome : Except Error (Account × Account)}

/-- A pair is locked by two claims in turn, and the first account is what its claim answered. -/
theorem LocksPair.inTurn (locked : LocksPair first second record outcome) :
    ∃ made : List MadeCall, record = made.map MadeCall.inWork ∧
      InTurn [.claim (min first second), .claim (max first second)] made outcome.isOk ∧
      ∀ accounts, outcome = .ok accounts → ∀ a : Account,
        ⟨.claim first, .ok a⟩ ∈ made → a = accounts.1 := by
  cases locked with
  | same eq => exact ⟨[], rfl, .gaveUp _ _, by rintro _ ⟨⟩⟩
  | low apart e =>
    exact ⟨[⟨.claim (min first second), .error e⟩], rfl, .failed _ _ e, by rintro _ ⟨⟩⟩
  | high apart a e =>
    exact ⟨[⟨.claim (min first second), .ok a⟩, ⟨.claim (max first second), .error e⟩], rfl,
      .next (.claim _) a (.failed _ _ e), by rintro _ ⟨⟩⟩
  | ascending below a b =>
    rw [Int.min_eq_left (Int.le_of_lt below), Int.max_eq_right (Int.le_of_lt below)]
    refine ⟨[⟨.claim first, .ok a⟩, ⟨.claim second, .ok b⟩], rfl,
      .next (.claim _) a (.next (.claim _) b .done), ?_⟩
    rintro _ ⟨⟩ found mem
    have apart := Int.ne_of_lt below
    simp_all
  | descending above a b =>
    rw [Int.min_eq_right (Int.le_of_lt above), Int.max_eq_left (Int.le_of_lt above)]
    refine ⟨[⟨.claim second, .ok b⟩, ⟨.claim first, .ok a⟩], rfl,
      .next (.claim _) b (.next (.claim _) a .done), ?_⟩
    rintro _ ⟨⟩ found mem
    have apart := Int.ne_of_gt above
    simp_all

end Task

/-! ## The course -/

/-- The states that an attempt goes through, and whether its changes are applied in the end. -/
structure TransferState.Life (applied : Bool) (visited : List TransferState) : Prop where
  starts : visited.head? = some .validated
  /-- Every state may follow the one before. -/
  advances : visited.IsChain fun s next => s.canAdvanceTo next = true
  /-- Nothing follows a state that is terminal. -/
  lasting : ∀ s ∈ visited.dropLast, s.isTerminal = false
  applied_iff : visited.getLast? = some .applied ↔ applied = true
  aborted_iff : visited.getLast? = some .aborted ↔ applied = false

namespace TransferRequest

open TransferAttempt

variable {ν : Type} {r : TransferRequest} {visited visited' : List TransferState}
  {record : Work.Record ν} {outcome : Except Error TransferResult}

/-- The calls that claim the accounts of a transfer, the one with the lower id first. -/
def claims (r : TransferRequest) : List Call :=
  [.claim (min r.source r.destination), .claim (max r.source r.destination)]

/-- The calls that book a transfer. -/
def bookings (r : TransferRequest) : List Call :=
  [.adjust r.source (-r.amount), .adjust r.destination r.amount, .createEntry r.source (-r.amount),
    .createEntry r.destination r.amount, .createTransfer r.source r.destination r.amount]

/-- All calls of a transfer. -/
def calls (r : TransferRequest) : List Call := r.claims ++ r.bookings

/-- If the source of a transfer holds too little, there is nothing but claims. -/
def Funded (r : TransferRequest) (made : List MadeCall) : Prop :=
  ∀ a : Account, ⟨.claim r.source, .ok a⟩ ∈ made → a.balance < r.amount →
    ∀ e ∈ made, e.call ∈ r.claims

theorem Funded.of_append {made more : List MadeCall} (funded : r.Funded (made ++ more)) :
    r.Funded made := fun a claimed poor e mem =>
  funded a (List.mem_append_left _ claimed) poor e (List.mem_append_left _ mem)

/-- What an attempt at a transfer came to, the states it went through, and the calls it made, keep
in step. -/
structure Course (r : TransferRequest) (outcome : Except Error TransferResult)
    (visited : List TransferState) (made : List MadeCall) : Prop
    extends TransferState.Life outcome.isOk visited where
  inOrder : made.map (·.call) <+: r.calls
  ok_iff : outcome.isOk = true ↔ made.map (·.call) = r.calls ∧ ∀ e ∈ made, e.succeeded = true
  /-- Nothing is called after a failure. -/
  stops : ∀ e ∈ made.dropLast, e.succeeded = true
  funded : r.Funded made

theorem course_of_inTurn {made : List MadeCall} (life : TransferState.Life outcome.isOk visited)
    (turn : InTurn r.calls made outcome.isOk) (funded : r.Funded made) :
    r.Course outcome visited made :=
  ⟨life, turn.isPrefix, turn.all_iff, turn.succeeded_of_mem_dropLast, funded⟩

/-- What is done once the balance has been looked at, call by call. -/
theorem runs_book
    (run : ((r.book : TransferAttempt ν TransferResult).run.run visited).Runs record
      (outcome, visited')) :
    ∃ made : List MadeCall, record = made.map MadeCall.inWork ∧
      InTurn r.bookings made outcome.isOk ∧
      visited' = if outcome.isOk then visited ++ [.balanceChecked] ++ [.applied]
        else visited ++ [.balanceChecked] := by
  obtain ⟨rest, looked, performs⟩ : ∃ rest : Unit → TransferAttempt ν TransferResult,
      r.book = advance .balanceChecked >>= rest ∧ (rest ()).Performs r.bookings .applied :=
    ⟨_, rfl, performs_call fun _ => performs_call fun _ => performs_call fun _ =>
      performs_call fun _ => performs_call fun _ => performs_advance _ _⟩
  rw [looked] at run
  exact performs _ _ _ _ run

theorem not_claim_of_mem_bookings {id : Int} : Call.claim id ∉ r.bookings := by
  simp [bookings]

/-- The states that an attempt enters before it is aborted. -/
def Entered (outcome : Except Error TransferResult) (entered : List TransferState) : Prop :=
  if outcome.isOk then entered = [.locked, .balanceChecked, .applied]
  else entered <+: [.locked, .balanceChecked]

/-- What is carried out of a transfer, call by call. -/
theorem runs_carryOut
    (run : ((r.carryOut : TransferAttempt ν TransferResult).run.run visited).Runs record
      (outcome, visited')) :
    ∃ made : List MadeCall, record = made.map MadeCall.inWork ∧ InTurn r.calls made outcome.isOk ∧
      r.Funded made ∧ ∃ entered, visited' = visited ++ entered ∧ Entered outcome entered := by
  rw [carryOut_eq] at run
  obtain ⟨e, unlocked, rfl⟩ | ⟨_, accounts, _, after, rfl, locked, rest⟩ := runs_then run
  · obtain ⟨ran, rfl⟩ := runs_perform unlocked
    obtain ⟨made, rfl, turn, -⟩ := (Task.runs_lockPair.1 ran).inTurn
    exact ⟨made, rfl, turn.append_of_not_all, fun _ _ _ e mem =>
      turn.isPrefix.subset (List.mem_map_of_mem mem), [], (List.append_nil _).symm, List.nil_prefix⟩
  · obtain ⟨ran, rfl⟩ := runs_perform locked
    obtain ⟨claimed, rfl, turn, found⟩ := (Task.runs_lockPair.1 ran).inTurn
    have inClaims (e : MadeCall) (mem : e ∈ claimed) : e.call ∈ r.claims :=
      turn.isPrefix.subset (List.mem_map_of_mem mem)
    by_cases short : accounts.1.balance < r.amount
    · simp only [if_pos short] at rest
      obtain ⟨rfl, ends⟩ := rest
      cases ends
      have gaveUp : InTurn r.calls (claimed ++ []) false := turn.append (.gaveUp _ _)
      rw [List.append_nil] at gaveUp
      exact ⟨claimed, List.append_nil _, gaveUp, fun _ _ _ => inClaims, [.locked], rfl,
        [.balanceChecked], rfl⟩
    · simp only [if_neg short] at rest
      obtain ⟨made, rfl, turn', rfl⟩ := runs_book rest
      refine ⟨claimed ++ made, List.map_append.symm, turn.append turn', ?_, ?_⟩
      · intro a mem poor
        rcases List.mem_append.1 mem with mem | mem
        · exact absurd (found _ rfl a mem ▸ poor) short
        · exact absurd (turn'.isPrefix.subset (List.mem_map_of_mem mem)) not_claim_of_mem_bookings
      · cases outcome with
        | error e => exact ⟨[.locked, .balanceChecked], List.append_assoc .., List.prefix_rfl⟩
        | ok result =>
          refine ⟨[.locked, .balanceChecked, .applied], ?_, rfl⟩
          simp [Except.isOk, Except.toBool]

theorem life_applied :
    TransferState.Life true [.validated, .locked, .balanceChecked, .applied] := by
  constructor <;> decide

/-- Wherever an attempt fails, it is aborted. -/
theorem life_aborted {entered : List TransferState}
    (part : entered <+: [.locked, .balanceChecked]) :
    TransferState.Life false (aborted ([.validated] ++ entered)) := by
  simp only [List.prefix_cons_iff, List.prefix_nil] at part
  obtain rfl | ⟨_, rfl, rfl | ⟨_, rfl, rfl⟩⟩ := part <;> constructor <;> decide

/-- A whole attempt, call by call. -/
theorem runs_execute
    (run : (r.execute : Work ν (Except Error TransferResult × List TransferState)).Runs record
      (outcome, visited)) :
    ∃ made : List MadeCall, record = made.map MadeCall.inWork ∧ InTurn r.calls made outcome.isOk ∧
      r.Funded made ∧ TransferState.Life outcome.isOk visited := by
  obtain ⟨_, ⟨carried, states⟩, _, rfl, ran, ends⟩ := runs_bind.1 run
  obtain ⟨made, rfl, turn, funded, entered, rfl, entering⟩ := runs_carryOut ran
  cases carried with
  | error e =>
    obtain ⟨rfl, ends⟩ := ends
    cases ends
    exact ⟨made, List.append_nil _, turn, funded, life_aborted entering⟩
  | ok result =>
    obtain ⟨rfl, ends⟩ := ends
    cases ends
    obtain rfl : entered = [.locked, .balanceChecked, .applied] := entering
    exact ⟨made, List.append_nil _, turn, funded, life_applied⟩

end TransferRequest

/-! ## What reaches the store -/

namespace Store

variable {σ τ ν α : Type} {store : Store σ τ} {ctx : Context}

/-- The same store, with transactions that remember the calls that reached them. -/
def recording (store : Store σ τ) : Store σ (τ × List MadeCall) where
  name := store.name
  begin w :=
    match store.begin w with
    | (.ok tx, w) => (.ok (tx, []), w)
    | (.error e, w) => (.error e, w)
  call c tx w :=
    let (outcome, inner, w) := store.call c tx.1 w
    (outcome, (inner, tx.2 ++ [⟨c, outcome⟩]), w)
  commit tx := store.commit tx.1
  rollback tx := store.rollback tx.1
  release tx := store.release tx.1

/-- Forget what the open transaction remembers. -/
def forgetting (seat : Seat σ (τ × List MadeCall) ν) : Seat σ τ ν :=
  ⟨seat.world, seat.transaction.map (·.1), seat.sent⟩

theorem perform_recording (q : Step ν) (seat : Seat σ (τ × List MadeCall) ν) :
    store.perform q (forgetting seat) =
      ((store.recording.perform q seat).1, forgetting (store.recording.perform q seat).2) := by
  obtain ⟨world, opened, sent⟩ := seat
  cases q with
  | now | check ctx | wait d | cancel token | notify notice => rfl
  | commit | rollback => cases opened <;> rfl
  | begin ctx =>
    simp only [perform, forgetting]
    cases ctx.check world.moment with
    | error e => rfl
    | ok u =>
      cases opened with
      | none =>
        simp only [recording, Option.map_none]
        split <;> simp_all
      | some tx =>
        simp only [recording, Option.map_some]
        split <;> simp_all
  | call ctx c =>
    simp only [perform, forgetting]
    cases ctx.check world.moment with
    | error e => rfl
    | ok u => cases opened <;> rfl

/-- A run does not notice that the store remembers its calls. -/
theorem run_recording (stir : Nat → World σ → World σ) (p : Procedure ν α)
    (seat : Seat σ (τ × List MadeCall) ν) (n : Nat) :
    (p.exec (store.performAmid stir) (forgetting seat, n)).1 =
        (p.exec (store.recording.performAmid stir) (seat, n)).1 ∧
      p.transcript (store.performAmid stir) (forgetting seat, n) =
        p.transcript (store.recording.performAmid stir) (seat, n) := by
  induction p generalizing seat n with
  | done a => exact ⟨rfl, rfl⟩
  | ask q next ih =>
    have same : store.performAmid stir q (forgetting seat, n) =
        ((store.recording.performAmid stir q (seat, n)).1,
          (forgetting (store.recording.performAmid stir q (seat, n)).2.1, n + 1)) := by
      simp only [performAmid]
      rw [show { forgetting seat with world := stir n (forgetting seat).world } =
        forgetting { seat with world := stir n seat.world } from rfl, perform_recording]
    obtain ⟨value, later⟩ := ih (store.recording.performAmid stir q (seat, n)).1
      (store.recording.performAmid stir q (seat, n)).2.1 (n + 1)
    simp only [Program.exec, Program.transcript, same]
    exact ⟨value, congrArg (_ :: ·) later⟩

/-- A call is turned down by the context, or reaches the store and is remembered. -/
theorem takes_call_recording {stirs : World σ → World σ → Prop} {c : Call} {outcome : c.Outcome}
    {seat seat' : Seat σ (τ × List MadeCall) ν} {tx : τ} {earlier : List MadeCall}
    (opened : seat.transaction = some (tx, earlier))
    (taken : store.recording.Takes stirs seat (.call ctx c) outcome seat') :
    (∃ reason, outcome = .error (.cancelled reason) ∧ seat'.transaction = some (tx, earlier)) ∨
      ∃ inner, seat'.transaction = some (inner, earlier ++ [⟨c, outcome⟩]) := by
  obtain ⟨w, -, performed⟩ := taken
  obtain ⟨e, late, rfl, rfl⟩ | ⟨shut, -⟩ | ⟨_, _, _, opened', called, rfl⟩ :=
    perform_call performed
  · obtain ⟨reason, rfl⟩ := Context.cancelled_of_check late
    exact .inl ⟨reason, rfl, opened⟩
  · cases shut.symm.trans opened
  · cases opened'.symm.trans opened
    cases called
    exact .inr ⟨_, rfl⟩

/-- Every call reaches the store, but for a last one that the context turned down. -/
theorem along_recording {stirs : World σ → World σ → Prop} {calls : List Call}
    {asked : List MadeCall} {all : Bool} (turn : InTurn calls asked all)
    {seat seat' : Seat σ (τ × List MadeCall) ν} {tx : τ} {earlier : List MadeCall}
    (way : Along (store.recording.Takes stirs) seat (asked.map (MadeCall.under ctx)) seat')
    (opened : seat.transaction = some (tx, earlier)) :
    ∃ tx' issued, seat'.transaction = some (tx', earlier ++ issued) ∧
      (issued = asked ∨ ∃ c reason, asked = issued ++ [⟨c, .error (.cancelled reason)⟩]) := by
  induction turn generalizing seat tx earlier with
  | done | gaveUp c rest =>
    cases way
    exact ⟨tx, [], by rw [opened, List.append_nil], .inl rfl⟩
  | failed c rest e =>
    obtain ⟨_, taken, rfl⟩ := way
    obtain ⟨reason, late, kept⟩ | ⟨inner, reached⟩ := takes_call_recording opened taken
    · cases late
      exact ⟨tx, [], by rw [kept, List.append_nil], .inr ⟨c, reason, rfl⟩⟩
    · exact ⟨inner, [⟨c, .error e⟩], reached, .inl rfl⟩
  | next c a _ ih =>
    obtain ⟨_, taken, later⟩ := way
    obtain ⟨reason, late, -⟩ | ⟨inner, reached⟩ := takes_call_recording opened taken
    · cases late
    · obtain ⟨tx', issued, remembered, rest⟩ := ih later reached
      refine ⟨tx', ⟨c, .ok a⟩ :: issued, ?_, ?_⟩
      · rw [remembered, List.append_assoc]
        rfl
      · obtain rfl | ⟨c', reason, rfl⟩ := rest
        · exact .inl rfl
        · exact .inr ⟨c', reason, rfl⟩

end Store

/-! ## The life of an attempt -/

namespace TransferRequest

/-- Whatever a store answers, and whatever goes on around it before each step, an attempt at a
transfer keeps its course: in what it asks of its unit of work, and in what reaches the store. -/
theorem attempt_keeps_course {σ τ ν : Type} (store : Store σ τ) (stir : Nat → World σ → World σ)
    (ctx : Context) (r : TransferRequest) (world : World σ) (tx : τ) (sent : List ν) (n : Nat) :
    let attempt : Procedure ν ((Except Error TransferResult × List TransferState) × List ν) :=
      Coordinator.carryOut ctx [] r.execute
    let ended := attempt.exec (store.performAmid stir) (⟨world, some tx, sent⟩, n)
    let recorded := attempt.exec (store.recording.performAmid stir)
      (⟨world, some (tx, []), sent⟩, n)
    ∃ asked issued tx',
      attempt.transcript (store.performAmid stir) (⟨world, some tx, sent⟩, n) =
        asked.map (MadeCall.under ctx) ∧
      recorded.1 = ended.1 ∧ recorded.2.1.transaction = some (tx', issued) ∧
      (issued = asked ∨ ∃ c reason, asked = issued ++ [⟨c, .error (.cancelled reason)⟩]) ∧
      r.Course ended.1.1.1 ended.1.1.2 asked ∧ r.Course ended.1.1.1 ended.1.1.2 issued := by
  intro attempt ended recorded
  obtain ⟨value, same⟩ : ended.1 = recorded.1 ∧ _ :=
    Store.run_recording stir attempt ⟨world, some (tx, []), sent⟩ n
  have run : attempt.Runs _ recorded.1 := runs_transcript attempt _
  have way : Along (store.recording.Takes fun _ _ => True) ⟨world, some (tx, []), sent⟩ _
      recorded.2.1 := Store.along_performAmid (fun _ _ => trivial) attempt _ n
  obtain ⟨record, ran, trace, -⟩ := Coordinator.runs_carryOut run
  obtain ⟨asked, rfl, turn, funded, life⟩ := runs_execute ran
  rw [MadeCall.enacted_map_inWork] at trace
  rw [trace] at way
  obtain ⟨tx', issued, remembered, reached⟩ := Store.along_recording turn way rfl
  refine ⟨asked, issued, tx', same.trans trace, value.symm, remembered, reached, ?_, ?_⟩
  · rw [value]
    exact course_of_inTurn life turn funded
  · rw [value]
    obtain rfl | ⟨c, reason, rfl⟩ := reached
    · exact course_of_inTurn life turn funded
    · exact course_of_inTurn life (turn.of_concat rfl) funded.of_append

end TransferRequest
end DoubleEntry
