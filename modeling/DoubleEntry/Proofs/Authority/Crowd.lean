import Mathlib.Logic.Function.Basic
import DoubleEntry.Proofs.Authority.Requests
import DoubleEntry.Proofs.Traffic.Foresight

/-!
# Clients of all kinds

At one store in memory, with faults around it, there are clients that ask the service for something,
and others that work on the store as they please: any procedure may be at work there, in
transactions with any calls.  They take their steps in any order, one at a time, and anything that
leaves the committed ledger alone may happen in between.

* `Crowd.consistent_play` — whatever the schedule, the commits form a chain of ledgers in which
  accounts stay, and every client has come to where it is by steps of a client in a crowd.
* `Crowd.makes_of_commit` — so a client that serves a request has committed nothing but what the
  request can make of a ledger, finished or not.
* `Crowd.authorized_amid_others` — **what is done for a user was the user's to do**: although owners
  and currencies are looked at in one transaction and relied on in another, a transfer is committed
  only if its source is the user's own and its sides agree in currency, and nothing that is done for
  the user takes from others or opens accounts for them.
-/

namespace DoubleEntry

open Program Store Traffic

/-- A client at work. -/
structure Guest (ν : Type) where
  /-- Whether it waits for its turn to begin a transaction. -/
  queued : Bool
  /-- What it is still to do. -/
  rest : Procedure ν (Except Error Reply)

/-- Clients at the store, each with a number. -/
structure Crowd (ν : Type) where
  world : World (Faults.State Memory.State)
  /-- The open transaction, and the client that it belongs to. -/
  holder : Option (Nat × Ledger)
  guests : Nat → Guest ν
  commits : List Commit

/-- What can happen next. -/
inductive Crowd.Move where
  /-- A client takes its next step, or waits. -/
  | act (n : Nat)
  /-- The clock, the tokens and the faults change, and the committed ledger does not. -/
  | stir (change : World (Faults.State Memory.State) → World (Faults.State Memory.State))
    (spares : ∀ w, Traffic.keeping.Spares w (change w))

namespace Crowd

variable {ν : Type}

/-- Nobody has taken a step yet. -/
def start (clients : Nat → Procedure ν (Except Error Reply))
    (world : World (Faults.State Memory.State)) : Crowd ν :=
  ⟨world, none, fun n => ⟨false, clients n⟩, []⟩

/-- The store as it is for those who come to it. -/
def desk (t : Crowd ν) : Traffic ν := ⟨t.world, t.holder, [], [], []⟩

/-- The committed ledger. -/
def committed (t : Crowd ν) : Ledger := t.desk.committed

/-- The crowd after a step of a client. -/
def after (t : Crowd ν) (n : Nat) (rest : Procedure ν (Except Error Reply))
    (e : (q : Step ν) × q.Answer) (seat : Seat (Faults.State Memory.State) Ledger ν) : Crowd ν where
  world := seat.world
  holder := t.desk.holderAfter n seat.transaction
  guests := Function.update t.guests n ⟨false, rest⟩
  commits := t.commits ++ logged n e t.committed (keeping.ledger seat)

/-- A client takes its next step. -/
def act (t : Crowd ν) (n : Nat) : Crowd ν :=
  match (t.guests n).rest with
  | .done _ => t
  | .ask q next =>
    match t.desk.answer? n (t.guests n).queued q with
    | some (answer, seat) => t.after n (next answer) ⟨q, answer⟩ seat
    | none => { t with guests := Function.update t.guests n { t.guests n with queued := true } }

/-- Make a move. -/
def move (t : Crowd ν) : Move → Crowd ν
  | .act n => t.act n
  | .stir change _ => { t with world := change t.world }

/-- What a schedule comes to. -/
def play (clients : Nat → Procedure ν (Except Error Reply))
    (world : World (Faults.State Memory.State)) (moves : List Move) : Crowd ν :=
  moves.foldl move (start clients world)

/-- What a client has come to, if it has finished. -/
def outcome? (t : Crowd ν) (n : Nat) : Option (Except Error Reply) :=
  match (t.guests n).rest with
  | .done outcome => some outcome
  | .ask .. => none

/-! ## What is kept at every move -/

/-- How a client has come to where it is: by steps of a client in a crowd, of which the crowd has
the commits. -/
def OnItsWay (t : Crowd ν) (n : Nat) (client : Procedure ν (Except Error Reply)) : Prop :=
  ∃ first past s, (∀ rest outcome, (t.guests n).rest.Runs rest outcome →
      client.Runs (past ++ rest) outcome) ∧
    Along (Standing.Takes Order.crowded) ⟨first, none, [], []⟩ past s ∧ Mirrors (t.desk.seat n) s ∧
    s.published = publishedBy t.commits n

/-- The commits lead from a ledger to the committed one, and every client is on its way. -/
structure Consistent (clients : Nat → Procedure ν (Except Error Reply)) (l : Ledger)
    (t : Crowd ν) : Prop where
  chain : Chain l t.commits t.committed
  grows : ∀ c ∈ t.commits, c.2.1.PersistsIn c.2.2
  guests : ∀ n, t.OnItsWay n (clients n)

section Steps

variable {clients : Nat → Procedure ν (Except Error Reply)} {l : Ledger} {t : Crowd ν} {n m : Nat}

theorem consistent_start (clients : Nat → Procedure ν (Except Error Reply))
    (world : World (Faults.State Memory.State)) :
    Consistent clients (keeping.committed world.data) (start clients world) where
  chain := rfl
  grows := List.forall_mem_nil _
  guests _ := ⟨keeping.committed world.data, [], _, fun _ _ run => run, rfl,
    ⟨.refl _, rfl, nofun⟩, rfl⟩

/-- What happens around the clients is nothing to them. -/
theorem consistent_stir (consistent : Consistent clients l t)
    (change : World (Faults.State Memory.State) → World (Faults.State Memory.State))
    (spares : ∀ w, keeping.Spares w (change w)) :
    Consistent clients l (t.move (.stir change spares)) := by
  obtain ⟨chain, grows, guests⟩ := consistent
  have same : (t.move (.stir change spares)).committed = t.committed := spares t.world
  refine ⟨same ▸ chain, grows, fun n => ?_⟩
  obtain ⟨first, past, s, runs, way, mirrors, published⟩ := guests n
  have grows : t.committed.PersistsIn (t.move (.stir change spares)).committed := by
    rw [same]
    exact .refl _
  have unmoved : Mirrors ((t.move (.stir change spares)).desk.seat n) s :=
    mirrors.unmoved rfl grows fun _ _ => same
  exact ⟨first, past, s, runs, way, unmoved, published⟩

/-- A client that waits is where it was. -/
theorem consistent_queue (consistent : Consistent clients l t) (n : Nat) :
    Consistent clients l
      { t with guests := Function.update t.guests n { t.guests n with queued := true } } := by
  obtain ⟨chain, grows, guests⟩ := consistent
  refine ⟨chain, grows, fun m => ?_⟩
  obtain ⟨first, past, s, runs, way, mirrors, published⟩ := guests m
  refine ⟨first, past, s, ?_, way, mirrors, published⟩
  by_cases same : m = n
  · subst same
    simpa only [Function.update_self] using runs
  · simpa only [Function.update_of_ne same] using runs

section After

variable {q : Step ν} {answer : q.Answer} {next : q.Answer → Procedure ν (Except Error Reply)}
  {seat' : Seat (Faults.State Memory.State) Ledger ν} {client : Procedure ν (Except Error Reply)}

/-- The client that took a step has come one step further. -/
theorem onItsWay_self (way : t.OnItsWay n client) (asks : (t.guests n).rest = .ask q next)
    {queued : Bool} (answered : t.desk.answer? n queued q = some (answer, seat')) :
    (t.after n (next answer) ⟨q, answer⟩ seat').OnItsWay n client := by
  obtain ⟨first, past, s, runs, along, mirrors, published⟩ := way
  obtain ⟨s', taken, mirrors', -, published'⟩ := follows_answer? mirrors answered
  have own : (t.after n (next answer) ⟨q, answer⟩ seat').desk.own n = seat'.transaction :=
    own_of_holderAfter_self rfl
  refine ⟨first, past ++ [⟨q, answer⟩], s', fun rest outcome run => ?_,
    along_append.2 ⟨s, along, s', taken, rfl⟩, mirrors'.seated rfl own, ?_⟩
  · rw [List.append_assoc]
    refine runs _ _ ?_
    rw [asks]
    simp only [after, Function.update_self] at run
    exact ⟨answer, rest, rfl, run⟩
  · rw [published', published, after, publishedBy_logged_self]
    rfl

/-- The other clients have not moved. -/
theorem onItsWay_other (other : n ≠ m) (way : t.OnItsWay m client)
    (grows : t.committed.PersistsIn (keeping.ledger seat')) {queued : Bool}
    (answered : t.desk.answer? n queued q = some (answer, seat'))
    {rest : Procedure ν (Except Error Reply)} :
    (t.after n rest ⟨q, answer⟩ seat').OnItsWay m client := by
  obtain ⟨first, past, s, runs, along, mirrors, published⟩ := way
  have own : (t.after n rest ⟨q, answer⟩ seat').desk.own m = t.desk.own m :=
    own_of_holderAfter_other rfl other.symm fun tx held => free_of_answer? answered held
  refine ⟨first, past, s, ?_, along, mirrors.unmoved own grows (kept_of_answer? other answered), ?_⟩
  · simp only [after, Function.update_of_ne other.symm]
    exact runs
  · rw [published, after, publishedBy_logged_other other]

theorem consistent_after (consistent : Consistent clients l t)
    (asks : (t.guests n).rest = .ask q next) {queued : Bool}
    (answered : t.desk.answer? n queued q = some (answer, seat')) :
    Consistent clients l (t.after n (next answer) ⟨q, answer⟩ seat') := by
  obtain ⟨chain, grows, guests⟩ := consistent
  obtain ⟨_, _, _, _, _, mirrors, _⟩ := guests n
  have grown : t.committed.PersistsIn (keeping.ledger seat') := mirrors.grows answered
  refine ⟨chain_after chain answered, fun c mem => ?_, fun m => ?_⟩
  · rcases List.mem_append.1 mem with before | new
    · exact grows c before
    · unfold logged at new
      split at new
      · rw [List.mem_singleton.1 new]
        exact grown
      · cases new
  · by_cases same : n = m
    · subst same
      exact onItsWay_self (guests n) asks answered
    · exact onItsWay_other same (guests m) grown answered

theorem consistent_act (consistent : Consistent clients l t) (n : Nat) :
    Consistent clients l (t.act n) := by
  unfold act
  split
  · exact consistent
  · rename_i q next asks
    split
    · rename_i answer seat' answered
      exact consistent_after consistent asks answered
    · exact consistent_queue consistent n

end After

theorem consistent_move (consistent : Consistent clients l t) (m : Move) :
    Consistent clients l (t.move m) := by
  cases m with
  | act n => exact consistent_act consistent n
  | stir change spares => exact consistent_stir consistent change spares

/-- At every moment the crowd is consistent. -/
theorem consistent_play (clients : Nat → Procedure ν (Except Error Reply))
    (world : World (Faults.State Memory.State)) (moves : List Move) :
    Consistent clients (keeping.committed world.data) (play clients world moves) :=
  List.foldlRecOn moves move (consistent_start clients world)
    fun _ consistent m _ => consistent_move consistent m

/-! ## Commits -/

/-- No commit is taken back. -/
theorem commits_move (t : Crowd ν) (m : Move) : t.commits <+: (t.move m).commits := by
  cases m with
  | act n =>
    unfold move act
    dsimp only
    split
    · exact List.prefix_rfl
    · split
      · exact List.prefix_append ..
      · exact List.prefix_rfl
  | stir change spares => exact List.prefix_rfl

theorem commits_moves (t : Crowd ν) (moves : List Move) :
    t.commits <+: (moves.foldl move t).commits :=
  List.foldlRecOn (motive := fun t' : Crowd ν => t.commits <+: t'.commits) moves move
    List.prefix_rfl fun t' kept m _ => kept.trans (commits_move t' m)

/-- What was committed stays in the committed ledger. -/
theorem Consistent.persists (consistent : Consistent clients l t) {b made : Ledger}
    (mem : (n, b, made) ∈ t.commits) : made.PersistsIn t.committed := by
  obtain ⟨before, later, split⟩ := List.append_of_mem mem
  have grows (c : Commit) (mem : c ∈ later) : c.2.1.PersistsIn c.2.2 :=
    consistent.grows c (by simp [split, mem])
  have chain := consistent.chain
  rw [split] at chain
  obtain ⟨_, -, -, chain⟩ := chain_append.1 chain
  exact chain.relates .refl .trans grows

section Requests

variable {c : Coordinator} {ctx : Context} {store : String} {p : Principal}

/-- A client that serves a request has committed only what the request can make of a ledger. -/
theorem makes_of_commit (consistent : Consistent clients l t) {ask : Ask ν}
    (serves : clients n = (ask.serve c store ctx).run) {b made : Ledger}
    (mem : (n, b, made) ∈ t.commits) : ask.Makes ctx b made := by
  obtain ⟨first, past, s, runs, along, -, published⟩ := consistent.guests n
  -- The client may be in the middle of its work; it can end without another commit.
  obtain ⟨rest, outcome, s', run, later, kept, -⟩ := ends_unpublished (t.guests n).rest s
  have whole := runs rest outcome run
  rw [serves] at whole
  have here : (b, made) ∈ s'.published := by
    rw [kept, published]
    exact mem_publishedBy.2 mem
  obtain before | makes := Ask.makes_of_serve whole (along_append.2 ⟨s, along, later⟩) _ here
  · cases before
  · exact makes

/-- A client that has finished has done so by steps of a client in a crowd, of which the crowd has
the commits. -/
theorem Consistent.runs_of_outcome (consistent : Consistent clients l t)
    {outcome : Except Error Reply} (finished : t.outcome? n = some outcome) :
    ∃ first trace s, (clients n).Runs trace outcome ∧
      Along (Standing.Takes Order.crowded) ⟨first, none, [], []⟩ trace s ∧
      s.published = publishedBy t.commits n := by
  obtain ⟨first, past, s, runs, along, -, published⟩ := consistent.guests n
  have ended : (t.guests n).rest = .done outcome := by
    unfold outcome? at finished
    split at finished
    · rename_i outcome ended
      rw [ended, Option.some.inj finished]
    · cases finished
  have whole := runs [] outcome (by rw [ended]; exact ⟨rfl, rfl⟩)
  rw [List.append_nil] at whole
  exact ⟨first, past, s, whole, along, published⟩

/-- A transfer that is reported as done was authorized, and is so in the committed ledger. -/
theorem authorizes_of_outcome (consistent : Consistent clients l t) {r : TransferRequest}
    {listeners : List (TransferResult → ν)} (acting : ctx.principal = some p)
    (serves : clients n = ((.transfer r listeners : Ask ν).serve c store ctx).run) {reply : Reply}
    (finished : t.outcome? n = some (.ok reply)) : t.committed.Authorizes p r := by
  obtain ⟨first, trace, s, whole, along, published⟩ := consistent.runs_of_outcome finished
  rw [serves] at whole
  obtain ⟨b, made, times, result, mem, done⟩ := Ask.moves_of_serve whole along
  rw [published] at mem
  have mem := mem_publishedBy.1 mem
  rw [acting] at done
  exact ((Ledger.of_transfer_for done).1.persists (consistent.grows _ mem)).persists
    (consistent.persists mem)

/-- A client that serves a request in the name of a user. -/
def ActsFor (p : Principal) (client : Procedure ν (Except Error Reply)) : Prop :=
  ∃ (c : Coordinator) (ctx : Context) (store : String) (ask : Ask ν),
    ctx.principal = some p ∧ client = (ask.serve c store ctx).run

theorem respects_of_commit (consistent : Consistent clients l t) (acts : ActsFor p (clients n))
    {b made : Ledger} (mem : (n, b, made) ∈ t.commits) : b.Respects p made := by
  obtain ⟨c, ctx, store, ask, acting, serves⟩ := acts
  exact (makes_of_commit consistent serves mem).respects acting

end Requests
end Steps

/-- Clients of all kinds work on a store, amid faults and in any order.  A transfer that a user
`p` asks for is committed only if its source is `p`'s own and its sides agree in currency, in the
ledger that the commit publishes and in every later one.  No commit of a client that acts for `p`
takes from the accounts of others or opens an account for them; nor does a whole stretch of the
schedule in which only such clients commit. -/
theorem authorized_amid_others (clients : Nat → Procedure ν (Except Error Reply))
    (world : World (Faults.State Memory.State)) (p : Principal) (earlier later : List Move) :
    let before := play clients world earlier
    let now := play clients world (earlier ++ later)
    (∀ n c ctx store r listeners, ctx.principal = some p →
      clients n = ((.transfer r listeners : Ask ν).serve c store ctx).run →
        (∀ b l, (n, b, l) ∈ now.commits → l ≠ b →
          l.Authorizes p r ∧ now.committed.Authorizes p r) ∧
        ∀ reply, now.outcome? n = some (.ok reply) → now.committed.Authorizes p r) ∧
    (∀ n b l, (n, b, l) ∈ now.commits → ActsFor p (clients n) → b.Respects p l) ∧
    ∃ more, now.commits = before.commits ++ more ∧
      ((∀ commit ∈ more, ActsFor p (clients commit.1)) →
        before.committed.Respects p now.committed) := by
  intro before now
  have consistent : Consistent clients _ now := consistent_play clients world _
  refine ⟨?transfers, fun n b l mem acts => respects_of_commit consistent acts mem, ?stretch⟩
  case transfers =>
    intro n c ctx store r listeners acting serves
    refine ⟨fun b l mem changed => ?_, fun reply => authorizes_of_outcome consistent acting serves⟩
    have authorized := (makes_of_commit consistent serves mem).authorizes acting changed
    have published := authorized.persists (consistent.grows _ mem)
    exact ⟨published, published.persists (consistent.persists mem)⟩
  case stretch =>
    have goesOn : now = later.foldl move before := List.foldl_append ..
    obtain ⟨more, grown⟩ := commits_moves before later
    rw [← goesOn] at grown
    have chain := consistent.chain
    rw [← grown] at chain
    obtain ⟨between, first, chain⟩ := chain_append.1 chain
    obtain rfl := first.unique (consistent_play clients world earlier).chain
    refine ⟨more, grown.symm, fun act => chain.relates (.refl p) .trans fun commit mem => ?_⟩
    refine respects_of_commit (n := commit.1) consistent (act commit mem) ?_
    rw [← grown]
    exact List.mem_append_right _ mem

/-- Somebody who takes from an account and opens another one without asking the service. -/
def teller : Procedure Int (Except Error Reply) := do
  let ctx := Context.background ⟨1⟩
  let _ ← Procedure.step (.begin ctx)
  let _ ← Procedure.step (.call ctx (.adjust 1 (-60)))
  let opened ← Procedure.step (.call ctx (.createAccount "carol" .usd 30))
  let _ ← Procedure.step .commit
  pure (opened.map .account)

/-- Alice, who asks the service for a transfer to Bob, and a teller. -/
def customers : Nat → Procedure Int (Except Error Reply)
  | 0 => ((.transfer ⟨1, 2, 30⟩ [(·.transfer.id)] : Ask Int).serve ⟨.standard, none, fun _ => 0⟩
    "memory" ((Context.background ⟨0⟩).actingAs "alice")).run
  | _ => teller

/-- A store with the accounts of Alice and Bob. -/
def branch : World (Faults.State Memory.State) :=
  ⟨⟨0, []⟩, .ofInner { Memory.State.empty with committed := { Ledger.empty with
    accounts := [⟨1, "alice", 100, .usd, .ofNanos 0⟩, ⟨2, "bob", 50, .usd, .ofNanos 0⟩]
    lastAccount := 2 } }⟩

/-- The teller comes after Alice's accounts were looked at and before her transfer is booked. -/
theorem authorized_amid_others_teller :
    let before := play customers branch (.replicate 6 (.act 0) ++ .replicate 5 (.act 1))
    let now := play customers branch
      (.replicate 6 (.act 0) ++ .replicate 5 (.act 1) ++ .replicate 12 (.act 0))
    now.commits.map (·.1) = [0, 1, 0] ∧
      before.committed.accounts.map (·.balance) = [40, 50, 30] ∧
      now.committed.accounts.map (·.balance) = [10, 80, 30] ∧
      now.committed.Authorizes ⟨"alice"⟩ ⟨1, 2, 30⟩ ∧
      before.committed.Respects ⟨"alice"⟩ now.committed := by
  intro before now
  obtain ⟨transfers, -, more, grown, respects⟩ := authorized_amid_others customers branch ⟨"alice"⟩
    (.replicate 6 (.act 0) ++ .replicate 5 (.act 1)) (.replicate 12 (.act 0))
  have done : ((now.outcome? 0).bind Except.toOption).isSome = true := by decide +kernel
  obtain ⟨reply, done⟩ := Option.isSome_iff_exists.1 done
  obtain ⟨outcome, finished, ok⟩ := Option.bind_eq_some_iff.1 done
  obtain rfl : outcome = .ok reply := by
    cases outcome with
    | error e => cases ok
    | ok reply => rw [Option.some.inj ok]
  have last : ∀ commit ∈ now.commits.drop before.commits.length, commit.1 = 0 := by
    decide +kernel
  refine ⟨by decide +kernel, by decide +kernel, by decide +kernel,
    (transfers 0 _ _ _ _ _ rfl rfl).2 reply finished, respects fun commit mem => ?_⟩
  have own : commit.1 = 0 := by
    refine last commit ?_
    rw [show now.commits = before.commits ++ more from grown, List.drop_left]
    exact mem
  rw [own]
  exact ⟨_, _, _, _, rfl, rfl⟩

end Crowd
end DoubleEntry
